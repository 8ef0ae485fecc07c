import InstancePool.Proofs.Moves

/-!
# Commits

An instance comes into use in two ways: an allocation ends its claim, or enters the instance that it
has built. Either is a commit. However many callers allocate and release, no instance is handed out
twice, and whoever is handed one has committed it.

* `Event.commits`: an instance comes into use;
* `using_until_released`: between two commits there is a release;
* `committed_once`: the one commit of an allocation that has ended well;
* `no_double_allocation`: both, for every run.
-/

namespace InstancePool

open Pool (Entry State)
open Simulation (RegistryDouble)
open Custody

variable {ι : Type}

/-- The event brings an instance into use. -/
def Event.commits (e : Event ι) (cid : UInt64) : Prop :=
  Pool.stateOf? e.before cid ≠ some .using ∧ Pool.stateOf? e.after cid = some .using

variable [DecidableEq ι] {fresh : UInt64 → Prop} {tasks : ι → Task} {entries : List Entry}
  {history earlier : List (Event ι)} {commit : Event ι} {cid : UInt64}

/-! ## 1. Between two commits -/

/-- **An instance stays in use until a release takes it.** -/
theorem using_until_released {between : List (Event ι)}
    (h : Custody.Record fresh tasks entries (between ++ commit :: earlier))
    (used : Pool.stateOf? commit.after cid = some .using) :
    (∃ r ∈ between, (tasks r.caller).releases = true ∧ r.moves cid (some .using) (some .free)) ∨
      Pool.stateOf? (entriesAfter entries (between ++ commit :: earlier)) cid = some .using := by
  induction between with
  | nil => exact .inr used
  | cons e between ih =>
    cases h with
    | cons recorded fits same =>
      rcases ih recorded with ⟨r, hr, release⟩ | still
      · exact .inl ⟨r, List.mem_cons_of_mem e hr, release⟩
      · have before : Pool.stateOf? e.before cid = some .using := same ▸ still
        have move := fits.move cid
        rw [before] at move
        rcases move.of_using with kept | ⟨releasing, free⟩
        · exact .inr kept
        · have releases := (stageOf_releasing recorded e.caller).mp releasing
          exact .inl ⟨e, List.mem_cons_self, releases, before, free⟩

/-! ## 2. The commit of a caller -/

/-- Who has committed an instance has nothing left to do. -/
theorem stageOf_commits (h : Custody.Record fresh tasks entries history) :
    ∀ e ∈ history, e.commits cid → Custody.stageOf fresh tasks e.caller history = .committed cid ∨
      Custody.stageOf fresh tasks e.caller history = .closed := by
  induction h with
  | nil => exact fun e he => nomatch he
  | @cons e earlier recorded fits same ih =>
    intro e' he' commits
    rcases List.mem_cons.mp he' with rfl | he'
    · rw [stageOf_self]
      exact ((fits.move cid).to_using commits.1 commits.2).2
    · have ended := ih e' he' commits
      have hi : e.caller ≠ e'.caller := by
        intro hi
        rw [← hi] at ended
        exact ended.elim (fits.unfinished rfl) (fits.unfinished rfl)
      rw [stageOf_other hi]
      exact ended

/-- The one commit of a caller: it made this one, for this instance, and no other. -/
def CommittedOnce (i : ι) (cid : UInt64) (history : List (Event ι)) : Prop :=
  ∃ later e earlier, history = later ++ e :: earlier ∧ e.caller = i ∧
    (∀ c, e.commits c ↔ c = cid) ∧
    ∀ other ∈ later ++ earlier, other.caller = i → ∀ c, ¬ other.commits c

/-- **Whoever is committed has made one commit.** -/
theorem committed_once (h : Custody.Record fresh tasks entries history) {i : ι}
    (committed : Custody.stageOf fresh tasks i history = .committed cid) :
    CommittedOnce i cid history := by
  induction h with
  | nil =>
    rcases first_cases (tasks i) with h | h
    · exact nomatch h.symm.trans committed
    · exact nomatch h.symm.trans committed
  | @cons e earlier recorded fits same ih =>
    by_cases hi : e.caller = i
    · subst hi
      rw [stageOf_self] at committed
      have commits : e.commits cid := (fits.move cid).to_committed (fits.unfinished rfl) committed
      have got : ∀ c, e.commits c → Custody.stageOf fresh tasks e.caller earlier = .holding c ∨
          Custody.stageOf fresh tasks e.caller earlier = .building c := fun c hc =>
        ((fits.move c).to_using hc.1 hc.2).1
      refine ⟨[], e, earlier, rfl, rfl, fun c => ⟨fun hc => ?_, ?_⟩, fun other ho caller c hc => ?_⟩
      · rcases got c hc with h | h <;> rcases got cid commits with h' | h' <;>
          cases h.symm.trans h' <;> rfl
      · rintro rfl
        exact commits
      · have ended := stageOf_commits recorded other ho hc
        rw [caller] at ended
        rcases got cid commits with h | h <;> rcases ended with h' | h' <;> cases h.symm.trans h'
    · rw [stageOf_other hi] at committed
      obtain ⟨later, e', earlier', rfl, caller, commits, others⟩ := ih committed
      refine ⟨e :: later, e', earlier', rfl, caller, commits, fun other ho hc => ?_⟩
      rcases List.mem_cons.mp ho with rfl | ho
      · exact absurd hc hi
      · exact others other ho hc

/-! ## 3. No double allocation -/

/-- Between two commits of an instance a release has made it free, and an allocation that has ended
    well has made one commit, for the instance it answers. -/
structure NoDoubleAllocation (tasks : ι → Task) (t : Traffic ι) : Prop where
  released : ∀ cid second between first earlier,
    second :: (between ++ first :: earlier) <:+ t.history → first.commits cid → second.commits cid →
      ∃ r ∈ between, (tasks r.caller).releases = true ∧ r.moves cid (some .using) (some .free)
  once : ∀ i answer, t.rest i = .done (some answer) → CommittedOnce i answer.cid t.history

/-- **No instance is handed out twice**, however many allocations and releases there are and in
    whatever order they take turns. -/
theorem no_double_allocation {schedule : List (Turn ι)} (registry : RegistryDouble)
    (pooled : ∀ i, (tasks i).Pooled) (truthful : ∀ turn ∈ schedule, turn.Truthful) :
    NoDoubleAllocation tasks ((Traffic.start tasks registry).after schedule) := by
  let t := (Traffic.start tasks registry).after schedule
  have record : Custody.Record (fun _ => True) tasks registry.entries t.history :=
    custody_record registry pooled truthful fun _ _ _ _ _ => trivial
  refine ⟨fun cid second between first earlier before hf hs => ?_, fun i answer answered => ?_⟩
  · cases record.suffix before with
    | cons recorded fits same =>
      rcases using_until_released recorded hf.2 with release | still
      · exact release
      · exact absurd (same ▸ still) hs.1
  · have obeys : (t.rest i).Obeys (custody fun _ => True)
        (Custody.stageOf (fun _ => True) tasks i t.history) Ends :=
      custody_rest registry pooled truthful (fun _ _ _ _ _ => trivial) i
    rw [answered] at obeys
    exact committed_once record obeys

namespace Sample

/-- A request that no entry fits, and for which nothing is looked up. -/
def order : Unit → Task := fun _ =>
  .create { agent := { mbus := "nats" } } { request with externalIp := some (.v4 10 0 0 42) }

/-- A turn in which the cloud builds the instance at once. -/
def build : Turn Unit where
  caller := ()
  cloud
    | .createInstance _ => .ok { cid := 42 }
    | .getInstance cid => .ok { cid }
    | .lastTransaction _ =>
      .ok (some ⟨1, some Transaction.serviceSetup, some Transaction.complete, none⟩)
    | .pushSettings _ _ => .ok ()
    | _ => .error (.cloud "unreachable")

/-- Nine questions later the instance is there. -/
theorem order_answered : ∃ answer, answer.cid = 42 ∧
    ((Traffic.start order {}).after (List.replicate 9 build)).rest () = .done (some answer) := by
  have r4 : ((Traffic.start order {}).after (List.replicate 4 build)).rest () = _ := rfl
  conv at r4 => rhs; whnf
  simp only [Program.bind] at r4
  -- The wait polls by well-founded recursion, so its first poll is opened by its equation.
  rw [Wait.pollFrom] at r4
  conv at r4 => rhs; whnf
  obtain ⟨r5, d5⟩ := Traffic.advance_asks build r4
  conv at r5 => rhs; whnf
  obtain ⟨r6, d6⟩ := Traffic.advance_asks build r5
  conv at r6 => rhs; whnf
  obtain ⟨r7, d7⟩ := Traffic.advance_asks build r6
  conv at r7 => rhs; whnf
  obtain ⟨r8, d8⟩ := Traffic.advance_asks build r7
  conv at r8 => rhs; whnf
  obtain ⟨r9, -⟩ := Traffic.advance_asks build r8
  rw [d8, d7, d6, d5] at r9
  conv at r9 => rhs; whnf
  exact ⟨_, rfl, r9⟩

end Sample

theorem no_double_allocation_in_order :
    (∀ i, (Sample.order i).Pooled) ∧ (∀ turn ∈ List.replicate 9 Sample.build, turn.Truthful) ∧
      NoDoubleAllocation Sample.order
        ((Traffic.start Sample.order {}).after (List.replicate 9 Sample.build)) ∧
      CommittedOnce () 42
        ((Traffic.start Sample.order {}).after (List.replicate 9 Sample.build)).history := by
  have pooled : ∀ i, (Sample.order i).Pooled := by
    intro i selected h
    cases h
    rfl
  have truthful : ∀ turn ∈ List.replicate 9 Sample.build, turn.Truthful := by
    intro turn ht cid answer h
    obtain rfl := List.eq_of_mem_replicate ht
    cases h
    rfl
  have all := no_double_allocation {} pooled truthful
  obtain ⟨answer, hc, answered⟩ := Sample.order_answered
  exact ⟨pooled, truthful, all, hc ▸ all.once () answer answered⟩

end InstancePool
