import InstancePool.Proofs.Custody

/-!
# Moves

What one question of one caller can do, read off the stage of the caller: where it leads the caller,
and what it does to the entry of one instance. A run is such questions one after another, so what holds
of every run is proved by these cases.

* `Custody.Leads`, `May.leads`: the edges between the stages;
* `Custody.Move`, `Event.Fits.move`: all that an event can do to the entry of one instance, by the
  stage of its caller;
* `Event.Fits.returns`, `Event.Fits.unclaimed`: who has nothing left to ask has returned, and nobody
  returns with a claim;
* `Custody.Record`, `custody_record`: the histories of runs in which every caller has such a stage.
-/

namespace InstancePool

open Pool (Entry State)
open Simulation (RegistryDouble)
open Custody

variable {fresh : UInt64 → Prop} {cid : UInt64}

/-! ## 1. From stage to stage -/

namespace Custody

theorem settled_leads (c : UInt64) (reply : Except Fault Unit) {next : State}
    (ends : next = .using ∨ next = .free) :
    settled c next reply = .committed c ∧ next = .using ∨ settled c next reply = .closed := by
  cases reply with
  | error f => exact .inr rfl
  | ok _ =>
    rcases ends with rfl | rfl
    · exact .inl ⟨rfl, rfl⟩
    · exact .inr rfl

/-- Whether a caller has not got hold of any instance, and only asked the registry. -/
def Stage.early : Stage → Bool
  | .idle => true
  | .chosen _ => true
  | .denied _ => true
  | _ => false

/-- Whether nothing is asked any more. -/
def Stage.final : Stage → Bool
  | .committed _ => true
  | .denied _ => true
  | .closed => true
  | _ => false

theorem May.unfinished {s : Stage} {q : (Timed Services).Query} (may : May s q) :
    s.final = false := by
  cases may <;> rfl

/-- The stages that a question leads to, with its answer set aside. -/
inductive Leads (fresh : UInt64 → Prop) : Stage → (Timed Services).Query → Stage → Prop where
  | stays {s : Stage} {q : (Timed Services).Query} (engaged : s.early = false) : Leads fresh s q s
  | missed (filter : Pool.Filter) :
      Leads fresh .idle (.other (.call (.registry (.findEntries filter)))) .ordering
  | found (filter : Pool.Filter) (cid : UInt64) :
      Leads fresh .idle (.other (.call (.registry (.findEntries filter)))) (.chosen cid)
  | granted {q : (Timed Services).Query} (cid : UInt64) : Leads fresh (.chosen cid) q (.holding cid)
  | denied (cid : UInt64) (f : Fault) : Leads fresh (.chosen cid)
      (.other (.call (.registry (.updateState cid (some .free) .provisioning)))) (.denied f)
  | ordered {q : (Timed Services).Query} {cid : UInt64} (new : fresh cid) :
      Leads fresh .ordering q (.building cid)
  | committed {s : Stage} {q : (Timed Services).Query} {cid : UInt64}
      (got : s = .holding cid ∨ s = .building cid) : Leads fresh s q (.committed cid)
  | closed {s : Stage} {q : (Timed Services).Query} (takes : s ≠ .releasing) : Leads fresh s q .closed

/-- **Every question leads along one of these edges.** -/
theorem May.leads {s : Stage} {q : (Timed Services).Query} {reply : (Timed Services).Reply q}
    (may : May s q) (credible : Credible fresh q reply) :
    Leads fresh s q (Custody.next s q reply) := by
  cases may with
  | find filter =>
    match reply with
    | .ok [] => exact .missed filter
    | .ok (entry :: _) => exact .found filter entry.cid
    | .error _ => exact .closed nofun
  | claim c =>
    match reply with
    | .ok _ => exact .granted c
    | .error f => exact .denied c f
  | tend concerns =>
    rw [next_tended concerns]
    exact .stays rfl
  | reload c stemcell => exact .stays rfl
  | settle c ends =>
    show Leads fresh _ _ (settled c _ reply)
    rcases settled_leads c reply ends with ⟨h, -⟩ | h
    · rw [h]
      exact .committed (.inl rfl)
    · rw [h]
      exact .closed nofun
  | mark => exact .stays rfl
  | order template =>
    match reply, credible with
    | .ok i, new => exact .ordered new
    | .error _, _ => exact .closed nofun
  | build concerns =>
    rw [next_tended concerns]
    exact .stays rfl
  | enter entry used =>
    match reply with
    | .ok _ => exact .committed (.inr rfl)
    | .error _ => exact .closed nofun
  | look c => exact .stays rfl
  | report c => exact .stays rfl
  | giveBack c taken => exact .stays rfl
  | heal entry free => exact .stays rfl

section Edges

variable {s s' : Stage} {q : (Timed Services).Query}

/-- Who gives an instance back does nothing else, and nobody else does it. -/
theorem Leads.releasing (h : Leads fresh s q s') : s' = .releasing ↔ s = .releasing := by
  cases h with
  | stays => exact Iff.rfl
  | missed => exact ⟨nofun, nofun⟩
  | found => exact ⟨nofun, nofun⟩
  | granted => exact ⟨nofun, nofun⟩
  | denied => exact ⟨nofun, nofun⟩
  | ordered => exact ⟨nofun, nofun⟩
  | committed got => rcases got with rfl | rfl <;> exact ⟨nofun, nofun⟩
  | closed takes => exact ⟨nofun, fun h => absurd h takes⟩

/-- Who has not got hold of any instance has not asked the cloud. -/
theorem Leads.early (h : Leads fresh s q s') (early : s'.early = true) :
    s.early = true ∧ ∀ call, q ≠ .other (.call (.cloud call)) := by
  cases h with
  | stays engaged => exact nomatch engaged.symm.trans early
  | found => exact ⟨rfl, nofun⟩
  | denied => exact ⟨rfl, nofun⟩
  | missed => cases early
  | granted => cases early
  | ordered => cases early
  | committed => cases early
  | closed => cases early

/-- An instance that is built was ordered. -/
theorem Leads.building {c : UInt64} (h : Leads fresh s q s') (built : s' = .building c) :
    s = .building c ∨ fresh c := by
  cases h with
  | stays => exact .inl built
  | ordered new =>
    cases built
    exact .inr new
  | missed => cases built
  | found => cases built
  | granted => cases built
  | denied => cases built
  | committed => cases built
  | closed => cases built

end Edges

end Custody

/-! ## 2. What an event does to one entry -/

namespace Custody

/-- What an event does to the state of one instance, with the stages of its caller before and after. -/
inductive Move (cid : UInt64) : Stage → Stage → Option State → Option State → Prop where
  | claimed : Move cid (.chosen cid) (.holding cid) (some .free) (some .provisioning)
  /-- The claim took effect, and its answer was lost. -/
  | unheard (f : Fault) : Move cid (.chosen cid) (.denied f) (some .free) (some .provisioning)
  | settled {s' : Stage} {next : State} (ends : next = .using ∨ next = .free)
      (leads : s' = .committed cid ∧ next = .using ∨ s' = .closed) :
      Move cid (.holding cid) s' (some .provisioning) (some next)
  | entered {s' : Stage} (leads : s' = .committed cid ∨ s' = .closed) :
      Move cid (.building cid) s' none (some .using)
  | released {now : State} (taken : now ≠ .free) :
      Move cid .releasing .releasing (some now) (some .free)
  | healed : Move cid .releasing .releasing none (some .free)
  | still (s : Stage) (state : Option State) : Move cid s s state state
  /-- The caller goes on, and the instance is left as it is. -/
  | passed {s s' : Stage} (state : Option State) (leaves : s = .holding cid → s' = .closed)
      (unclaimed : s' ≠ .holding cid) (uncommitted : s' ≠ .committed cid) : Move cid s s' state state

/-- A claimed entry is left alone, or its caller ends the claim, or a release takes it. -/
theorem Move.of_provisioning {s s' : Stage} {after : Option State}
    (h : Move cid s s' (some .provisioning) after) :
    after = some .provisioning ∨
      (s = .holding cid ∧ s' ≠ .holding cid ∧ (after = some .using ∨ after = some .free)) ∨
      (s = .releasing ∧ after = some .free) := by
  cases h with
  | settled ends leads =>
    refine .inr (.inl ⟨rfl, ?_, ?_⟩)
    · rcases leads with ⟨rfl, -⟩ | rfl <;> exact nofun
    · rcases ends with rfl | rfl
      · exact .inl rfl
      · exact .inr rfl
  | released taken => exact .inr (.inr ⟨rfl, rfl⟩)
  | still => exact .inl rfl
  | passed => exact .inl rfl

/-- Who takes a free entry holds it, or is not told so and is at its end. -/
theorem Move.of_claim {s s' : Stage} {before after : Option State} (h : Move cid s s' before after)
    (free : before = some .free) (taken : after = some .provisioning) :
    s' = .holding cid ∨ s'.final = true := by
  cases h with
  | claimed => exact .inl rfl
  | unheard => exact .inr rfl
  | settled => cases free
  | entered => cases free
  | released => cases taken
  | healed => cases free
  | still => exact nomatch free.symm.trans taken
  | passed => exact nomatch free.symm.trans taken

/-- Who holds an entry leaves it as it is, or is at its end. -/
theorem Move.of_holding {s s' : Stage} {before after : Option State} (h : Move cid s s' before after)
    (held : s = .holding cid) : s'.final = true ∨ s' = .holding cid ∧ before = after := by
  cases h with
  | settled ends leads =>
    refine .inl ?_
    rcases leads with ⟨rfl, -⟩ | rfl <;> rfl
  | still => exact .inr ⟨held, rfl⟩
  | passed state leaves => exact .inl (leaves held ▸ rfl)
  | claimed => cases held
  | unheard => cases held
  | entered => cases held
  | released => cases held
  | healed => cases held

/-- Who holds an entry has taken it just now, or held it before and has left it as it is. -/
theorem Move.to_holding {s s' : Stage} {before after : Option State} (h : Move cid s s' before after)
    (held : s' = .holding cid) :
    (before = some .free ∧ after = some .provisioning) ∨ s = .holding cid ∧ before = after := by
  cases h with
  | claimed => exact .inl ⟨rfl, rfl⟩
  | still => exact .inr ⟨held, rfl⟩
  | passed state leaves unclaimed => exact absurd held unclaimed
  | settled ends leads => rcases leads with ⟨rfl, -⟩ | rfl <;> cases held
  | entered leads => rcases leads with rfl | rfl <;> cases held
  | unheard => cases held
  | released => cases held
  | healed => cases held

/-- An instance stays in use until a release takes it. -/
theorem Move.of_using {s s' : Stage} {after : Option State}
    (h : Move cid s s' (some .using) after) :
    after = some .using ∨ (s = .releasing ∧ after = some .free) := by
  cases h with
  | released taken => exact .inr ⟨rfl, rfl⟩
  | still => exact .inl rfl
  | passed => exact .inl rfl

/-- Only who holds or has built an instance brings it into use, and has nothing left to do then. -/
theorem Move.to_using {s s' : Stage} {before after : Option State} (h : Move cid s s' before after)
    (unused : before ≠ some .using) (used : after = some .using) :
    (s = .holding cid ∨ s = .building cid) ∧ (s' = .committed cid ∨ s' = .closed) := by
  cases h with
  | settled ends leads => exact ⟨.inl rfl, leads.imp And.left id⟩
  | entered leads => exact ⟨.inr rfl, leads⟩
  | still => exact absurd used unused
  | passed => exact absurd used unused
  | claimed => cases used
  | unheard => cases used
  | released => cases used
  | healed => cases used

/-- Who has come to be committed has brought the instance into use. -/
theorem Move.to_committed {s s' : Stage} {before after : Option State}
    (h : Move cid s s' before after) (new : s ≠ .committed cid) (done : s' = .committed cid) :
    before ≠ some .using ∧ after = some .using := by
  cases h with
  | settled ends leads =>
    rcases leads with ⟨-, rfl⟩ | rfl
    · exact ⟨nofun, rfl⟩
    · cases done
  | entered leads => exact ⟨nofun, rfl⟩
  | still => exact absurd done new
  | passed state leaves unclaimed uncommitted => exact absurd done uncommitted
  | claimed => cases done
  | unheard => cases done
  | released => cases done
  | healed => cases done

end Custody

section Moves

variable {before after : List Entry} {c : UInt64} {reply : Except Fault Unit}

theorem passed_closed (s : Stage) (state : Option State) : Move cid s .closed state state :=
  .passed state (fun _ => rfl) nofun nofun

theorem move_claim
    (answered : Answered (.other (.call (.registry (.updateState c (some .free) .provisioning))))
      reply before after) :
    Move cid (.chosen c) (claimed c reply) (Pool.stateOf? before cid) (Pool.stateOf? after cid) := by
  have denied : ∀ f state, Move cid (.chosen c) (.denied f) state state := fun f state =>
    .passed state nofun nofun nofun
  rcases answered.wrote rfl with effect | ⟨same, f, rfl⟩
  · rcases effect.updated.seen cid with ⟨rfl, free, taken⟩ | ⟨hc, same⟩
    · rw [free, taken]
      cases reply with
      | ok _ => exact .claimed
      | error f => exact .unheard f
    · rw [same]
      cases reply with
      | ok _ => exact .passed _ nofun (fun h => hc (Stage.holding.inj h)) nofun
      | error f => exact denied f _
  · rw [same]
    exact denied f _

theorem move_settle {next : State} (ends : next = .using ∨ next = .free)
    (answered : Answered (.other (.call (.registry (.updateState c (some .provisioning) next))))
      reply before after) :
    Move cid (.holding c) (settled c next reply) (Pool.stateOf? before cid)
      (Pool.stateOf? after cid) := by
  have leads := settled_leads c reply ends
  rcases answered.wrote rfl with effect | ⟨same, f, rfl⟩
  · rcases effect.updated.seen cid with ⟨rfl, claimed, settled⟩ | ⟨hc, same⟩
    · rw [claimed, settled]
      exact .settled ends leads
    · rw [same]
      rcases leads with ⟨committed, -⟩ | closed
      · rw [committed]
        exact .passed _ (fun h => absurd (Stage.holding.inj h) hc) nofun
          fun h => hc (Stage.committed.inj h)
      · rw [closed]
        exact passed_closed _ _
  · rw [same]
    exact passed_closed _ _

theorem move_enter {entry : Entry} (used : entry.state = .using)
    (answered : Answered (.other (.call (.registry (.addEntry entry)))) reply before after) :
    Move cid (.building entry.cid) (entered entry.cid reply) (Pool.stateOf? before cid)
      (Pool.stateOf? after cid) := by
  rcases answered.wrote rfl with effect | ⟨same, f, rfl⟩
  · rcases effect.entered.seen cid with ⟨rfl, absent, present⟩ | ⟨hc, same⟩
    · rw [absent, present, used]
      cases reply with
      | ok _ => exact .entered (.inl rfl)
      | error f => exact .entered (.inr rfl)
    · rw [same]
      cases reply with
      | ok _ => exact .passed _ nofun nofun fun h => hc (Stage.committed.inj h)
      | error f => exact passed_closed _ _
  · rw [same]
    exact passed_closed _ _

theorem move_give {now : State} (taken : now ≠ .free)
    (answered : Answered (.other (.call (.registry (.updateState c (some now) .free))))
      reply before after) :
    Move cid .releasing .releasing (Pool.stateOf? before cid) (Pool.stateOf? after cid) := by
  rcases answered.wrote rfl with effect | ⟨same, -⟩
  · rcases effect.updated.seen cid with ⟨-, was, free⟩ | ⟨-, same⟩
    · rw [was, free]
      exact .released taken
    · rw [same]
      exact .still _ _
  · rw [same]
    exact .still _ _

theorem move_heal {entry : Entry} (free : entry.state = .free)
    (answered : Answered (.other (.call (.registry (.addEntry entry)))) reply before after) :
    Move cid .releasing .releasing (Pool.stateOf? before cid) (Pool.stateOf? after cid) := by
  rcases answered.wrote rfl with effect | ⟨same, -⟩
  · rcases effect.entered.seen cid with ⟨-, absent, present⟩ | ⟨-, same⟩
    · rw [absent, present, free]
      exact .healed
    · rw [same]
      exact .still _ _
  · rw [same]
    exact .still _ _

theorem Concerns.reads {q : (Timed Services).Query} (hq : Concerns c q) : ¬ Writes q := by
  cases q with
  | other q =>
    cases q with
    | call call =>
      cases call with
      | registry call => exact hq.elim
      | _ => exact id
    | mark => exact id
  | _ => exact id

/-- **All that an event can do to an entry.** -/
theorem Event.Fits.move {ι : Type} {e : Event ι} {s : Stage} (fits : e.Fits (custody fresh) Ends s)
    (cid : UInt64) :
    Move cid s (Custody.next s e.query e.reply) (Pool.stateOf? e.before cid)
      (Pool.stateOf? e.after cid) := by
  obtain ⟨caller, query, reply, before, after, returns⟩ := e
  obtain ⟨may, -, answered, -, -⟩ := fits
  dsimp only at may answered ⊢
  cases may with
  | find filter =>
    rw [answered.same Bool.false_ne_true]
    match reply with
    | .ok [] => exact .passed _ nofun nofun nofun
    | .ok (_ :: _) => exact .passed _ nofun nofun nofun
    | .error _ => exact .passed _ nofun nofun nofun
  | claim c => exact move_claim answered
  | tend concerns =>
    rw [answered.same concerns.reads, next_tended concerns]
    exact .still _ _
  | reload c stemcell =>
    rw [answered.same id]
    exact .still _ _
  | settle c ends => exact move_settle ends answered
  | mark =>
    rw [answered.same id]
    exact .still _ _
  | order template =>
    rw [answered.same id]
    match reply with
    | .ok _ => exact .passed _ nofun nofun nofun
    | .error _ => exact .passed _ nofun nofun nofun
  | build concerns =>
    rw [answered.same concerns.reads, next_tended concerns]
    exact .still _ _
  | enter entry used => exact move_enter used answered
  | look c =>
    rw [answered.same Bool.false_ne_true]
    exact .still _ _
  | report c =>
    rw [answered.same id]
    exact .still _ _
  | giveBack c taken => exact move_give taken answered
  | heal entry free => exact move_heal free answered

end Moves

/-! ## 3. Callers that have returned -/

section Callers

variable {ι : Type} {s : Stage} {e : Event ι}

/-- A caller with nothing left to ask has returned. -/
theorem Event.Fits.returns (fits : e.Fits (custody fresh) Ends s)
    (final : (Custody.next s e.query e.reply).final = true) : e.returns = true := by
  cases h : e.returns with
  | true => rfl
  | false =>
    obtain ⟨q, may⟩ := fits.onward h
    exact nomatch may.unfinished.symm.trans final

/-- Who asks has not come to an end. -/
theorem Event.Fits.unfinished (fits : e.Fits (custody fresh) Ends s) {t : Stage}
    (final : t.final = true) : s ≠ t := by
  rintro rfl
  exact nomatch fits.may.unfinished.symm.trans final

theorem Custody.Ends.unclaimed {r : Except Fault (Option Instance)} (h : Ends r s) :
    s ≠ .holding cid := by
  rintro rfl
  match r, h with
  | .ok (some i), h => cases h
  | .ok none, h => cases h
  | .error g, h => exact h.1 cid rfl

/-- Nobody returns with a claim. -/
theorem Event.Fits.unclaimed (fits : e.Fits (custody fresh) Ends s) (cid : UInt64)
    (returned : e.returns = true) :
    Custody.next s e.query e.reply ≠ .holding cid := by
  obtain ⟨r, ends⟩ := fits.ended returned
  exact ends.unclaimed

/-- Every event leads along one edge. -/
theorem Event.Fits.leads (fits : e.Fits (custody fresh) Ends s) :
    Leads fresh s e.query (Custody.next s e.query e.reply) :=
  fits.may.leads fits.credible

end Callers

/-! ## 4. Runs -/

section Runs

variable {ι : Type} [DecidableEq ι] {tasks : ι → Task} {entries : List Entry}
  {history : List (Event ι)} {schedule : List (Turn ι)}

/-- The stage that a caller has reached. -/
abbrev Custody.stageOf (fresh : UInt64 → Prop) (tasks : ι → Task) (i : ι)
    (history : List (Event ι)) : Stage :=
  (custody fresh).stageOf (fun i => first (tasks i)) i history

/-- A history in which every caller obeys the discipline of custody. -/
abbrev Custody.Record (fresh : UInt64 → Prop) (tasks : ι → Task) (entries : List Entry)
    (history : List (Event ι)) : Prop :=
  Recorded (custody fresh) (fun i => first (tasks i)) Ends entries history

theorem stageOf_self (e : Event ι) (earlier : List (Event ι)) :
    Custody.stageOf fresh tasks e.caller (e :: earlier) =
      Custody.next (Custody.stageOf fresh tasks e.caller earlier) e.query e.reply :=
  if_pos rfl

theorem stageOf_other {e : Event ι} {i : ι} (hi : e.caller ≠ i) (earlier : List (Event ι)) :
    Custody.stageOf fresh tasks i (e :: earlier) = Custody.stageOf fresh tasks i earlier :=
  if_neg hi

omit [DecidableEq ι] in
theorem custody_admits {turn : Turn ι} (truthful : turn.Truthful)
    (orders : ∀ template i, turn.cloud (.createInstance template) = .ok i → fresh i.cid) :
    (custody fresh).Admits turn := by
  intro d q
  cases q with
  | other q =>
    cases q with
    | call c =>
      cases c with
      | cloud call =>
        show Credible fresh (.other (.call (.cloud call))) (turn.cloud call)
        cases call with
        | createInstance template =>
          cases answer : turn.cloud (.createInstance template) with
          | ok i => exact orders template i answer
          | error f => trivial
        | getInstance cid =>
          cases answer : turn.cloud (.getInstance cid) with
          | ok i => exact truthful cid i answer
          | error f => trivial
        | _ => trivial
      | _ => trivial
    | mark => trivial
  | _ => trivial

/-- **The history of every schedule is such a history**, if reports are on the instance that was asked
    about. -/
theorem custody_record (registry : RegistryDouble) (pooled : ∀ i, (tasks i).Pooled)
    (truthful : ∀ turn ∈ schedule, turn.Truthful)
    (orders : ∀ turn ∈ schedule, ∀ template i,
      turn.cloud (.createInstance template) = .ok i → fresh i.cid) :
    Custody.Record fresh tasks registry.entries
      ((Traffic.start tasks registry).after schedule).history :=
  (recorded_after registry (fun i => custody_workflow (pooled i)) fun turn ht =>
    custody_admits (truthful turn ht) (orders turn ht)).1

/-- What is left of a workflow obeys from the stage that its caller has reached. -/
theorem custody_rest (registry : RegistryDouble) (pooled : ∀ i, (tasks i).Pooled)
    (truthful : ∀ turn ∈ schedule, turn.Truthful)
    (orders : ∀ turn ∈ schedule, ∀ template i,
      turn.cloud (.createInstance template) = .ok i → fresh i.cid) (i : ι) :
    (((Traffic.start tasks registry).after schedule).rest i).Obeys (custody fresh)
      (Custody.stageOf fresh tasks i ((Traffic.start tasks registry).after schedule).history) Ends :=
  obeys_after registry (fun i => custody_workflow (pooled i))
    (fun turn ht => custody_admits (truthful turn ht) (orders turn ht)) i

/-- A caller gives an instance back if and only if that is its task. -/
theorem stageOf_releasing (h : Custody.Record fresh tasks entries history) (i : ι) :
    Custody.stageOf fresh tasks i history = .releasing ↔ (tasks i).releases = true := by
  induction h with
  | nil =>
    show first (tasks i) = .releasing ↔ _
    cases tasks i with
    | create site request => exact ⟨nofun, nofun⟩
    | release cid => exact ⟨fun _ => rfl, fun _ => rfl⟩
  | @cons e earlier recorded fits same ih =>
    by_cases hi : e.caller = i
    · subst hi
      rw [stageOf_self]
      exact fits.leads.releasing.trans ih
    · rw [stageOf_other hi]
      exact ih

end Runs

end InstancePool
