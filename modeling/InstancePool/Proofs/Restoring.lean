import InstancePool.Proofs.Courses
import InstancePool.Proofs.Interleaving

/-!
# What a failed allocation leaves of the pool

An allocation that fails gives its claim back, and where that fails too it says so. One change has no
way back: where the registry refuses to bring a reclaimed instance into use, the entry stays as it was
under the claim, and the caller is told of the refusal alone.

* `Solitary`: what may be counted on where nobody else writes; `solitary_overRegistry`: the registry in
  memory keeps to it, whatever all others do;
* `StrandsClaim`: the change that has no way back;
* `failed_allocation_restores_iff`: the entries are as they were before if and only if there was none;
* `refusal_strands_entry`: a run with one.
-/

namespace InstancePool

open Pool (Entry State)
open Simulation (RegistryDouble)
open Allocation

/-! ## 1. A claim and its return -/

theorem setState_cons (cid : UInt64) (next : State) (e : Entry) (rest : List Entry) :
    RegistryDouble.setState cid next (e :: rest) =
      if e.cid = cid then { e with state := next } :: rest
      else e :: RegistryDouble.setState cid next rest := rfl

/-- A change of state and its return leave the entries as they were. -/
theorem setState_return {cid : UInt64} {next now : State} {entries : List Entry}
    (present : Pool.stateOf? entries cid = some now) :
    RegistryDouble.setState cid now (RegistryDouble.setState cid next entries) = entries := by
  induction entries with
  | nil => rfl
  | cons first rest ih =>
    rw [Pool.stateOf?_cons] at present
    rw [setState_cons]
    by_cases hf : first.cid = cid
    · rw [if_pos hf] at present ⊢
      rw [setState_cons, if_pos hf, ← Option.some.inj present]
    · rw [if_neg hf] at present ⊢
      rw [setState_cons, if_neg hf, ih present]

/-- A claim that is given back. -/
theorem Registry.Effect.returned {cid : UInt64} {a b c : List Entry}
    (claim : Registry.Effect (.updateState cid (some .free) .provisioning) a b)
    (back : Registry.Effect (.updateState cid (some .provisioning) .free) b c) : c = a := by
  cases claim with
  | changed present asExpected =>
    cases back with
    | changed _ _ =>
      obtain rfl := asExpected .free rfl
      exact setState_return present

/-- A claim changes the entries. -/
theorem Registry.Effect.claims {cid : UInt64} {before after : List Entry}
    (claim : Registry.Effect (.updateState cid (some .free) .provisioning) before after) :
    after ≠ before := by
  rintro rfl
  have free : Pool.stateOf? after cid = some .free := claim.updated.found
  have prepared := (claim.updated.left cid).trans (if_pos rfl)
  cases free.symm.trans prepared

/-! ## 2. One caller -/

/-- What may be counted on where nobody else writes: the registry keeps to its rules, and a call that
    reports a fault has changed nothing. -/
structure Solitary {σ : Type} (entries : σ → List Entry) (e : Exchange (Timed Services) σ) : Prop where
  answered : Answered e.query e.reply (entries e.before) (entries e.after)
  harmless : ∀ f, faultOf? e.query e.reply = some f → entries e.after = entries e.before

/-- The change of an entry from being prepared to being in use is refused. -/
def StrandsClaim {σ : Type} (e : Exchange (Timed Services) σ) : Prop :=
  ∃ cid f, e.query = (Registry.Call.updateState cid (some .provisioning) .using).query ∧
    faultOf? e.query e.reply = some f

section Claims

variable {σ : Type} {answer : Answering (Timed Services) σ} {site : Site} {request : Request}
  {selected : Networks} {cid : UInt64} {s : σ} {entries : σ → List Entry}

section Exchanges

variable {e : Exchange (Timed Services) σ}

theorem not_writes (silent : ∀ c : Registry.Call, e.query ≠ c.query) : ¬ Writes e.query := by
  intro writes
  revert silent writes
  cases e.query with
  | other q =>
    cases q with
    | call c =>
      cases c with
      | registry c => exact fun silent _ => silent c rfl
      | _ => exact fun _ => False.elim
    | mark => exact fun _ => False.elim
  | _ => exact fun _ => False.elim

theorem not_strands (silent : ∀ c : Registry.Call, e.query ≠ c.query) : ¬ StrandsClaim e :=
  fun ⟨_, _, asks, _⟩ => silent _ asks

theorem searched_not_strands : ¬ StrandsClaim (searched answer request selected s) :=
  fun ⟨_, _, asks, _⟩ => nomatch asks

theorem claimed_not_strands : ¬ StrandsClaim (claimed answer cid s) :=
  fun ⟨_, _, asks, _⟩ => nomatch asks

theorem entered_not_strands {i : Instance} : ¬ StrandsClaim (entered answer i s) :=
  fun ⟨_, _, asks, _⟩ => nomatch asks

theorem Solitary.reads (h : Solitary entries e) (reads : ¬ Writes e.query) :
    entries e.after = entries e.before :=
  h.answered.same reads

/-- A write that is answered well has taken effect. -/
theorem Solitary.effect {c : Registry.Call} (h : Solitary entries (answer.exchange c.query s))
    (writes : c.writes) (ok : ∀ f, (answer.exchange c.query s).reply ≠ .error f) :
    Registry.Effect c (entries s) (entries (answer.exchange c.query s).after) := by
  rcases h.answered.wrote writes with effect | ⟨-, f, failed⟩
  · exact effect
  · exact absurd failed (ok f)

end Exchanges

/-- A reclaim leaves the entries as they are. -/
theorem reclaim_keeps {target : Reclaim.Target}
    (solitary : ∀ e ∈ ((Reclaim.run site target request selected).trace answer s).exchanges,
      Solitary entries e) :
    entries ((Reclaim.run site target request selected).trace answer s).state = entries s :=
  Program.trace_keeps fun e he =>
    (solitary e he).reads (not_writes (reclaim_asks target e he).not_registry)

/-- So does provisioning. -/
theorem build_keeps
    (solitary : ∀ e ∈ ((Provision.run site request selected).trace answer s).exchanges,
      Solitary entries e) :
    entries ((Provision.run site request selected).trace answer s).state = entries s :=
  Program.trace_keeps fun e he => (solitary e he).reads (not_writes (Provision.run_silent e he))

/-- **What a granted claim leaves**: the entries are as they were if and only if it was given back, and
    it was not where the change to being in use was refused. -/
theorem settled_restores {t : Trace (Timed Services) σ Instance} {before : List Entry} {g : Fault}
    (claim : Registry.Effect (.updateState cid (some .free) .provisioning) before (entries t.state))
    (last : Solitary entries (settled answer cid t))
    (failed : conclusion cid t.result (settled answer cid t).reply = .error g)
    (consistent : g.kind ≠ .poolInconsistent) :
    entries (settled answer cid t).after = before ↔ ¬ StrandsClaim (settled answer cid t) := by
  obtain ⟨result, state, exchanges⟩ := t
  cases result with
  | ok i =>
    cases ended : (settled answer cid ⟨.ok i, state, exchanges⟩).reply with
    | ok _ =>
      rw [ended] at failed
      cases failed
    | error f =>
      have refused : faultOf? _ (settled answer cid ⟨.ok i, state, exchanges⟩).reply = some f :=
        faultOf?_eq_some.mpr ended
      refine iff_of_false (fun same => claim.claims ?_) fun kept => kept ⟨cid, f, rfl, refused⟩
      exact (last.harmless f refused).symm.trans same
  | error f =>
    cases ended : (settled answer cid ⟨.error f, state, exchanges⟩).reply with
    | ok _ =>
      have back : Registry.Effect (.updateState cid (some .provisioning) .free) (entries state)
          (entries (settled answer cid ⟨.error f, state, exchanges⟩).after) :=
        last.effect rfl fun f refused => nomatch refused.symm.trans ended
      refine iff_of_true (claim.returned back) ?_
      exact fun ⟨_, _, asks, _⟩ => nomatch asks
    | error h =>
      rw [ended] at failed
      cases failed
      exact absurd rfl consistent

/-- Under a claim that is granted the entry is prepared, and it still is when the reclaim has ended. -/
theorem claim_prepares
    (search : Solitary entries (searched answer request selected s))
    (claim : Solitary entries (Hit.claim answer request selected cid s))
    (reclaim : ∀ e ∈ (Hit.reclaim answer site request selected cid s).exchanges, Solitary entries e)
    (granted : (Hit.claim answer request selected cid s).reply = .ok ()) :
    Registry.Effect (.updateState cid (some .free) .provisioning) (entries s)
      (entries (Hit.reclaim answer site request selected cid s).state) := by
  have searched : entries (searched answer request selected s).after = entries s := search.reads nofun
  have reclaimed : entries (Hit.reclaim answer site request selected cid s).state =
      entries (Hit.claim answer request selected cid s).after := reclaim_keeps reclaim
  have effect := claim.effect rfl fun f refused => nomatch refused.symm.trans granted
  rw [searched] at effect
  rw [reclaimed]
  exact effect

/-- Only the write that ends a claim can strand its entry. -/
theorem not_strands_hit {last : Exchange (Timed Services) σ} :
    (∀ e ∈ searched answer request selected s :: Hit.claim answer request selected cid s ::
      ((Hit.reclaim answer site request selected cid s).exchanges ++ [last]), ¬ StrandsClaim e) ↔
        ¬ StrandsClaim last := by
  have during : ∀ e ∈ (Hit.reclaim answer site request selected cid s).exchanges, ¬ StrandsClaim e :=
    fun e he => not_strands (reclaim_asks _ e he).not_registry
  rw [List.forall_mem_cons, List.forall_mem_cons, List.forall_mem_append, List.forall_mem_singleton]
  exact ⟨fun h => h.2.2.2, fun h => ⟨searched_not_strands, claimed_not_strands, during, h⟩⟩

/-- Where an instance is built, no entry is stranded. -/
theorem not_strands_miss {ending : List (Exchange (Timed Services) σ)}
    (ends : ∀ e ∈ ending, ¬ StrandsClaim e) :
    ∀ e ∈ searched answer request selected s ::
      ((Miss.build answer site request selected s).exchanges ++ ending), ¬ StrandsClaim e := by
  have during : ∀ e ∈ (Miss.build answer site request selected s).exchanges, ¬ StrandsClaim e :=
    fun e he => not_strands (Provision.run_silent e he)
  rw [List.forall_mem_cons, List.forall_mem_append]
  exact ⟨searched_not_strands, during, ends⟩

/-! ## 3. Failed allocations -/

/-- **A failed allocation leaves the pool as it was**, unless it reports that the pool is inconsistent:
    this holds of exactly the runs in which no entry was stranded. -/
theorem failed_allocation_restores_iff {g : Fault}
    (solitary : ∀ e ∈ ((Allocation.run site request).trace answer s).exchanges, Solitary entries e)
    (failed : ((Allocation.run site request).trace answer s).result = .error g)
    (consistent : g.kind ≠ .poolInconsistent) :
    entries ((Allocation.run site request).trace answer s).state = entries s ↔
      ∀ e ∈ ((Allocation.run site request).trace answer s).exchanges, ¬ StrandsClaim e := by
  have taken : Course answer site request s := course answer site request s
  cases taken with
  | invalid refused =>
    rw [trace_invalid refused]
    exact iff_of_true rfl fun e he => nomatch he
  | fixed accepted pinned =>
    rw [trace_fixed accepted pinned] at solitary ⊢
    exact iff_of_true (reclaim_keeps solitary) fun e he =>
      not_strands (reclaim_asks _ e he).not_registry
  | unsearched accepted pooled failed =>
    rw [trace_unsearched accepted pooled failed] at solitary ⊢
    have search := List.forall_mem_singleton.mp solitary
    exact iff_of_true (search.reads nofun) (List.forall_mem_singleton.mpr searched_not_strands)
  | denied accepted pooled found refused =>
    rw [trace_denied accepted pooled found refused] at solitary ⊢
    obtain ⟨search, rest⟩ := List.forall_mem_cons.mp solitary
    have claim := List.forall_mem_singleton.mp rest
    refine iff_of_true ((claim.harmless _ (faultOf?_eq_some.mpr refused)).trans (search.reads nofun)) ?_
    exact List.forall_mem_cons.mpr
      ⟨searched_not_strands, List.forall_mem_singleton.mpr claimed_not_strands⟩
  | reused accepted pooled found granted =>
    rw [trace_reused accepted pooled found granted] at solitary failed ⊢
    obtain ⟨search, rest⟩ := List.forall_mem_cons.mp solitary
    obtain ⟨claim, rest⟩ := List.forall_mem_cons.mp rest
    obtain ⟨reclaim, rest⟩ := List.forall_mem_append.mp rest
    have last := List.forall_mem_singleton.mp rest
    have prepared := claim_prepares search claim reclaim granted
    exact (settled_restores prepared last failed consistent).trans not_strands_hit.symm
  | unbuilt accepted pooled missed failed =>
    rw [trace_unbuilt accepted pooled missed failed] at solitary ⊢
    obtain ⟨search, build⟩ := List.forall_mem_cons.mp solitary
    refine iff_of_true ((build_keeps build).trans (search.reads nofun)) ?_
    rw [← List.append_nil (Miss.build answer site request _ s).exchanges]
    exact not_strands_miss fun e he => absurd he List.not_mem_nil
  | @built selected i accepted pooled missed ok =>
    rw [trace_built accepted pooled missed ok] at solitary failed ⊢
    obtain ⟨search, rest⟩ := List.forall_mem_cons.mp solitary
    obtain ⟨build, last⟩ := List.forall_mem_append.mp rest
    have enter := List.forall_mem_singleton.mp last
    have kept := (build_keeps build).trans (search.reads nofun)
    refine iff_of_true ?_ (not_strands_miss (List.forall_mem_singleton.mpr entered_not_strands))
    cases ended : (Miss.last answer site request selected s i).reply with
    | ok _ =>
      rw [ended] at failed
      cases failed
    | error f => exact (enter.harmless f (faultOf?_eq_some.mpr ended)).trans kept

end Claims

/-! ## 4. A registry that refuses -/

/-- In the registry in memory a call that reports a fault changes nothing. -/
theorem Simulation.RegistryDouble.answer_harmless (d : RegistryDouble) (call : Registry.Call) {f : Fault}
    (failed : (d.answer call).1 = .error f) : (d.answer call).2.entries = d.entries := by
  revert failed
  unfold RegistryDouble.answer
  dsimp only
  split
  · exact fun _ => rfl
  · cases call with
    | findEntries filter => exact fun _ => rfl
    | getEntry cid => exact fun _ => rfl
    | addEntry entry =>
      show (RegistryDouble.add _ entry).1 = _ → (RegistryDouble.add _ entry).2.entries = _
      unfold RegistryDouble.add
      split
      · exact fun _ => rfl
      · exact fun h => nomatch h
    | updateState cid expected next =>
      show (RegistryDouble.update _ cid expected next).1 = _ →
        (RegistryDouble.update _ cid expected next).2.entries = _
      unfold RegistryDouble.update
      split
      · exact fun _ => rfl
      · exact fun _ => rfl
      · split
        · exact fun _ => rfl
        · exact fun h => nomatch h

/-- **The registry in memory keeps to its rules**, whatever all others answer. -/
theorem solitary_overRegistry {τ : Type} (others : Answering (Timed Services) τ)
    (q : (Timed Services).Query) (s : RegistryDouble × τ) :
    Solitary (fun s => s.1.entries) ((overRegistry others).exchange q s) := by
  cases q with
  | other q =>
    cases q with
    | call c =>
      cases c with
      | registry c =>
        refine ⟨({ caller := () } : Turn Unit).answered s.1 (.other (.call (.registry c))), ?_⟩
        intro f failed
        exact RegistryDouble.answer_harmless s.1 c (faultOf?_eq_some.mp failed)
      | _ => exact ⟨.told nofun, fun _ _ => rfl⟩
    | mark => exact ⟨.told nofun, fun _ _ => rfl⟩
  | _ => exact ⟨.told nofun, fun _ _ => rfl⟩

namespace Sample

/-- The registry that does not bring the instance into use. -/
def refusing : RegistryDouble := registry.failingUpdate 42 .using (.cloud "unreachable")

/-- The run of a request for the one free entry. -/
def run : Trace (Timed Services) (RegistryDouble × Bool) Instance :=
  (Allocation.run site outer).trace (overRegistry cloud) (refusing, false)

theorem run_solitary : ∀ e ∈ run.exchanges, Solitary (fun s => s.1.entries) e := by
  intro e he
  obtain ⟨q, s, rfl⟩ := Program.exchanges_asked e he
  exact solitary_overRegistry cloud q s

/-- The fault of the refused change is all that the caller gets. -/
theorem run_stranded : ∃ g, run.result = .error g ∧ g.kind = .cloud ∧
    Pool.stateOf? run.state.1.entries 42 = some .provisioning := by
  have accepted : Networks.select outer.networks = .ok selected := rfl
  have pooled : selected.fixedIp = none := rfl
  have found : (searched (overRegistry cloud) outer selected (refusing, false)).reply =
      .ok [entry] := rfl
  have granted : (Hit.claim (overRegistry cloud) outer selected entry.cid (refusing, false)).reply = .ok () :=
    rfl
  have ran : run = _ := trace_reused accepted pooled found granted
  obtain ⟨es, reclaimed⟩ : ∃ es,
      Hit.reclaim (overRegistry cloud) site outer selected entry.cid (refusing, false) = ⟨_, _, es⟩ :=
    (reclaims _).trace_eq
  unfold Hit.last at ran
  rw [reclaimed] at ran
  rw [ran]
  exact ⟨_, rfl, rfl, rfl⟩

end Sample

theorem failed_allocation_restores_iff_in_refusal :
    (∀ e ∈ Sample.run.exchanges, Solitary (fun s => s.1.entries) e) ∧
      ∃ g, Sample.run.result = .error g ∧ g.kind ≠ .poolInconsistent ∧
        (Sample.run.state.1.entries = Sample.refusing.entries ↔
          ∀ e ∈ Sample.run.exchanges, ¬ StrandsClaim e) := by
  obtain ⟨g, failed, kind, -⟩ := Sample.run_stranded
  have consistent : g.kind ≠ .poolInconsistent := by
    rw [kind]
    decide
  exact ⟨Sample.run_solitary, g, failed, consistent,
    failed_allocation_restores_iff Sample.run_solitary failed consistent⟩

/-- **A refused change strands an entry**: the caller gets the fault of the registry, and nothing tells
    that the entry is still being prepared. -/
theorem refusal_strands_entry :
    (∀ e ∈ Sample.run.exchanges, Solitary (fun s => s.1.entries) e) ∧
      ∃ g, Sample.run.result = .error g ∧ g.kind ≠ .poolInconsistent ∧
        Pool.stateOf? Sample.run.state.1.entries 42 = some .provisioning ∧
        Sample.run.state.1.entries ≠ Sample.refusing.entries := by
  obtain ⟨g, failed, kind, stranded⟩ := Sample.run_stranded
  refine ⟨Sample.run_solitary, g, failed, ?_, stranded, fun same => ?_⟩
  · rw [kind]
    decide
  · rw [same] at stranded
    cases stranded

end InstancePool
