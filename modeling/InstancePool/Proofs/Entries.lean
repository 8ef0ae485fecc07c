import InstancePool.Simulation.RegistryDouble

/-!
# Entries of the registry

What calls do to the entries of the registry, apart from who makes them. A call may also get lost on
its way, before it arrives or after, and then the caller is told of a fault either way.

* `Pool.stateOf?`: the state in which the registry holds an instance;
* `Fate`, `RegistryDouble.meet`: a call whose way may fail, in the two places where it can;
* `Registry.Effect`: the two ways in which a call changes the entries;
* `Pool.Sets`: either way, one entry is left in another state, and no other is touched;
* `meet_effect`: a call changes them in that way or not at all, and a write that is answered well has
  changed them.
-/

namespace InstancePool

open Pool (Entry State)
open Simulation (RegistryDouble)

/-! ## 1. The state of an instance -/

namespace Pool

/-- The state in which an instance is entered, if it is. -/
def stateOf? (entries : List Entry) (cid : UInt64) : Option State :=
  (entries.find? (·.cid == cid)).map Entry.state

@[simp] theorem stateOf?_nil (cid : UInt64) : stateOf? [] cid = none := rfl

theorem stateOf?_cons (e : Entry) (entries : List Entry) (cid : UInt64) :
    stateOf? (e :: entries) cid = if e.cid = cid then some e.state else stateOf? entries cid := by
  unfold stateOf?
  by_cases h : e.cid = cid <;> simp [h]

theorem stateOf?_eq_none {entries : List Entry} {cid : UInt64} :
    stateOf? entries cid = none ↔ ∀ e ∈ entries, e.cid ≠ cid := by
  simp [stateOf?]

/-- An entry that is added last is the one of its instance only where there was none. -/
theorem stateOf?_concat (entries : List Entry) (e : Entry) (cid : UInt64) :
    stateOf? (entries ++ [e]) cid =
      (stateOf? entries cid).or (if e.cid = cid then some e.state else none) := by
  induction entries with
  | nil => simp [stateOf?_cons]
  | cons first rest ih =>
    rw [List.cons_append, stateOf?_cons, stateOf?_cons, ih]
    split <;> simp

theorem stateOf?_setState (cid : UInt64) (next : State) (entries : List Entry) (other : UInt64) :
    stateOf? (RegistryDouble.setState cid next entries) other =
      if cid = other then (stateOf? entries other).map fun _ => next
      else stateOf? entries other := by
  induction entries with
  | nil => simp [RegistryDouble.setState]
  | cons first rest ih =>
    unfold RegistryDouble.setState
    by_cases h : first.cid = cid
    · rw [if_pos h, stateOf?_cons, stateOf?_cons]
      by_cases ho : cid = other <;> simp [h, ho]
    · rw [if_neg h, stateOf?_cons, stateOf?_cons, ih]
      by_cases ho : cid = other
      · subst ho
        simp [h]
      · simp [ho]

/-- A change of state touches one entry and leaves it where it stands. -/
theorem setState_split {cid : UInt64} {next now : State} {entries : List Entry}
    (h : stateOf? entries cid = some now) :
    ∃ before e after, entries = before ++ e :: after ∧ e.cid = cid ∧ e.state = now ∧
      RegistryDouble.setState cid next entries = before ++ { e with state := next } :: after := by
  induction entries with
  | nil => cases h
  | cons first rest ih =>
    rw [stateOf?_cons] at h
    unfold RegistryDouble.setState
    by_cases hf : first.cid = cid
    · rw [if_pos hf] at h ⊢
      exact ⟨[], first, rest, rfl, hf, Option.some.inj h, rfl⟩
    · rw [if_neg hf] at h ⊢
      obtain ⟨before, e, after, hs, hc, hn, hr⟩ := ih h
      exact ⟨first :: before, e, after, by rw [hs]; rfl, hc, hn, by rw [hr]; rfl⟩

end Pool

/-! ## 2. Calls on their way -/

/-- What becomes of a call to the registry on its way. -/
inductive Fate where
  | answered
  /-- The call does not arrive. -/
  | refused (f : Fault)
  /-- The call arrives, and its answer is lost. -/
  | lost (f : Fault)

/-- What the caller is told, and the registry after the call. -/
def Simulation.RegistryDouble.meet (d : RegistryDouble) (call : Registry.Call) :
    Fate → call.Answer × RegistryDouble
  | .answered => d.answer call
  | .refused f => (.error f, d)
  | .lost f => (.error f, (d.answer call).2)

/-- Whether a call is meant to change the entries. -/
def Registry.Call.writes : Registry.Call → Bool
  | addEntry _ => true
  | updateState _ _ _ => true
  | findEntries _ => false
  | getEntry _ => false

/-- The ways in which a call changes the entries. -/
inductive Registry.Effect : Registry.Call → List Entry → List Entry → Prop where
  | added {entry : Entry} {entries : List Entry} (absent : Pool.stateOf? entries entry.cid = none) :
      Effect (.addEntry entry) entries (entries ++ [entry])
  | changed {cid : UInt64} {expected : Option State} {next now : State} {entries : List Entry}
      (present : Pool.stateOf? entries cid = some now) (asExpected : ∀ s, expected = some s → now = s) :
      Effect (.updateState cid expected next) entries (RegistryDouble.setState cid next entries)

/-- The entry of one instance is found in one state and left in another, and no other one is touched. -/
structure Pool.Sets (cid : UInt64) (old : Option State) (new : State) (before after : List Entry) :
    Prop where
  found : Pool.stateOf? before cid = old
  left : ∀ other, Pool.stateOf? after other =
    if cid = other then some new else Pool.stateOf? before other

/-- A change of one entry, as it is seen from any entry. -/
theorem Pool.Sets.seen {c : UInt64} {old : Option State} {new : State} {before after : List Entry}
    (h : Pool.Sets c old new before after) (cid : UInt64) :
    (c = cid ∧ Pool.stateOf? before cid = old ∧ Pool.stateOf? after cid = some new) ∨
      c ≠ cid ∧ Pool.stateOf? after cid = Pool.stateOf? before cid := by
  by_cases hc : c = cid
  · subst hc
    exact .inl ⟨rfl, h.found, (h.left c).trans (if_pos rfl)⟩
  · exact .inr ⟨hc, (h.left cid).trans (if_neg hc)⟩

/-- A change of state is made from the expected state. -/
theorem Registry.Effect.updated {cid : UInt64} {expected next : State} {before after : List Entry}
    (h : Registry.Effect (.updateState cid (some expected) next) before after) :
    Pool.Sets cid (some expected) next before after := by
  cases h with
  | changed present asExpected =>
    obtain rfl := asExpected expected rfl
    refine ⟨present, fun other => ?_⟩
    rw [Pool.stateOf?_setState]
    by_cases hc : cid = other
    · subst hc
      rw [if_pos rfl, if_pos rfl, present]
      rfl
    · rw [if_neg hc, if_neg hc]

/-- An entry is added where there was none. -/
theorem Registry.Effect.entered {entry : Entry} {before after : List Entry}
    (h : Registry.Effect (.addEntry entry) before after) :
    Pool.Sets entry.cid none entry.state before after := by
  cases h with
  | added absent =>
    refine ⟨absent, fun other => ?_⟩
    rw [Pool.stateOf?_concat]
    by_cases hc : entry.cid = other
    · subst hc
      rw [if_pos rfl, if_pos rfl, absent]
      rfl
    · rw [if_neg hc, if_neg hc, Option.or_none]

namespace Simulation.RegistryDouble

theorem add_effect (d : RegistryDouble) (entry : Entry) :
    Registry.Effect (.addEntry entry) d.entries (d.add entry).2.entries ∨
      (d.add entry).2.entries = d.entries ∧ ∃ f, (d.add entry).1 = .error f := by
  unfold add
  split
  · exact .inr ⟨rfl, _, rfl⟩
  · rename_i absent
    refine .inl (.added (Pool.stateOf?_eq_none.mpr fun e he hc => absent ?_))
    exact List.any_eq_true.mpr ⟨e, he, beq_iff_eq.mpr hc⟩

theorem update_effect (d : RegistryDouble) (cid : UInt64) (expected : Option State) (next : State) :
    Registry.Effect (.updateState cid expected next) d.entries
        (d.update cid expected next).2.entries ∨
      (d.update cid expected next).2.entries = d.entries ∧
        ∃ f, (d.update cid expected next).1 = .error f := by
  unfold update
  split
  · exact .inr ⟨rfl, _, rfl⟩
  · exact .inr ⟨rfl, _, rfl⟩
  · rename_i entry _ found
    split
    · exact .inr ⟨rfl, _, rfl⟩
    · rename_i hx
      have present : Pool.stateOf? d.entries cid = some entry.state := by
        unfold Pool.stateOf?
        rw [show d.entries.find? (·.cid == cid) = some entry from found]
        rfl
      refine .inl (.changed present fun s hs => ?_)
      subst hs
      simp [Option.filter] at hx
      exact hx.symm

/-- **A call changes the entries in one of the two ways or leaves them as they are**, and then no
    write is answered well. -/
theorem meet_effect (d : RegistryDouble) (call : Registry.Call) (fate : Fate) :
    Registry.Effect call d.entries (d.meet call fate).2.entries ∨
      (d.meet call fate).2.entries = d.entries ∧
        (call.writes → ∃ f, (d.meet call fate).1 = .error f) := by
  have arrived : Registry.Effect call d.entries (d.answer call).2.entries ∨
      (d.answer call).2.entries = d.entries ∧
        (call.writes → ∃ f, (d.answer call).1 = .error f) := by
    unfold answer
    dsimp only
    split
    · exact .inr ⟨rfl, fun _ => ⟨_, rfl⟩⟩
    · cases call with
      | findEntries filter => exact .inr ⟨rfl, fun h => nomatch h⟩
      | getEntry cid => exact .inr ⟨rfl, fun h => nomatch h⟩
      | addEntry entry =>
        exact (add_effect { d with journal := .addEntry entry :: d.journal } entry).imp_right
          fun ⟨same, failed⟩ => ⟨same, fun _ => failed⟩
      | updateState cid expected next =>
        exact (update_effect { d with journal := .updateState cid expected next :: d.journal }
          cid expected next).imp_right fun ⟨same, failed⟩ => ⟨same, fun _ => failed⟩
  cases fate with
  | answered => exact arrived
  | refused f => exact .inr ⟨rfl, fun _ => ⟨f, rfl⟩⟩
  | lost f => exact arrived.imp_right fun ⟨same, _⟩ => ⟨same, fun _ => ⟨f, rfl⟩⟩

end Simulation.RegistryDouble

end InstancePool
