import Mathlib.Data.List.Nodup
import InstancePool.Upkeep
import InstancePool.Proofs.Custody
import InstancePool.Proofs.Halting
import InstancePool.Proofs.Restoring

/-!
# Releases

Whoever gives an instance back is told either that it is free or of a fault, and the pool agrees with what
is told: either the one entry of the instance is free, or nothing has changed. An instance without an
entry gets one, from what the cloud reports of it.

* `Pool.setState_self`, `Pool.apart_of_distinct`: entries of one instance among others;
* `Freed`, `Freed.only`: the two ways in which an instance is set free;
* `Honest`: what may be counted on where nobody else writes and reports are true;
* `write_leaves`, `release_leaves`, `heal_leaves`: what the parts of a release leave of the entries;
* `Released`, `release_frees_or_keeps`: what a release leaves of them, and what a second one does.
-/

namespace InstancePool

open Pool (Entry State)
open Simulation (RegistryDouble)

/-! ## 1. The entry of an instance -/

namespace Pool

/-- Setting the state that an entry is in changes nothing. -/
theorem setState_self {cid : UInt64} {now : State} {entries : List Entry}
    (present : stateOf? entries cid = some now) : RegistryDouble.setState cid now entries = entries := by
  obtain ⟨before, e, after, split, -, same, left⟩ := @setState_split cid now now entries present
  rw [left, split, ← same]

/-- Where no two entries are of one instance, one entry is of another instance than all others. -/
theorem apart_of_distinct {front back : List Entry} {e : Entry}
    (distinct : ((front ++ e :: back).map Entry.cid).Nodup) :
    ∀ other ∈ front ++ back, other.cid ≠ e.cid := by
  intro other member same
  rw [List.map_append, List.map_cons, List.nodup_middle, List.nodup_cons, ← List.map_append] at distinct
  exact distinct.1 (same ▸ List.mem_map_of_mem member)

/-- The entry that is found for an instance, and the state that it is in. -/
theorem stateOf?_of_find? {cid : UInt64} {entries : List Entry} {entry : Entry}
    (found : entries.find? (·.cid == cid) = some entry) :
    entry.cid = cid ∧ stateOf? entries cid = some entry.state := by
  have own := List.find?_some found
  refine ⟨beq_iff_eq.mp own, ?_⟩
  unfold stateOf?
  rw [found]
  rfl

end Pool

/-- How an instance is set free, where some exchanges were made for that: its entry is free now and else as
    it was, and so are all others, or it had no entry and has got one, from a report of it. -/
inductive Freed {σ : Type} (es : List (Exchange (Timed Services) σ)) (cid : UInt64) :
    List Entry → List Entry → Prop where
  | changed {front back : List Entry} {entry : Entry} (own : entry.cid = cid)
    (others : ∀ other ∈ front ++ back, other.cid ≠ cid) :
    Freed es cid (front ++ entry :: back) (front ++ { entry with state := .free } :: back)
  | entered {entries : List Entry} {i : Instance} (absent : ∀ other ∈ entries, other.cid ≠ cid)
    (own : i.cid = cid)
    (reported : ∃ e ∈ es, e.heard = ⟨(Cloud.Call.getInstance cid).query, .ok i⟩) :
    Freed es cid entries (entries ++ [.ofInstance i .free])

section Freed

variable {σ : Type} {es : List (Exchange (Timed Services) σ)} {cid : UInt64} {before after : List Entry}

/-- Either way it has one entry, and that is free. -/
theorem Freed.only (freed : Freed es cid before after) :
    ∃ entry, entry.state = .free ∧ after.filter (·.cid == cid) = [entry] := by
  cases freed with
  | @changed front back entry own others =>
    refine ⟨{ entry with state := .free }, rfl, ?_⟩
    obtain ⟨first, last⟩ := List.forall_mem_append.mp others
    have none : ∀ part : List Entry, (∀ other ∈ part, other.cid ≠ cid) → part.filter (·.cid == cid) = [] :=
      fun part apart => List.filter_eq_nil_iff.mpr fun other member => by simpa using apart other member
    rw [List.filter_append, none front first, List.nil_append,
      List.filter_cons_of_pos (by simpa using own), none back last]
  | @entered _ i absent own =>
    have own : (Entry.ofInstance i .free).cid = cid := own
    refine ⟨.ofInstance i .free, rfl, ?_⟩
    have none : before.filter (·.cid == cid) = [] :=
      List.filter_eq_nil_iff.mpr fun other member => by simpa using absent other member
    rw [List.filter_append, none, List.nil_append, List.filter_cons_of_pos (by simpa using own),
      List.filter_nil]

/-- All other entries are as they were. -/
theorem Freed.others (freed : Freed es cid before after) :
    after.filter (·.cid ≠ cid) = before.filter (·.cid ≠ cid) := by
  cases freed with
  | changed own =>
    rw [List.filter_append, List.filter_append, List.filter_cons_of_neg (by simpa using own),
      List.filter_cons_of_neg (by simpa using own)]
  | @entered _ i _ own =>
    have own : (Entry.ofInstance i .free).cid = cid := own
    rw [List.filter_append, List.filter_cons_of_neg (by simpa using own), List.filter_nil,
      List.append_nil]

/-- And whoever looks for it finds that entry. -/
theorem Freed.found (freed : Freed es cid before after) :
    ∃ entry, entry.state = .free ∧ after.find? (·.cid == cid) = some entry := by
  obtain ⟨entry, free, only⟩ := freed.only
  refine ⟨entry, free, ?_⟩
  rw [← List.head?_filter, only]
  rfl

theorem Freed.mono {more : List (Exchange (Timed Services) σ)} (freed : Freed es cid before after)
    (included : ∀ e ∈ es, e ∈ more) : Freed more cid before after := by
  cases freed with
  | changed own others => exact .changed own others
  | entered absent own reported =>
    obtain ⟨e, he, heard⟩ := reported
    exact .entered absent own ⟨e, included e he, heard⟩

/-- Setting an entry free where no two are of one instance. -/
theorem freed_of_setState {now : State} (distinct : (before.map Entry.cid).Nodup)
    (present : Pool.stateOf? before cid = some now) :
    Freed es cid before (RegistryDouble.setState cid .free before) := by
  obtain ⟨front, entry, back, split, own, -, left⟩ := @Pool.setState_split cid .free now before present
  rw [left, split]
  rw [split] at distinct
  exact .changed own fun other member => own ▸ Pool.apart_of_distinct distinct other member

/-- What a change of state leaves. -/
theorem Registry.Effect.setState_eq {expected : Option State} {next : State}
    (effect : Registry.Effect (.updateState cid expected next) before after) :
    after = RegistryDouble.setState cid next before := by
  cases effect with
  | changed => rfl

/-- What an addition leaves. -/
theorem Registry.Effect.concat_eq {entry : Entry}
    (effect : Registry.Effect (.addEntry entry) before after) :
    after = before ++ [entry] ∧ ∀ other ∈ before, other.cid ≠ entry.cid := by
  cases effect with
  | added absent => exact ⟨rfl, Pool.stateOf?_eq_none.mp absent⟩

end Freed

/-! ## 2. The parts of a release -/

/-- What may be counted on where nobody else writes and reports are true: an entry is found if there is one,
    and a report is on the instance that was asked about. -/
structure Honest {σ : Type} (entries : σ → List Entry) (e : Exchange (Timed Services) σ) : Prop
    extends Solitary entries e where
  found : ∀ cid reply, e.heard = ⟨(Registry.Call.getEntry cid).query, .ok reply⟩ →
    reply = (entries e.before).find? (·.cid == cid)
  named : ∀ cid i, e.heard = ⟨(Cloud.Call.getInstance cid).query, .ok i⟩ → i.cid = cid

/-- What a part of a workflow leaves of the entries: after a good end they are as `good` says, and after a
    fault as before. -/
structure Leaves {σ α : Type} (entries : σ → List Entry) (before : List Entry)
    (t : Trace (Timed Services) σ α) (good : List Entry → Prop) : Prop where
  done : ∀ a, t.result = .ok a → good (entries t.state)
  failed : ∀ f, t.result = .error f → entries t.state = before

section Parts

variable {σ α : Type} {answer : Answering (Timed Services) σ} {entries : σ → List Entry} {cid : UInt64}
  {s : σ} {before : List Entry} {good : List Entry → Prop}

/-- A frame around a fault changes nothing about the entries. -/
theorem Leaves.inContext {p : Workflow α} (h : Leaves entries before (p.trace answer s) good)
    (frame : String) : Leaves entries before ((p.inContext frame).trace answer s) good := by
  unfold Program.inContext
  rw [Program.trace_mapFault]
  constructor
  case done => exact fun a ok => h.done a (Trace.mapFault_eq_ok.mp ok)
  case failed =>
    intro f failed
    obtain ⟨g, ended, -⟩ := Trace.mapFault_eq_error.mp failed
    exact h.failed g ended

/-- **A write** that is answered well has taken effect, and one that fails has not. -/
theorem write_leaves {c : Registry.Call} (frame : String) (writes : c.writes)
    (solitary : ∀ e ∈ (((Workflow.registry c).inContext frame).trace answer s).exchanges,
      Solitary entries e) :
    Leaves entries (entries s) (((Workflow.registry c).inContext frame).trace answer s)
      (Registry.Effect c (entries s)) := by
  refine Leaves.inContext ?_ frame
  rw [Program.exchanges_inContext] at solitary
  have went : (Workflow.registry c).trace answer s = _ := trace_call (.registry c)
  rw [went] at solitary ⊢
  have here := solitary _ List.mem_cons_self
  constructor
  case done => exact fun a ok => here.effect writes fun f failed => nomatch failed.symm.trans ok
  case failed => exact fun f failed => here.harmless f (faultOf?_eq_some.mpr failed)

/-- **An entry that is released** is free after a good end. -/
theorem release_leaves {entry : Entry} (present : Pool.stateOf? (entries s) entry.cid = some entry.state)
    (solitary : ∀ e ∈ ((Pool.release entry).trace answer s).exchanges, Solitary entries e) :
    Leaves entries (entries s) ((Pool.release entry).trace answer s)
      (· = RegistryDouble.setState entry.cid .free (entries s)) := by
  unfold Pool.release at solitary ⊢
  by_cases free : entry.state = .free
  · rw [if_pos free]
    rw [free] at present
    exact ⟨fun _ _ => (Pool.setState_self present).symm, fun f failed => nomatch failed⟩
  · rw [if_neg free] at solitary ⊢
    unfold Pool.transition at solitary ⊢
    rw [if_pos (allows_free free)] at solitary ⊢
    have write := write_leaves _ rfl solitary
    exact ⟨fun a ok => (write.done a ok).setState_eq, write.failed⟩

/-- **An instance without an entry** gets one after a good end, from a report of it. -/
theorem heal_leaves
    (honest : ∀ e ∈ ((Upkeep.heal cid).trace answer s).exchanges, Honest entries e) :
    let t := (Upkeep.heal cid).trace answer s
    Leaves entries (entries s) t (Freed t.exchanges cid (entries s)) := by
  intro t
  let e := answer.exchange (Cloud.Call.getInstance cid).query s
  have honest : ∀ e ∈ t.exchanges, Honest entries e := honest
  cases reported : e.reply with
  | error f =>
    have went : t = ⟨.error (f.inContext s!"fetching instance {cid} to heal pool registry"), e.after, [e]⟩ :=
      trace_framed_bind_error reported
    rw [went] at honest ⊢
    have here := honest e List.mem_cons_self
    exact ⟨fun _ ok => (nomatch ok), fun _ _ => here.reads nofun⟩
  | ok i =>
    have went : t = (((Workflow.registry (.addEntry (.ofInstance i .free))).inContext
        s!"adding missing pool entry {cid}").trace answer e.after).precededBy [e] :=
      trace_framed_bind_ok reported
    rw [went] at honest ⊢
    obtain ⟨here, later⟩ := List.forall_mem_cons.mp honest
    have kept : entries e.after = entries s := here.reads nofun
    have heard : e.heard = ⟨(Cloud.Call.getInstance cid).query, .ok i⟩ := congrArg (Heard.mk _) reported
    have own : i.cid = cid := here.named cid i heard
    have write := write_leaves _ rfl fun e he => (later e he).toSolitary
    rw [kept] at write
    constructor
    case done =>
      intro a ok
      obtain ⟨concat, absent⟩ := (write.done a ok).concat_eq
      have absent : ∀ other ∈ entries s, other.cid ≠ cid := own ▸ absent
      rw [Trace.precededBy_state, concat]
      exact .entered absent own ⟨e, List.mem_cons_self, heard⟩
    case failed => exact write.failed

end Parts

/-! ## 3. The whole release -/

/-- What a release leaves of the entries that were there before. -/
structure Released {σ : Type} (entries : σ → List Entry) (cid : UInt64) (before : List Entry)
    (t : Trace (Timed Services) σ Unit) : Prop where
  /-- After a good end the instance was set free. -/
  freed : t.result = .ok () → Freed t.exchanges cid before (entries t.state)
  /-- It has one entry then, and that is free. -/
  only : t.result = .ok () →
    ∃ entry, entry.state = .free ∧ (entries t.state).filter (·.cid == cid) = [entry]
  /-- After a fault all entries are as they were, -/
  kept : ∀ f, t.result = .error f → entries t.state = before
  /-- and those of other instances are so in any case. -/
  others : (entries t.state).filter (·.cid ≠ cid) = before.filter (·.cid ≠ cid)
  /-- The cloud is asked for nothing but a report of the instance. -/
  asked : ∀ c ∈ cloudCalls t.exchanges, c = .getInstance cid

section Whole

variable {σ : Type} {answer : Answering (Timed Services) σ} {entries : σ → List Entry} {cid : UInt64}
  {s : σ}

/-- **What a release leaves**, whichever way it goes. -/
theorem leaves_of_release (distinct : ((entries s).map Entry.cid).Nodup)
    (honest : ∀ e ∈ ((Upkeep.release cid).trace answer s).exchanges, Honest entries e) :
    let t := (Upkeep.release cid).trace answer s
    Leaves entries (entries s) t (Freed t.exchanges cid (entries s)) := by
  intro t
  let e := answer.exchange (Registry.Call.getEntry cid).query s
  have honest : ∀ e ∈ t.exchanges, Honest entries e := honest
  match looked : e.reply with
  | .error f =>
    have went : t = ⟨.error (f.inContext s!"looking up pool entry {cid}"), e.after, [e]⟩ :=
      trace_framed_bind_error looked
    rw [went] at honest ⊢
    have here := honest e List.mem_cons_self
    exact ⟨fun _ ok => (nomatch ok), fun _ _ => here.reads nofun⟩
  | .ok (some entry) =>
    have went : t = (((Pool.release entry).inContext s!"releasing instance {cid} to pool").trace answer
        e.after).precededBy [e] := trace_framed_bind_ok looked
    rw [went] at honest ⊢
    obtain ⟨here, later⟩ := List.forall_mem_cons.mp honest
    have kept : entries e.after = entries s := here.reads nofun
    have found : some entry = (entries s).find? (·.cid == cid) :=
      here.found cid (some entry) (congrArg (Heard.mk _) looked)
    obtain ⟨own, present⟩ := Pool.stateOf?_of_find? found.symm
    subst own
    rw [Program.exchanges_inContext] at later
    have part := release_leaves (kept.symm ▸ present) fun e he => (later e he).toSolitary
    have part := part.inContext s!"releasing instance {entry.cid} to pool"
    rw [kept] at part
    refine ⟨fun a ok => ?_, part.failed⟩
    rw [Trace.precededBy_state, part.done a ok]
    exact freed_of_setState distinct present
  | .ok none =>
    have went : t = ((Upkeep.heal cid).trace answer e.after).precededBy [e] := trace_framed_bind_ok looked
    rw [went] at honest ⊢
    obtain ⟨here, later⟩ := List.forall_mem_cons.mp honest
    have kept : entries e.after = entries s := here.reads nofun
    have part := heal_leaves later
    rw [kept] at part
    exact ⟨fun a ok => (part.done a ok).mono fun e he => List.mem_cons_of_mem _ he, part.failed⟩

/-- **A free instance** is free already. -/
theorem release_again {entry : Entry} (found : (entries s).find? (·.cid == cid) = some entry)
    (free : entry.state = .free)
    (honest : ∀ e ∈ ((Upkeep.release cid).trace answer s).exchanges, Honest entries e)
    (working : ∀ e ∈ ((Upkeep.release cid).trace answer s).exchanges, faultOf? e.query e.reply = none) :
    let t := (Upkeep.release cid).trace answer s
    t.result = .ok () ∧ entries t.state = entries s := by
  intro t
  let e := answer.exchange (Registry.Call.getEntry cid).query s
  have first : e ∈ t.exchanges := by
    refine Program.exchanges_bind_first ?_
    rw [Program.exchanges_inContext]
    exact List.mem_cons_self
  have kept : entries e.after = entries s := (honest e first).reads nofun
  obtain ⟨reply, looked⟩ := faultOf?_eq_none.mp (working e first)
  have told : reply = some entry :=
    ((honest e first).found cid reply (congrArg (Heard.mk _) looked)).trans found
  have went : t = (((Pool.release entry).inContext s!"releasing instance {cid} to pool").trace answer
      e.after).precededBy [e] := trace_framed_bind_ok (looked.trans (congrArg Except.ok told))
  have still : Pool.release entry = .done () := if_pos free
  rw [still] at went
  rw [went]
  exact ⟨rfl, kept⟩

/-- **A release frees the instance or changes nothing.** No two entries are of one instance before, nobody
    else writes, and reports are true. After a good end, a second release is well, too, as long as no call
    fails, and changes nothing. -/
theorem release_frees_or_keeps (distinct : ((entries s).map Entry.cid).Nodup)
    (honest : ∀ e ∈ ((Upkeep.release cid).trace answer s).exchanges, Honest entries e) :
    let t := (Upkeep.release cid).trace answer s
    Released entries cid (entries s) t ∧
      (t.result = .ok () → ∀ (answer' : Answering (Timed Services) σ) (s' : σ),
        let t' := (Upkeep.release cid).trace answer' s'
        entries s' = entries t.state → (∀ e ∈ t'.exchanges, Honest entries e) →
          (∀ e ∈ t'.exchanges, faultOf? e.query e.reply = none) →
            t'.result = .ok () ∧ entries t'.state = entries t.state) := by
  intro t
  have leaves := leaves_of_release distinct honest
  have leaves : Leaves entries (entries s) t (Freed t.exchanges cid (entries s)) := leaves
  constructor
  · constructor
    case freed => exact leaves.done ()
    case only => exact fun ok => (leaves.done () ok).only
    case kept => exact leaves.failed
    case others =>
      cases ended : t.result with
      | ok _ => exact (leaves.done () ended).others
      | error f => rw [leaves.failed f ended]
    case asked =>
      intro c member
      obtain ⟨e, he, asks⟩ := mem_cloudCalls member
      have allowed : Upkeep.Asks cid e.query := release_asks cid e he
      generalize e.query = q at asks allowed
      cases allowed <;> cases asks
      rfl
  · intro ok answer' s' t' same honest' working'
    obtain ⟨entry, free, found⟩ := (leaves.done () ok).found
    rw [← same] at found ⊢
    exact release_again found free honest' working'

end Whole

/-! ## 4. Two entries -/

/-- An entry is looked up in the registry in memory. -/
theorem Simulation.RegistryDouble.answer_getEntry {d : RegistryDouble} {cid : UInt64} {reply : Option Entry}
    (looked : (d.answer (.getEntry cid)).1 = .ok reply) : reply = d.entries.find? (·.cid == cid) := by
  unfold RegistryDouble.answer at looked
  dsimp only at looked
  split at looked
  · cases looked
  · exact (Except.ok.inj looked).symm

/-- **The registry in memory is honest** if all others report on the instance that was asked about. -/
theorem honest_overRegistry {τ : Type} {others : Answering (Timed Services) τ}
    (named : ∀ cid s i, (others (Cloud.Call.getInstance cid).query s).1 = .ok i → i.cid = cid)
    (q : (Timed Services).Query) (s : RegistryDouble × τ) :
    Honest (fun s => s.1.entries) ((overRegistry others).exchange q s) where
  toSolitary := solitary_overRegistry others q s
  found cid reply heard := by
    obtain ⟨rfl, same⟩ := Heard.mk.inj heard
    exact RegistryDouble.answer_getEntry (eq_of_heq same)
  named cid i heard := by
    obtain ⟨rfl, same⟩ := Heard.mk.inj heard
    exact named cid s.2 i (eq_of_heq same)

namespace Sample

/-- A pool of two entries, one that is being prepared and one in use. -/
def pair : RegistryDouble where
  entries := [⟨41, 2, 2048, none, "vm-41", 0, 0, .provisioning⟩, ⟨42, 2, 2048, none, "vm-42", 0, 0, .using⟩]

/-- The release of the instance in use. -/
def givenBack : Trace (Timed Services) (RegistryDouble × Bool) Unit :=
  (Upkeep.release 42).trace (overRegistry cloud) (pair, false)

theorem givenBack_honest : ∀ e ∈ givenBack.exchanges, Honest (fun s => s.1.entries) e := by
  intro e he
  obtain ⟨q, s, rfl⟩ := Program.exchanges_asked e he
  refine honest_overRegistry (fun cid s i reported => ?_) q s
  cases reported
  rfl

end Sample

/-- So it is where the instance is in use, next to one that is being prepared. -/
theorem release_frees_or_keeps_in_use :
    (Sample.pair.entries.map Entry.cid).Nodup ∧
      (∀ e ∈ Sample.givenBack.exchanges, Honest (fun s => s.1.entries) e) ∧
      Released (fun s => s.1.entries) 42 Sample.pair.entries Sample.givenBack ∧
      Sample.givenBack.result = .ok () := by
  have distinct : (Sample.pair.entries.map Entry.cid).Nodup := by decide
  refine ⟨distinct, Sample.givenBack_honest, ?_, rfl⟩
  exact (@release_frees_or_keeps _ (overRegistry Sample.cloud) (fun s => s.1.entries) 42
    (Sample.pair, false) distinct Sample.givenBack_honest).1

end InstancePool
