import InstancePool.Proofs.Interleaving
import InstancePool.Proofs.Tending

/-!
# The registry as a ledger

Whatever callers do side by side, and whatever gets lost between them and the registry, the registry
reads like a ledger: entries are only ever added, at the end, and of an entry nothing but its state
changes, along one of four edges.

* `State.edges`: the four changes;
* `Pool.Change`: what one turn does to the entries;
* `lawful`: the discipline of the writes. Every workflow obeys it, whatever it is answered, because a
  write carries the state it is made from, and the registry compares it (`Effect.change`);
* `kept_as_ledger`: the entries after every schedule.
-/

namespace InstancePool

open Pool (Entry State)
open Simulation (RegistryDouble)

/-! ## 1. Changes of a ledger -/

namespace Pool

/-- The changes of state: a claim, its two ends, and the release. -/
def State.edges : List (State × State) :=
  [(.free, .provisioning), (.provisioning, .using), (.using, .free), (.provisioning, .free)]

theorem State.mem_edges {a b : State} (h : a.allows b = true) : (a, b) ∈ State.edges := by
  cases a <;> cases b <;> first | decide | cases h

/-- What one turn does to the entries: nothing, one entry more, or one entry in another state. -/
inductive Change : List Entry → List Entry → Prop where
  | none (entries : List Entry) : Change entries entries
  | added {entries : List Entry} {e : Entry} (absent : ∀ other ∈ entries, other.cid ≠ e.cid)
      (begins : e.state = .using ∨ e.state = .free) : Change entries (entries ++ [e])
  | moved {before after : List Entry} {e : Entry} {next : State}
      (edge : (e.state, next) ∈ State.edges) :
      Change (before ++ e :: after) (before ++ { e with state := next } :: after)

/-- The record of an entry, with its state set aside. -/
def Entry.record (e : Entry) : Entry := { e with state := .free }

/-- Later entries: the records of the earlier ones in their places, and others after them. -/
def Extends (earlier later : List Entry) : Prop :=
  earlier.map Entry.record <+: later.map Entry.record

theorem Change.extends {earlier later : List Entry} (h : Change earlier later) :
    Extends earlier later := by
  cases h with
  | none => exact List.prefix_rfl
  | added => exact ⟨_, List.map_append.symm⟩
  | moved =>
    refine ⟨[], ?_⟩
    rw [List.append_nil, List.map_append, List.map_append]
    rfl

theorem Change.nodup {earlier later : List Entry} (h : Change earlier later)
    (distinct : (earlier.map Entry.cid).Nodup) : (later.map Entry.cid).Nodup := by
  cases h with
  | none => exact distinct
  | added absent =>
    rw [List.map_append, List.nodup_append]
    refine ⟨distinct, List.pairwise_singleton .., fun cid hc other ho same => ?_⟩
    obtain ⟨entry, he, rfl⟩ := List.mem_map.mp hc
    exact absent entry he (same.trans (List.mem_singleton.mp ho))
  | moved => simpa using distinct

end Pool

/-! ## 2. The discipline of the writes -/

/-- A write is lawful if it adds an entry that is in use or free, or makes a change that the state it
    carries allows. -/
def Registry.Call.Lawful : Registry.Call → Prop
  | addEntry entry => entry.state = .using ∨ entry.state = .free
  | updateState _ expected next => ∃ now, expected = some now ∧ State.allows now next = true
  | findEntries _ => True
  | getEntry _ => True

/-- Every write is lawful; nothing else is asked for, and no reply is counted on. -/
def lawful : Discipline (Timed Services) where
  Stage := Unit
  may _
    | .other (.call (.registry call)) => call.Lawful
    | _ => True
  credible _ _ := True
  next s _ _ := s

/-- **A lawful write changes the entries as a ledger allows**: what it expects is what it finds. -/
theorem Registry.Effect.change {call : Registry.Call} {before after : List Entry}
    (h : Registry.Effect call before after) (hc : call.Lawful) : Pool.Change before after := by
  cases h with
  | added absent => exact .added (Pool.stateOf?_eq_none.mp absent) hc
  | changed present asExpected =>
    obtain ⟨now, hn, allowed⟩ := hc
    obtain ⟨first, e, rest, rfl, -, he, hs⟩ := Pool.setState_split present
    rw [hs]
    refine .moved (Pool.State.mem_edges ?_)
    rw [he, asExpected now hn]
    exact allowed

/-- An answer to an allowed question changes the entries as a ledger allows. -/
theorem Answered.change {s : lawful.Stage} {q : (Timed Services).Query}
    {reply : (Timed Services).Reply q} {before after : List Entry}
    (h : Answered q reply before after) (may : lawful.may s q) : Pool.Change before after := by
  cases h with
  | changed effect => exact effect.change may
  | failed => exact .none _
  | told => exact .none _

section Workflows

variable {s : lawful.Stage}

theorem lawful_registry {c : Registry.Call} (hc : c.Lawful) :
    (Workflow.registry c).Stays lawful s fun _ => True := by
  have quiet : lawful.Quiet s (.other (.call (.registry c))) := ⟨hc, fun _ => rfl⟩
  exact (stays_call quiet).mono fun _ _ => trivial

theorem lawful_cloud (c : Cloud.Call) : (Workflow.cloud c).Stays lawful s fun _ => True := by
  have quiet : lawful.Quiet s (.other (.call (.cloud c))) := ⟨trivial, fun _ => rfl⟩
  exact (stays_call quiet).mono fun _ _ => trivial

theorem lawful_tends : Tends lawful s fun _ => True where
  quiet cid _ q hq := by
    refine ⟨?_, fun _ => rfl⟩
    cases q with
    | other q =>
      cases q with
      | call c =>
        cases c with
        | registry c => exact hq.elim
        | _ => trivial
      | mark => trivial
    | _ => trivial
  truthful _ _ _ _ := trivial

theorem lawful_transition (cid : UInt64) (before after : State) :
    (Pool.transition cid before after).Stays lawful s fun _ => True := by
  unfold Pool.transition
  refine Program.stays_ite (fun allowed => ?_) fun _ => Program.stays_fail
  have write : (Registry.Call.updateState cid (some before) after).Lawful := ⟨before, rfl, allowed⟩
  exact (lawful_registry write).inContext

theorem lawful_provision (site : Site) (request : Request) (selected : Networks) :
    (Provision.run site request selected).Stays lawful s fun _ => True := by
  have tends : Tends lawful s fun _ => True := lawful_tends
  refine Program.stays_ask ⟨trivial, fun _ => rfl⟩ fun mark _ => ?_
  refine (lawful_cloud _).inContext.mapFault.bind fun receipt _ => ?_
  refine (stays_settle (tends.settles trivial) site.waits _).mapFault.bind fun _ _ => ?_
  refine (lawful_cloud _).inContext.mapFault.bind fun i _ => ?_
  refine (stays_resolveEndpoints tends trivial site.agent _).mapFault.bind fun endpoints _ => ?_
  refine (stays_configure tends trivial site.agent _ _ endpoints).mapFault.bind fun _ _ => ?_
  exact (stays_applyCredential tends trivial site.agent).mapFault.bind fun _ _ =>
    Program.stays_done trivial

theorem lawful_reclaim (site : Site) (target : Reclaim.Target) (request : Request)
    (selected : Networks) :
    (Reclaim.run site target request selected).Stays lawful s fun _ => True := by
  refine stays_reclaim lawful_tends target ?_ (fun _ _ _ => ⟨trivial, fun _ => rfl⟩) site request
    selected
  cases target with
  | cid cid => exact (lawful_cloud _).inContext
  | ip ip =>
    exact Program.stays_ite (fun _ => (lawful_cloud _).inContext) fun _ => (lawful_cloud _).inContext

theorem lawful_reuse (site : Site) (cid : UInt64) (request : Request) (selected : Networks) :
    (Allocation.reuse site cid request selected).Stays lawful s fun _ => True := by
  refine (lawful_transition cid .free .provisioning).mapFault.bind fun _ _ => ?_
  refine (lawful_reclaim site (.cid cid) request selected).attempt.bind fun result _ => ?_
  cases result with
  | ok i => exact (lawful_transition cid _ _).bind fun _ _ => Program.stays_done trivial
  | error fault =>
    refine (lawful_transition cid _ _).attempt.bind fun result _ => ?_
    cases result with
    | ok _ => exact Program.stays_fail
    | error compensation => exact Program.stays_fail

theorem lawful_allocation (site : Site) (request : Request) :
    (Allocation.run site request).Stays lawful s fun _ => True := by
  have accepted : (Program.ofExcept (Networks.select request.networks) : Workflow Networks).Stays
      lawful s fun _ => True := Program.stays_ofExcept fun _ _ => trivial
  refine accepted.inContext.bind fun selected _ => ?_
  cases selected.fixedIp with
  | some ip => exact (lawful_reclaim site (.ip ip) request selected).inContext
  | none =>
    refine (lawful_registry (c := .findEntries _) trivial).inContext.bind fun candidates _ => ?_
    cases candidates with
    | nil =>
      refine (lawful_provision site request selected).bind fun i _ => ?_
      exact (lawful_registry (c := .addEntry _) (.inl rfl)).inContext.bind fun _ _ =>
        Program.stays_done trivial
    | cons entry _ => exact lawful_reuse site entry.cid request selected

theorem lawful_release (cid : UInt64) :
    (Upkeep.release cid).Stays lawful s fun _ => True := by
  refine (lawful_registry (c := .getEntry cid) trivial).inContext.bind fun found _ => ?_
  cases found with
  | some entry =>
    exact (Program.stays_ite (fun _ => Program.stays_done trivial) fun _ =>
      lawful_transition entry.cid entry.state .free).inContext
  | none =>
    refine (lawful_cloud (.getInstance cid)).inContext.bind fun i _ => ?_
    exact (lawful_registry (c := .addEntry _) (.inr rfl)).inContext

/-- **Every task writes lawfully**, whatever it is answered. -/
theorem lawful_workflow (task : Task) : task.workflow.Stays lawful s fun _ => True := by
  cases task with
  | create site request =>
    exact (lawful_allocation site request).bind fun _ _ => Program.stays_done trivial
  | release cid => exact (lawful_release cid).bind fun _ _ => Program.stays_done trivial

end Workflows

/-! ## 3. The entries after a schedule -/

section Schedules

variable {ι : Type} [DecidableEq ι] {tasks : ι → Task} {registry : RegistryDouble}

/-- **One turn** changes the entries as a ledger allows. -/
theorem advance_change (schedule : List (Turn ι)) (turn : Turn ι) :
    Pool.Change ((Traffic.start tasks registry).after schedule).registry.entries
      ((Traffic.start tasks registry).after (turn :: schedule)).registry.entries := by
  have admitted : ∀ turn ∈ schedule, lawful.Admits turn := fun _ _ _ _ => trivial
  have obeys := obeys_after registry
    (fun i => Program.stays_iff.mp (lawful_workflow (s := ()) (tasks i))) admitted turn.caller
  rw [Traffic.after]
  rcases Traffic.advance_cases ((Traffic.start tasks registry).after schedule) turn with
    same | ⟨q, next, asks, same⟩
  · rw [same]
    exact .none _
  · rw [same]
    rw [asks] at obeys
    exact (turn.answered _ q).change obeys.1

/-- What a registry that is kept as a ledger holds after a schedule: no two entries of an instance,
    and whatever happens next, one change at most in a turn and no entry lost ever. -/
structure KeptAsLedger (tasks : ι → Task) (registry : RegistryDouble) (schedule : List (Turn ι)) :
    Prop where
  distinct : (((Traffic.start tasks registry).after schedule).registry.entries.map Entry.cid).Nodup
  turn : ∀ turn, Pool.Change ((Traffic.start tasks registry).after schedule).registry.entries
    ((Traffic.start tasks registry).after (turn :: schedule)).registry.entries
  later : ∀ later, Pool.Extends ((Traffic.start tasks registry).after schedule).registry.entries
    ((Traffic.start tasks registry).after (later ++ schedule)).registry.entries

/-- **The registry is kept as a ledger** through every schedule. -/
theorem kept_as_ledger (distinct : (registry.entries.map Entry.cid).Nodup)
    (schedule : List (Turn ι)) : KeptAsLedger tasks registry schedule := by
  refine ⟨?_, advance_change schedule, fun later => ?_⟩
  · induction schedule with
    | nil => exact distinct
    | cons turn earlier ih => exact (advance_change earlier turn).nodup ih
  · induction later with
    | nil => exact List.prefix_rfl
    | cons turn rest ih => exact ih.trans (advance_change (rest ++ schedule) turn).extends

theorem kept_as_ledger_in_theft :
    (Sample.registry.entries.map Entry.cid).Nodup ∧
      KeptAsLedger Sample.contest Sample.registry Sample.theft := by
  have distinct : (Sample.registry.entries.map Entry.cid).Nodup := by decide
  exact ⟨distinct, kept_as_ledger distinct Sample.theft⟩

end Schedules

end InstancePool
