import InstancePool.Allocation
import InstancePool.Proofs.Building
import InstancePool.Proofs.Interleaving

/-!
# The course of an allocation

What an allocation does is settled by few answers: whether the networks are accepted, what the pool
finds, whether the claim is granted, and how the reclaim or the building ends. This file says once what
the trace of an allocation is for each of them; nothing after it runs the workflow again.

* `Allocation.searched`, `Hit.claim`, `Hit.reclaim`, `Hit.last`, `Miss.build`, `Miss.last`: the parts of
  a trace;
* `Allocation.Course`, `course`: the seven courses that an allocation may take;
* `trace_invalid`, `trace_fixed`, `trace_unsearched`, `trace_denied`, `trace_reused`, `trace_unbuilt`,
  `trace_built`: the trace of each.
-/

namespace InstancePool

open Pool (Entry State)
open Simulation (RegistryDouble)

section Courses

variable {σ : Type}

/-! ## 1. The parts of an allocation -/

namespace Allocation

section Parts

variable (answer : Answering (Timed Services) σ) (site : Site) (request : Request)
  (selected : Networks) (cid : UInt64) (s : σ)

/-- The search of the pool. -/
def searched : Exchange (Timed Services) σ :=
  answer.exchange (Registry.Call.findEntries (request.filter selected)).query s

/-- The claim of an entry. -/
def claimed : Exchange (Timed Services) σ :=
  answer.exchange (Registry.Call.updateState cid (some .free) .provisioning).query s

/-- The reclaim of the instance of an entry. -/
def reclaimed : Trace (Timed Services) σ Instance :=
  (Reclaim.run site (.cid cid) request selected).trace answer s

/-- The state in which a claim leaves its entry: it is in use if the reclaim ended well, and free
    again if not. -/
def stateFor : Except Fault Instance → State
  | .ok _ => .using
  | .error _ => .free

/-- The end of a claim after a reclaim. -/
def settled (t : Trace (Timed Services) σ Instance) : Exchange (Timed Services) σ :=
  answer.exchange (Registry.Call.updateState cid (some .provisioning) (stateFor t.result)).query
    t.state

/-- What an allocation ends with after a reclaim and the write that ended its claim. -/
def conclusion : Except Fault Instance → Except Fault Unit → Except Fault Instance
  | .ok i, .ok _ => .ok i
  | .ok _, .error f =>
    .error (f.inContext
      s!"updating pool entry {cid} from {State.provisioning} to {State.using}")
  | .error f, .ok _ => .error (f.inContext s!"reusing pooled instance {cid}")
  | .error f, .error compensation =>
    .error (.compensationFailed (f.inContext s!"reusing pooled instance {cid}")
      (compensation.inContext
        s!"updating pool entry {cid} from {State.provisioning} to {State.free}"))

/-- The building of a new instance. -/
def built : Trace (Timed Services) σ Instance :=
  (Provision.run site request selected).trace answer s

/-- The entry of a new instance. -/
def entered (i : Instance) (s : σ) : Exchange (Timed Services) σ :=
  answer.exchange (Registry.Call.addEntry (.ofInstance i .using)).query s

/-- The claim of the entry that an allocation found. -/
def Hit.claim : Exchange (Timed Services) σ :=
  claimed answer cid (searched answer request selected s).after

/-- The reclaim under that claim. -/
def Hit.reclaim : Trace (Timed Services) σ Instance :=
  reclaimed answer site request selected cid (Hit.claim answer request selected cid s).after

/-- The end of that claim. -/
def Hit.last : Exchange (Timed Services) σ :=
  settled answer cid (Hit.reclaim answer site request selected cid s)

/-- The building of an instance where an allocation found no entry. -/
def Miss.build : Trace (Timed Services) σ Instance :=
  built answer site request selected (searched answer request selected s).after

/-- The entry of that instance. -/
def Miss.last (i : Instance) : Exchange (Timed Services) σ :=
  entered answer i (Miss.build answer site request selected s).state

/-- What an allocation ends with after the entry of a new instance. -/
def registered (i : Instance) : Except Fault Unit → Except Fault Instance
  | .ok _ => .ok i
  | .error f => .error (f.inContext s!"registering instance {i.cid} in pool")

end Parts

variable {answer : Answering (Timed Services) σ} {site : Site} {request : Request}
  {selected : Networks} {cid : UInt64} {s : σ}

/-! ## 2. Both ways to an instance -/

/-- What is left of a reuse when the reclaim has ended. -/
def finish (cid : UInt64) : Except Fault Instance → Workflow Instance
  | .ok i => (Pool.markUsing cid).bind fun _ => .done i
  | .error fault => (Pool.rollback cid).attempt.bind fun
    | .ok _ => .fail (fault.inContext s!"reusing pooled instance {cid}")
    | .error compensation =>
      .fail (.compensationFailed (fault.inContext s!"reusing pooled instance {cid}") compensation)

theorem reuse_eq :
    reuse site cid request selected =
      ((Pool.claim cid).mapFault fun fault => fault.retryable (fault.kind = .poolConflict)).bind
        fun _ => (Reclaim.run site (.cid cid) request selected).attempt.bind (finish cid) := rfl

/-- The claim, with advice on trying again where it is not granted. -/
theorem trace_claim :
    ((Pool.claim cid).mapFault fun fault => fault.retryable (fault.kind = .poolConflict)).trace
        answer s =
      ⟨Except.mapError (fun f => (f.inContext
          s!"updating pool entry {cid} from {State.free} to {State.provisioning}").retryable
          (f.kind = .poolConflict)) (claimed answer cid s).reply,
        (claimed answer cid s).after, [claimed answer cid s]⟩ := by
  have claim : (Pool.claim cid).trace answer s =
      ⟨Except.mapError _ (claimed answer cid s).reply, (claimed answer cid s).after,
        [claimed answer cid s]⟩ := trace_transition cid rfl
  rw [Program.trace_mapFault, claim]
  cases (claimed answer cid s).reply with
  | ok _ => rfl
  | error f => rfl

/-- A claim that is not granted is the end of it. -/
theorem trace_reuse_denied {f : Fault} (denied : (claimed answer cid s).reply = .error f) :
    (reuse site cid request selected).trace answer s =
      ⟨.error ((f.inContext
          s!"updating pool entry {cid} from {State.free} to {State.provisioning}").retryable
          (f.kind = .poolConflict)),
        (claimed answer cid s).after, [claimed answer cid s]⟩ := by
  rw [reuse_eq, Program.trace_bind, trace_claim, denied]
  rfl

/-- One write ends a claim, and with it the allocation. -/
theorem trace_finish (t : Trace (Timed Services) σ Instance) :
    (finish cid t.result).trace answer t.state =
      ⟨conclusion cid t.result (settled answer cid t).reply, (settled answer cid t).after,
        [settled answer cid t]⟩ := by
  obtain ⟨result, state, exchanges⟩ := t
  cases result with
  | ok i =>
    have mark : (Pool.markUsing cid).trace answer state =
        ⟨Except.mapError _ (settled answer cid ⟨.ok i, state, exchanges⟩).reply, _, _⟩ :=
      trace_transition cid rfl
    unfold finish
    dsimp only
    rw [Program.trace_bind, mark]
    cases (settled answer cid ⟨.ok i, state, exchanges⟩).reply with
    | ok _ => rfl
    | error g => rfl
  | error f =>
    have rollback : (Pool.rollback cid).trace answer state =
        ⟨Except.mapError _ (settled answer cid ⟨.error f, state, exchanges⟩).reply, _, _⟩ :=
      trace_transition cid rfl
    unfold finish
    dsimp only
    rw [Program.trace_attempt_bind, rollback]
    cases (settled answer cid ⟨.error f, state, exchanges⟩).reply with
    | ok _ => rfl
    | error g => rfl

/-- **Under a claim that is granted**, the instance is reclaimed, and one more write ends the claim. -/
theorem trace_reuse_granted (granted : (claimed answer cid s).reply = .ok ()) :
    let t := reclaimed answer site request selected cid (claimed answer cid s).after
    (reuse site cid request selected).trace answer s =
      ⟨conclusion cid t.result (settled answer cid t).reply, (settled answer cid t).after,
        claimed answer cid s :: (t.exchanges ++ [settled answer cid t])⟩ := by
  intro t
  have rest : ((Reclaim.run site (.cid cid) request selected).attempt.bind (finish cid)).trace answer
      (claimed answer cid s).after = _ := Program.trace_attempt_bind.trans
    (congrArg (Trace.precededBy · t.exchanges) (trace_finish t))
  rw [reuse_eq, Program.trace_bind, trace_claim, granted]
  exact congrArg (Trace.precededBy · _) rest

end Allocation

/-! ## 3. The courses of an allocation -/

namespace Allocation

variable (answer : Answering (Timed Services) σ) (site : Site) (request : Request) (s : σ)

/-- The courses that an allocation may take. -/
inductive Course : Prop where
  | invalid {f : Fault} (refused : Networks.select request.networks = .error f)
  | fixed {selected : Networks} {ip : Address}
      (accepted : Networks.select request.networks = .ok selected)
      (pinned : selected.fixedIp = some ip)
  | unsearched {selected : Networks} {f : Fault}
      (accepted : Networks.select request.networks = .ok selected) (pooled : selected.fixedIp = none)
      (failed : (searched answer request selected s).reply = .error f)
  | denied {selected : Networks} {entry : Entry} {rest : List Entry} {f : Fault}
      (accepted : Networks.select request.networks = .ok selected) (pooled : selected.fixedIp = none)
      (found : (searched answer request selected s).reply = .ok (entry :: rest))
      (refused : (Hit.claim answer request selected entry.cid s).reply = .error f)
  | reused {selected : Networks} {entry : Entry} {rest : List Entry}
      (accepted : Networks.select request.networks = .ok selected) (pooled : selected.fixedIp = none)
      (found : (searched answer request selected s).reply = .ok (entry :: rest))
      (granted : (Hit.claim answer request selected entry.cid s).reply = .ok ())
  | unbuilt {selected : Networks} {f : Fault}
      (accepted : Networks.select request.networks = .ok selected) (pooled : selected.fixedIp = none)
      (missed : (searched answer request selected s).reply = .ok [])
      (failed : (Miss.build answer site request selected s).result = .error f)
  | built {selected : Networks} {i : Instance}
      (accepted : Networks.select request.networks = .ok selected) (pooled : selected.fixedIp = none)
      (missed : (searched answer request selected s).reply = .ok [])
      (ok : (Miss.build answer site request selected s).result = .ok i)

/-- **An allocation takes one of its courses.** -/
theorem course : Course answer site request s := by
  cases accepted : Networks.select request.networks with
  | error f => exact .invalid accepted
  | ok selected =>
    cases pooled : selected.fixedIp with
    | some ip => exact .fixed accepted pooled
    | none =>
      cases found : (searched answer request selected s).reply with
      | error f => exact .unsearched accepted pooled found
      | ok entries =>
        cases entries with
        | nil =>
          cases ended : (Miss.build answer site request selected s).result with
          | error f => exact .unbuilt accepted pooled found ended
          | ok i => exact .built accepted pooled found ended
        | cons entry rest =>
          cases granted : (Hit.claim answer request selected entry.cid s).reply with
          | error f => exact .denied accepted pooled found granted
          | ok _ => exact .reused accepted pooled found granted

/-- What is left of an allocation after a search of the pool. -/
def choose (selected : Networks) : List Entry → Workflow Instance
  | [] => provision site request selected
  | entry :: _ => reuse site entry.cid request selected

variable {answer site request s}

/-- Entering a new instance ends an allocation that has built one. -/
theorem trace_enter (i : Instance) :
    (((Workflow.registry (.addEntry (.ofInstance i .using))).inContext
      s!"registering instance {i.cid} in pool").bind fun _ => .done i).trace answer s =
        ⟨registered i (entered answer i s).reply, (entered answer i s).after,
          [entered answer i s]⟩ := by
  have framed : (((Workflow.registry (.addEntry (.ofInstance i .using))).inContext
      s!"registering instance {i.cid} in pool").trace answer s) =
        ⟨Except.mapError _ (entered answer i s).reply, _, _⟩ := trace_framed _ _
  rw [Program.trace_bind, framed]
  cases (entered answer i s).reply with
  | ok _ => rfl
  | error f => rfl

/-- A search of the pool before the rest of an allocation. -/
theorem trace_search {selected : Networks} :
    (((Workflow.registry (.findEntries (request.filter selected))).inContext
      "querying pool for free instances").bind (choose site request selected)).trace answer s =
        match (searched answer request selected s).reply with
        | .ok entries =>
          ((choose site request selected entries).trace answer
            (searched answer request selected s).after).precededBy [searched answer request selected s]
        | .error f =>
          ⟨.error (f.inContext "querying pool for free instances"),
            (searched answer request selected s).after, [searched answer request selected s]⟩ := by
  have framed : ((Workflow.registry (.findEntries (request.filter selected))).inContext
      "querying pool for free instances").trace answer s =
        ⟨Except.mapError _ (searched answer request selected s).reply, _, _⟩ := trace_framed _ _
  rw [Program.trace_bind, framed]
  cases (searched answer request selected s).reply with
  | ok entries => rfl
  | error f => rfl

section Traces

variable {selected : Networks} {entry : Entry} {rest : List Entry} {f : Fault}

theorem trace_invalid (refused : Networks.select request.networks = .error f) :
    (run site request).trace answer s =
      ⟨.error (f.inContext s!"validating networks for agent {request.agentId}"), s, []⟩ := by
  unfold run
  rw [refused]
  rfl

variable (accepted : Networks.select request.networks = .ok selected)

include accepted

theorem trace_fixed {ip : Address} (pinned : selected.fixedIp = some ip) :
    (run site request).trace answer s =
      ((Reclaim.run site (.ip ip) request selected).trace answer s).mapFault
        (·.inContext s!"reusing instance at {ip}") := by
  have pinned_run : run site request =
      (Reclaim.run site (.ip ip) request selected).inContext s!"reusing instance at {ip}" := by
    unfold run
    rw [accepted]
    simp only [Program.ofExcept, Program.inContext, Program.mapFault, Program.bind_eq,
      Program.done_bind, pinned]
  rw [pinned_run]
  exact Program.trace_mapFault _

variable (pooled : selected.fixedIp = none)

include pooled

/-- Without a fixed address the pool is searched first. -/
theorem run_of_pooled :
    run site request = ((Workflow.registry (.findEntries (request.filter selected))).inContext
      "querying pool for free instances").bind (choose site request selected) := by
  unfold run
  rw [accepted]
  simp only [Program.ofExcept, Program.inContext, Program.mapFault, Program.bind_eq,
    Program.done_bind, pooled]
  refine congrArg (Program.bind _) (funext fun found => ?_)
  cases found with
  | nil => rfl
  | cons entry rest => rfl

theorem trace_unsearched (failed : (searched answer request selected s).reply = .error f) :
    (run site request).trace answer s =
      ⟨.error (f.inContext "querying pool for free instances"),
        (searched answer request selected s).after, [searched answer request selected s]⟩ := by
  rw [run_of_pooled accepted pooled, trace_search, failed]

/-- After a search that is answered, an allocation goes on with what was found. -/
theorem trace_answered {entries : List Entry}
    (found : (searched answer request selected s).reply = .ok entries) :
    (run site request).trace answer s =
      ((choose site request selected entries).trace answer
        (searched answer request selected s).after).precededBy
          [searched answer request selected s] := by
  rw [run_of_pooled accepted pooled, trace_search, found]

theorem trace_denied (found : (searched answer request selected s).reply = .ok (entry :: rest))
    (refused : (Hit.claim answer request selected entry.cid s).reply = .error f) :
    (run site request).trace answer s =
      ⟨.error ((f.inContext
          s!"updating pool entry {entry.cid} from {State.free} to {State.provisioning}").retryable
            (f.kind = .poolConflict)),
        (Hit.claim answer request selected entry.cid s).after,
        [searched answer request selected s, Hit.claim answer request selected entry.cid s]⟩ := by
  rw [trace_answered accepted pooled found]
  exact congrArg (Trace.precededBy · _) (trace_reuse_denied refused)

theorem trace_reused (found : (searched answer request selected s).reply = .ok (entry :: rest))
    (granted : (Hit.claim answer request selected entry.cid s).reply = .ok ()) :
    (run site request).trace answer s =
      ⟨conclusion entry.cid (Hit.reclaim answer site request selected entry.cid s).result
          (Hit.last answer site request selected entry.cid s).reply,
        (Hit.last answer site request selected entry.cid s).after,
        searched answer request selected s :: Hit.claim answer request selected entry.cid s ::
          ((Hit.reclaim answer site request selected entry.cid s).exchanges ++
            [Hit.last answer site request selected entry.cid s])⟩ := by
  rw [trace_answered accepted pooled found]
  exact congrArg (Trace.precededBy · _) (trace_reuse_granted granted)

theorem trace_unbuilt (missed : (searched answer request selected s).reply = .ok [])
    (failed : (Miss.build answer site request selected s).result = .error f) :
    (run site request).trace answer s =
      ⟨.error f, (Miss.build answer site request selected s).state,
        searched answer request selected s ::
          (Miss.build answer site request selected s).exchanges⟩ := by
  rw [trace_answered accepted pooled missed]
  exact congrArg (Trace.precededBy · _) (Program.trace_bind_error failed)

theorem trace_built (missed : (searched answer request selected s).reply = .ok []) {i : Instance}
    (ok : (Miss.build answer site request selected s).result = .ok i) :
    (run site request).trace answer s =
      ⟨registered i (Miss.last answer site request selected s i).reply,
        (Miss.last answer site request selected s i).after,
        searched answer request selected s ::
          ((Miss.build answer site request selected s).exchanges ++
            [Miss.last answer site request selected s i])⟩ := by
  rw [trace_answered accepted pooled missed]
  have rest : (provision site request selected).trace answer
      (searched answer request selected s).after = _ :=
    (Program.trace_bind_ok ok).trans (congrArg (Trace.precededBy · _) (trace_enter i))
  exact congrArg (Trace.precededBy · _) rest

end Traces

end Allocation

end Courses

/-! ## 4. A small cloud -/

/-- The registry in memory next to whoever answers all else. -/
def overRegistry {τ : Type} (others : Answering (Timed Services) τ) :
    Answering (Timed Services) (RegistryDouble × τ)
  | .other (.call (.registry call)) => fun s => ((s.1.answer call).1, (s.1.answer call).2, s.2)
  | q => fun s => ((others q s.2).1, s.1, (others q s.2).2)

namespace Sample

/-- A cloud in which an order has started at the first look and ended at the second. Nobody cancels,
    and no time passes. -/
def cloud : Answering (Timed Services) Bool
  | .now => fun seen => (0, seen)
  | .cancelled => fun seen => (false, seen)
  | .nap _ => fun seen => (false, seen)
  | .other .mark => fun seen => ("", seen)
  | .other (.call (.cloud (.createInstance _))) => fun seen => (.ok { cid := 42 }, seen)
  | .other (.call (.cloud (.getInstance cid))) => fun seen => (.ok { cid }, seen)
  | .other (.call (.cloud (.activeTransactions _))) => fun seen =>
    (.ok (if seen then [] else [⟨1, none, none, none⟩]), true)
  | .other (.call (.cloud (.lastTransaction _))) => fun seen =>
    (.ok (some ⟨1, some Transaction.serviceSetup, some Transaction.complete, none⟩), seen)
  | .other (.call (.cloud (.reloadOs _ _))) => fun _ => (.ok (), false)
  | .other (.call (.cloud (.pushSettings _ _))) => fun seen => (.ok (), seen)
  | .other (.call _) => fun seen => (.error (.cloud "unreachable"), seen)

/-- A site whose agents are told of a bus without a host. -/
def site : Site := { agent := { mbus := "nats" } }

/-- A request that is reached from outside, so that no host name is recorded. -/
def outer : Request := { request with externalIp := some (.v4 10 0 0 42) }

/-- The networks of the request. -/
def selected : Networks := ⟨"default", ⟨.dynamic, none, none, none, [], [], .none⟩, []⟩

/-- The one free entry of the small pool. -/
def entry : Entry := ⟨42, 2, 2048, none, "vm-42", 0, 0, .free⟩

/-- Under a claim, every step of the reclaim succeeds. -/
theorem reclaims (d : RegistryDouble) : (Reclaim.run site (.cid 42) outer selected).Reaches
    (overRegistry cloud) (d, false) { cid := 42 } (d, true) := by
  have found : (Reclaim.locate (.cid 42)).Reaches (overRegistry cloud) (d, false) { cid := 42 }
      (d, false) :=
    ⟨rfl, rfl⟩
  have busy : (Condition.busy.await site.waits 42).Reaches (overRegistry cloud) (d, false) ()
      (d, true) :=
    reaches_awaitWithin nofun rfl ⟨rfl, rfl⟩
  have idle : (Condition.idle.awaitWithin site.waits site.waits.reloadTimeout 42).Reaches
      (overRegistry cloud) (d, true) () (d, true) :=
    reaches_awaitWithin nofun rfl ⟨rfl, rfl⟩
  have completed : ((Condition.completed [Transaction.serviceSetup]).await site.waits 42).Reaches
      (overRegistry cloud) (d, true) () (d, true) :=
    reaches_awaitWithin (by decide) rfl ⟨rfl, rfl⟩
  have ordered : ((Workflow.cloud (.reloadOs 42 outer.stemcell)).inContext
      s!"reloading OS of instance {(42 : UInt64)} from stemcell {outer.stemcell.id}").Reaches
        (overRegistry cloud) (d, false) () (d, false) :=
    ⟨rfl, rfl⟩
  have reloaded : (Reclaim.reload site.waits 42 outer.stemcell).Reaches (overRegistry cloud) (d, false)
      () (d, true) :=
    ordered.bind (busy.inContext.bind idle.inContext)
  have settled : (Agent.settle site.waits 42 outer.shape.ephemeralDiskSizeGb).Reaches
      (overRegistry cloud) (d, true) () (d, true) :=
    completed.inContext
  exact found.bind (reloaded.bind (settled.bind ⟨rfl, rfl⟩))

/-- And so does every step of provisioning. -/
theorem builds (d : RegistryDouble) : (Provision.run site outer selected).Reaches
    (overRegistry cloud) (d, true) { cid := 42 } (d, true) := by
  have completed : ((Condition.completed [Transaction.serviceSetup]).await site.waits 42).Reaches
      (overRegistry cloud) (d, true) () (d, true) :=
    reaches_awaitWithin (by decide) rfl ⟨rfl, rfl⟩
  have settled : (Agent.settle site.waits 42 outer.shape.ephemeralDiskSizeGb).Reaches
      (overRegistry cloud) (d, true) () (d, true) :=
    completed.inContext
  have up : (Provision.bringUp site outer selected 42).Reaches (overRegistry cloud) (d, true)
      { cid := 42 } (d, true) :=
    settled.mapFault.bind ⟨rfl, rfl⟩
  have ordered : ∀ name, (Provision.order outer selected name).Reaches (overRegistry cloud) (d, true)
      { cid := 42 } (d, true) :=
    fun name => ⟨rfl, rfl⟩
  exact Program.reaches_ask ((ordered _).bind up)

end Sample

end InstancePool
