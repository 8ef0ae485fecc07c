import InstancePool.Proofs.Courses

/-!
# The two protocols of the pool

A request that insists on no address either takes over an entry of the pool or has an instance built,
and the search of the pool decides which. This file says for both what is asked of the registry and of
the cloud, in which order, and when the request gets its instance; the other parties may answer as they
like, and fail or cancel at any point.

* `HitProtocol`, `pool_hit_protocol`: an entry is claimed, the instance is reclaimed under the claim,
  and one more write ends the claim;
* `MissProtocol`, `pool_miss_protocol`: one instance is ordered, and it is entered into the pool as it
  was reported once it was settled, if every step was completed.
-/

namespace InstancePool

open Pool (Entry State)
open Simulation (RegistryDouble)
open Allocation

/-! ## 1. An entry is found -/

section Hit

variable {σ : Type} {answer : Answering (Timed Services) σ} {site : Site} {request : Request}
  {selected : Networks} {cid : UInt64} {s : σ}

section Protocol

variable (answer site request selected cid s)

/-- What an allocation with the trace `t` does with the entry that it has found. -/
structure HitProtocol (t : Trace (Timed Services) σ Instance) : Prop where
  /-- A claim that is not granted is the end of it. -/
  denied : ∀ f, (Hit.claim answer request selected cid s).reply = .error f →
    t.exchanges = [searched answer request selected s, Hit.claim answer request selected cid s] ∧
    registryCalls t.exchanges =
      [.findEntries (request.filter selected), .updateState cid (some .free) .provisioning] ∧
    cloudCalls t.exchanges = []
  /-- Under the claim the instance is reclaimed, and one write ends the claim: the entry is in use if
      the reclaim ended well, and free again if not. -/
  granted : (Hit.claim answer request selected cid s).reply = .ok () →
    t.exchanges = searched answer request selected s :: Hit.claim answer request selected cid s ::
      ((Hit.reclaim answer site request selected cid s).exchanges ++
        [Hit.last answer site request selected cid s]) ∧
    registryCalls t.exchanges =
      [.findEntries (request.filter selected), .updateState cid (some .free) .provisioning,
        .updateState cid (some .provisioning)
          (stateFor (Hit.reclaim answer site request selected cid s).result)] ∧
    cloudCalls t.exchanges = cloudCalls (Hit.reclaim answer site request selected cid s).exchanges
  /-- The request gets its instance if and only if all of it succeeded. -/
  answered : ∀ i, t.result = .ok i ↔
    (Hit.claim answer request selected cid s).reply = .ok () ∧
      (Hit.reclaim answer site request selected cid s).result = .ok i ∧
      (Hit.last answer site request selected cid s).reply = .ok ()

end Protocol

theorem conclusion_eq_ok {r : Except Fault Instance} {w : Except Fault Unit} {i : Instance} :
    conclusion cid r w = .ok i ↔ r = .ok i ∧ w = .ok () := by
  match r, w with
  | .ok j, .ok () => exact ⟨fun h => ⟨h, rfl⟩, fun h => h.1⟩
  | .ok j, .error f => exact ⟨fun h => (nomatch h), fun h => (nomatch h.2)⟩
  | .error f, .ok () => exact ⟨fun h => (nomatch h), fun h => (nomatch h.1)⟩
  | .error f, .error g => exact ⟨fun h => (nomatch h), fun h => (nomatch h.1)⟩

/-- The reclaim asks nothing of the registry. -/
theorem registryCalls_reclaim :
    registryCalls (Hit.reclaim answer site request selected cid s).exchanges = [] :=
  registryCalls_eq_nil fun e he => (reclaim_asks (.cid cid) e he).not_registry

/-- **The protocol of an entry that is found.** -/
theorem pool_hit_protocol {entry : Entry} {rest : List Entry}
    (accepted : Networks.select request.networks = .ok selected) (pooled : selected.fixedIp = none)
    (found : (searched answer request selected s).reply = .ok (entry :: rest)) :
    HitProtocol answer site request selected entry.cid s
      ((Allocation.run site request).trace answer s) := by
  cases claim : (Hit.claim answer request selected entry.cid s).reply with
  | error f =>
    rw [trace_denied accepted pooled found claim]
    refine ⟨fun _ _ => ⟨rfl, rfl, rfl⟩, fun granted => ?_, fun i => ⟨fun h => (nomatch h), ?_⟩⟩
    · cases claim.symm.trans granted
    · rintro ⟨granted, -⟩
      cases claim.symm.trans granted
  | ok _ =>
    rw [trace_reused accepted pooled found claim]
    refine ⟨fun f refused => ?_, fun _ => ⟨rfl, ?_, ?_⟩, fun i => ?_⟩
    · cases claim.symm.trans refused
    · have last : registryCalls ((Hit.reclaim answer site request selected entry.cid s).exchanges ++
          [Hit.last answer site request selected entry.cid s]) =
          [.updateState entry.cid (some .provisioning)
            (stateFor (Hit.reclaim answer site request selected entry.cid s).result)] := by
        rw [registryCalls_append, registryCalls_reclaim]
        rfl
      exact congrArg ([Registry.Call.findEntries _, .updateState _ _ _] ++ ·) last
    · refine cloudCalls_append.trans ?_
      exact List.append_nil _
    · refine conclusion_eq_ok.trans ⟨fun ended => ⟨claim, ended⟩, fun ended => ended.2⟩

end Hit

namespace Sample

/-- A request that finds the one free entry. -/
def takeover : Trace (Timed Services) (RegistryDouble × Bool) Instance :=
  (Allocation.run site outer).trace (overRegistry cloud) (registry, false)

end Sample

theorem pool_hit_protocol_in_takeover :
    Networks.select Sample.outer.networks = .ok Sample.selected ∧ Sample.selected.fixedIp = none ∧
      (searched (overRegistry Sample.cloud) Sample.outer Sample.selected (Sample.registry, false)).reply
        = .ok [Sample.entry] ∧
      HitProtocol (overRegistry Sample.cloud) Sample.site Sample.outer Sample.selected 42
        (Sample.registry, false) Sample.takeover ∧
      Sample.takeover.result = .ok { cid := 42 } := by
  have found : (searched (overRegistry Sample.cloud) Sample.outer Sample.selected
      (Sample.registry, false)).reply = .ok [Sample.entry] := rfl
  have protocol : HitProtocol (overRegistry Sample.cloud) Sample.site Sample.outer Sample.selected 42
      (Sample.registry, false) Sample.takeover :=
    pool_hit_protocol rfl rfl found
  refine ⟨rfl, rfl, found, protocol, (protocol.answered _).mpr ⟨rfl, (Sample.reclaims _).value, ?_⟩⟩
  obtain ⟨es, reclaimed⟩ : ∃ es, Hit.reclaim (overRegistry Sample.cloud) Sample.site Sample.outer
      Sample.selected 42 (Sample.registry, false) = ⟨_, _, es⟩ :=
    (Sample.reclaims _).trace_eq
  unfold Hit.last
  rw [reclaimed]
  rfl

/-! ## 2. No entry is found -/

section Miss

variable {σ : Type} {answer : Answering (Timed Services) σ} {site : Site} {request : Request}
  {selected : Networks} {s : σ}

section Protocol

variable (answer site request selected s)

/-- The steps of provisioning are completed after the search, and `i` is the instance as it was
    reported once it was settled. -/
def Miss.Completed (i : Instance) : Prop :=
  Provision.Completed answer site request selected (searched answer request selected s).after i

/-- The mark for the name of the instance. -/
def Miss.mark : Exchange (Timed Services) σ :=
  Provision.marked answer (searched answer request selected s).after

/-- The order of the instance. -/
def Miss.order : Exchange (Timed Services) σ :=
  Provision.ordered answer request selected (searched answer request selected s).after

/-- The wait until the instance of a receipt is settled. -/
def Miss.settling (receipt : Instance) : Trace (Timed Services) σ Unit :=
  Provision.settling answer site request receipt.cid (Miss.order answer request selected s).after

/-- The report on the instance of a receipt once it is settled. -/
def Miss.report (receipt : Instance) : Exchange (Timed Services) σ :=
  Provision.refetched answer site request receipt.cid (Miss.order answer request selected s).after

/-- What follows the building: the entry of the instance, if one was built. -/
def Miss.ending : List (Exchange (Timed Services) σ) :=
  ((Miss.build answer site request selected s).result.toOption.map
    (Miss.last answer site request selected s)).toList

/-- What an allocation with the trace `t` does where no entry was found. -/
structure MissProtocol (t : Trace (Timed Services) σ Instance) : Prop where
  /-- One instance is ordered, nothing is reinstalled, and no state is changed. -/
  orders : (operations t.exchanges).count .createInstance = 1 ∧
    .reloadOs ∉ operations t.exchanges ∧ .updateState ∉ operations t.exchanges
  /-- Once every step is completed the instance is entered as the report has it, and that is all. -/
  entered : ∀ i, Miss.Completed answer site request selected s i →
    t.exchanges = searched answer request selected s ::
      ((Miss.build answer site request selected s).exchanges ++
        [Miss.last answer site request selected s i]) ∧
    registryCalls t.exchanges =
      [.findEntries (request.filter selected), .addEntry (.ofInstance i .using)]
  /-- After a step that fails nothing is entered. -/
  abandoned : (∀ i, ¬ Miss.Completed answer site request selected s i) →
    registryCalls t.exchanges = [.findEntries (request.filter selected)]
  /-- The report is asked for as soon as the instance is settled. -/
  reported : ∀ receipt, (Miss.order answer request selected s).reply = .ok receipt →
    (Miss.settling answer site request selected s receipt).result = .ok () → ∃ later,
    t.exchanges = searched answer request selected s :: Miss.mark answer request selected s ::
      Miss.order answer request selected s ::
        ((Miss.settling answer site request selected s receipt).exchanges ++
          Miss.report answer site request selected s receipt :: later)
  /-- The request gets the instance that was entered, if the entry was accepted. -/
  answered : ∀ i, t.result = .ok i ↔ Miss.Completed answer site request selected s i ∧
    (Miss.last answer site request selected s i).reply = .ok ()

end Protocol

/-- An instance is built if and only if every step is completed. -/
theorem build_eq_ok {i : Instance} : (Miss.build answer site request selected s).result = .ok i ↔
    Miss.Completed answer site request selected s i :=
  Provision.run_eq_ok

/-- The building asks for one order, and apart from it only tends the instance. -/
theorem build_exchanges (answer : Answering (Timed Services) σ) (site : Site) (request : Request)
    (selected : Networks) (s : σ) : ∃ later,
    (Miss.build answer site request selected s).exchanges =
      Miss.mark answer request selected s :: Miss.order answer request selected s :: later ∧
    ∀ e ∈ later, Tended e.query :=
  Provision.run_exchanges

/-- The instance is reported on as soon as it is settled. -/
theorem build_reports {receipt : Instance}
    (created : (Miss.order answer request selected s).reply = .ok receipt)
    (settled : (Miss.settling answer site request selected s receipt).result = .ok ()) : ∃ later,
    (Miss.build answer site request selected s).exchanges =
      Miss.mark answer request selected s :: Miss.order answer request selected s ::
        ((Miss.settling answer site request selected s receipt).exchanges ++
          Miss.report answer site request selected s receipt :: later) :=
  Provision.run_refetches created settled

/-- The building asks nothing of the registry. -/
theorem registryCalls_build :
    registryCalls (Miss.build answer site request selected s).exchanges = [] :=
  registryCalls_eq_nil Provision.run_silent

/-- What follows asks for one thing at most. -/
theorem ending_cases :
    (∃ i, (Miss.build answer site request selected s).result = .ok i ∧
      Miss.ending answer site request selected s = [Miss.last answer site request selected s i]) ∨
    (∃ f, (Miss.build answer site request selected s).result = .error f ∧
      Miss.ending answer site request selected s = []) := by
  unfold Miss.ending
  cases ended : (Miss.build answer site request selected s).result with
  | ok i => exact .inl ⟨i, rfl, rfl⟩
  | error f => exact .inr ⟨f, rfl, rfl⟩

/-- An order apart, an allocation that found no entry neither orders nor reinstalls an instance, and
    changes no state. -/
theorem operations_miss : ∃ later,
    operations ((Miss.build answer site request selected s).exchanges ++
      Miss.ending answer site request selected s) = .createInstance :: later ∧
    ∀ op ∈ later, op ≠ .createInstance ∧ op ≠ .reloadOs ∧ op ≠ .updateState := by
  obtain ⟨later, built, tended⟩ := build_exchanges answer site request selected s
  refine ⟨operations later ++ operations (Miss.ending answer site request selected s), ?_, ?_⟩
  · rw [operations_append, built]
    rfl
  · intro op hop
    rcases List.mem_append.mp hop with hop | hop
    · obtain ⟨e, he, c, asks, rfl⟩ := mem_operations.mp hop
      exact (tended e he).operation asks
    · rcases ending_cases with ⟨i, -, ends⟩ | ⟨f, -, ends⟩
      · rw [ends] at hop
        obtain rfl : op = .addEntry := List.mem_singleton.mp hop
        exact ⟨nofun, nofun, nofun⟩
      · rw [ends] at hop
        cases hop

theorem orders_once {later : List Operation}
    (tended : ∀ op ∈ later, op ≠ .createInstance ∧ op ≠ .reloadOs ∧ op ≠ .updateState) :
    let ops := Operation.findEntries :: .createInstance :: later
    ops.count .createInstance = 1 ∧ .reloadOs ∉ ops ∧ .updateState ∉ ops := by
  have single : later.count .createInstance = 0 :=
    List.count_eq_zero.mpr fun h => (tended _ h).1 rfl
  have kept : Operation.reloadOs ∉ later := fun h => (tended _ h).2.1 rfl
  have unchanged : Operation.updateState ∉ later := fun h => (tended _ h).2.2 rfl
  refine ⟨?_, ?_, ?_⟩
  · rw [List.count_cons, List.count_cons, single]
    rfl
  · simpa using kept
  · simpa using unchanged

theorem registered_eq_ok {i j : Instance} {w : Except Fault Unit} :
    registered i w = .ok j ↔ i = j ∧ w = .ok () := by
  cases w with
  | ok _ => exact ⟨fun h => ⟨Except.ok.inj h, rfl⟩, fun h => congrArg Except.ok h.1⟩
  | error f => exact ⟨fun h => (nomatch h), fun h => (nomatch h.2)⟩

section Run

variable (accepted : Networks.select request.networks = .ok selected)
  (pooled : selected.fixedIp = none) (missed : (searched answer request selected s).reply = .ok [])

include accepted pooled missed

theorem miss_exchanges : ((Allocation.run site request).trace answer s).exchanges =
    searched answer request selected s :: ((Miss.build answer site request selected s).exchanges ++
      Miss.ending answer site request selected s) := by
  rcases ending_cases with ⟨i, built, ends⟩ | ⟨f, failed, ends⟩
  · rw [trace_built accepted pooled missed built, ends]
  · rw [trace_unbuilt accepted pooled missed failed, ends, List.append_nil]

theorem miss_eq_ok {i : Instance} : ((Allocation.run site request).trace answer s).result = .ok i ↔
    Miss.Completed answer site request selected s i ∧
      (Miss.last answer site request selected s i).reply = .ok () := by
  rw [← build_eq_ok]
  cases ended : (Miss.build answer site request selected s).result with
  | error f =>
    rw [trace_unbuilt accepted pooled missed ended]
    exact ⟨fun h => (nomatch h), fun h => (nomatch h.1)⟩
  | ok j =>
    rw [trace_built accepted pooled missed ended]
    refine registered_eq_ok.trans ⟨?_, ?_⟩
    · rintro ⟨rfl, entered⟩
      exact ⟨rfl, entered⟩
    · rintro ⟨same, entered⟩
      cases same
      exact ⟨rfl, entered⟩

/-- What an allocation that found no entry asks for, in order. -/
theorem miss_operations : ∃ later, operations ((Allocation.run site request).trace answer s).exchanges =
    .findEntries :: .createInstance :: later ∧
      ∀ op ∈ later, op ≠ .createInstance ∧ op ≠ .reloadOs ∧ op ≠ .updateState := by
  obtain ⟨later, ops, tended⟩ : ∃ later, operations
    ((Miss.build answer site request selected s).exchanges ++ _) = _ :: later ∧ _ := operations_miss
  rw [miss_exchanges accepted pooled missed]
  exact ⟨later, congrArg (Operation.findEntries :: ·) ops, tended⟩

theorem miss_registryCalls : registryCalls ((Allocation.run site request).trace answer s).exchanges =
    .findEntries (request.filter selected) ::
      registryCalls (Miss.ending answer site request selected s) := by
  rw [miss_exchanges accepted pooled missed]
  have rest : registryCalls ((Miss.build answer site request selected s).exchanges ++
      Miss.ending answer site request selected s) =
        registryCalls (Miss.ending answer site request selected s) := by
    rw [registryCalls_append, registryCalls_build, List.nil_append]
  exact congrArg (Registry.Call.findEntries (request.filter selected) :: ·) rest

end Run

/-- **The protocol where no entry is found.** -/
theorem pool_miss_protocol
    (accepted : Networks.select request.networks = .ok selected) (pooled : selected.fixedIp = none)
    (missed : (searched answer request selected s).reply = .ok []) :
    MissProtocol answer site request selected s ((Allocation.run site request).trace answer s) := by
  have exchanges : ((Allocation.run site request).trace answer s).exchanges = _ :=
    miss_exchanges accepted pooled missed
  have calls : registryCalls ((Allocation.run site request).trace answer s).exchanges = _ :=
    miss_registryCalls accepted pooled missed
  refine ⟨?_, fun i done => ?_, fun incomplete => ?_, fun receipt created settled => ?_,
    fun i => miss_eq_ok accepted pooled missed⟩
  · obtain ⟨later, all, tended⟩ : ∃ later, operations ((Allocation.run site request).trace answer s).exchanges =
        _ :: _ :: later ∧ _ := miss_operations accepted pooled missed
    rw [all]
    exact orders_once tended
  · have built := build_eq_ok.mpr done
    have ends : Miss.ending answer site request selected s =
        [Miss.last answer site request selected s i] := by
      unfold Miss.ending
      rw [built]
      rfl
    rw [calls, exchanges, ends]
    exact ⟨rfl, rfl⟩
  · rcases ending_cases with ⟨i, built, -⟩ | ⟨f, -, ends⟩
    · exact absurd (build_eq_ok.mp built) (incomplete i)
    · rw [calls, ends]
      rfl
  · obtain ⟨later, reports⟩ := build_reports created settled
    refine ⟨later ++ Miss.ending answer site request selected s, ?_⟩
    rw [exchanges, reports]
    simp only [List.cons_append, List.append_assoc]

end Miss

namespace Sample

/-- A request that finds no entry. -/
def novelty : Trace (Timed Services) (RegistryDouble × Bool) Instance :=
  (Allocation.run site outer).trace (overRegistry cloud) ({}, true)

end Sample

theorem pool_miss_protocol_in_novelty :
    Networks.select Sample.outer.networks = .ok Sample.selected ∧ Sample.selected.fixedIp = none ∧
      (searched (overRegistry Sample.cloud) Sample.outer Sample.selected ({}, true)).reply = .ok [] ∧
      MissProtocol (overRegistry Sample.cloud) Sample.site Sample.outer Sample.selected ({}, true)
        Sample.novelty ∧
      Sample.novelty.result = .ok { cid := 42 } := by
  have protocol : MissProtocol (overRegistry Sample.cloud) Sample.site Sample.outer Sample.selected
      ({}, true) Sample.novelty :=
    pool_miss_protocol rfl rfl rfl
  have built : (Miss.build (overRegistry Sample.cloud) Sample.site Sample.outer Sample.selected
      ({}, true)).result = .ok { cid := 42 } :=
    (Sample.builds _).value
  refine ⟨rfl, rfl, rfl, protocol, (protocol.answered _).mpr ⟨Provision.run_eq_ok.mp built, ?_⟩⟩
  obtain ⟨es, ran⟩ : ∃ es, Miss.build (overRegistry Sample.cloud) Sample.site Sample.outer
      Sample.selected ({}, true) = ⟨_, _, es⟩ :=
    (Sample.builds _).trace_eq
  unfold Miss.last
  rw [ran]
  rfl

end InstancePool
