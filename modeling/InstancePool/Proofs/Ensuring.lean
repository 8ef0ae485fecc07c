import InstancePool.Proofs.Calls
import InstancePool.Proofs.Serving

/-!
# Calls in a world without faults

Where nothing is scripted to fail and nobody cancels, every call does what it is meant to. What a
workflow comes to there is put together from what its parts come to, whatever numbers are given out on
the way.

* `Program.Ensures`: a program ends well from all states of a kind, and in what kind of state;
* `World.Ready`: a world in which nothing fails;
* `Stands`: how things stand with one instance and with the pool;
* `cloud_ensures`, `registry_ensures`: a call, by what it does to the double of its service;
* `await_ensures`: a wait whose condition is met at once, which takes no time.
-/

namespace InstancePool

open Program
open Pool (Entry State)
open Simulation (World CloudDouble RegistryDouble Machine)

/-! ## 1. Programs that end well -/

namespace Program

variable {I : Interface} {σ α β : Type} {answer : Answering I σ} {p : Program I α}
  {before : σ → Prop} {after : α → σ → Prop}

/-- From every state with `before` the program ends well, with a value and in a state with `after`. -/
def Ensures (answer : Answering I σ) (before : σ → Prop) (p : Program I α) (after : α → σ → Prop) :
    Prop :=
  ∀ s, before s → ∃ a s', p.Reaches answer s a s' ∧ after a s'

theorem ensures_done {a : α} (h : ∀ s, before s → after a s) :
    Ensures answer before (done a : Program I α) after :=
  fun s hs => ⟨a, s, ⟨rfl, rfl⟩, h s hs⟩

theorem ensures_ofExcept {r : Except Fault α} {a : α} (ok : r = .ok a) :
    Ensures answer before (ofExcept r : Program I α) fun a' s => a' = a ∧ before s := by
  subst ok
  exact ensures_done fun s hs => ⟨rfl, hs⟩

theorem ensures_ask {q : I.Query} {k : I.Reply q → Program I α}
    (h : ∀ s, before s → ∃ a s', (k (answer q s).1).Reaches answer (answer q s).2 a s' ∧ after a s') :
    Ensures answer before (ask q k) after := by
  intro s hs
  obtain ⟨a, s', reaches, holds⟩ := h s hs
  exact ⟨a, s', reaches_ask reaches, holds⟩

theorem Ensures.mono {before' : σ → Prop} {after' : α → σ → Prop} (h : Ensures answer before p after)
    (stronger : ∀ s, before' s → before s) (weaker : ∀ a s, after a s → after' a s) :
    Ensures answer before' p after' := by
  intro s hs
  obtain ⟨a, s', reaches, holds⟩ := h s (stronger s hs)
  exact ⟨a, s', reaches, weaker a s' holds⟩

/-- What a program that is run for its effect ends with does not matter. -/
theorem Ensures.effect {good : α → Prop} {left : σ → Prop}
    (h : Ensures answer before p fun a s => good a ∧ left s) : Ensures answer before p fun _ => left :=
  h.mono (fun _ => id) fun _ _ => And.right

/-- One program after another, which goes on where the first one ended. -/
theorem Ensures.bind {next : α → Program I β} {after' : β → σ → Prop}
    (h : Ensures answer before p after) (rest : ∀ a, Ensures answer (after a) (next a) after') :
    Ensures answer before (p.bind next) after' := by
  intro s hs
  obtain ⟨a, s', first, holds⟩ := h s hs
  obtain ⟨b, s'', second, holds'⟩ := rest a s' holds
  exact ⟨b, s'', first.bind second, holds'⟩

theorem Ensures.mapFault {change : Fault → Fault} (h : Ensures answer before p after) :
    Ensures answer before (p.mapFault change) after := by
  intro s hs
  obtain ⟨a, s', reaches, holds⟩ := h s hs
  exact ⟨a, s', reaches.mapFault, holds⟩

theorem Ensures.inContext {frame : String} (h : Ensures answer before p after) :
    Ensures answer before (p.inContext frame) after :=
  h.mapFault

theorem Ensures.attempt (h : Ensures answer before p after) :
    Ensures answer before p.attempt fun r s => ∃ a, r = .ok a ∧ after a s := by
  intro s hs
  obtain ⟨a, s', reaches, holds⟩ := h s hs
  exact ⟨.ok a, s', reaches.attempt, a, rfl, holds⟩

/-- What is known of the state may be used for the program. -/
theorem ensures_of {known : Prop} (h : known → Ensures answer before p after) :
    Ensures answer (fun s => known ∧ before s) p after :=
  fun s hs => h hs.1 s hs.2

end Program

/-! ## 2. Worlds in which nothing fails -/

namespace Simulation

/-- The double of the cloud does all that it is asked for, and numbers its orders by itself. -/
structure CloudDouble.Obliging (d : CloudDouble) : Prop where
  failures : ∀ op, d.failures op = none
  orderId : d.orderId = none
  orderFault : d.orderFault = none
  upgrades : d.upgradeAddsDevice = true

/-- The double of the registry does all that it is asked for. -/
structure RegistryDouble.Obliging (d : RegistryDouble) : Prop where
  failures : ∀ op, d.failures op = none
  updates : ∀ cid next, d.updateFailures cid next = none

/-- Nothing is scripted, nobody cancels, and the services are obliging. -/
structure World.Ready (w : World) : Prop where
  script : w.script = []
  patient : w.clock.cancelsAt = none
  cloud : w.cloud.Obliging
  registry : w.registry.Obliging

namespace World

variable {w : World}

theorem Ready.not_cancelled (h : w.Ready) : w.clock.cancelled = false := by
  unfold Clock.cancelled
  rw [h.patient]
  rfl

/-- Where nothing is scripted a call is journaled and served. -/
theorem Ready.answerCall (h : w.Ready) (wiring : Wiring) (call : Call) :
    World.answerCall wiring call w =
      World.serve wiring call { w with journal := (w.clock.time, call) :: w.journal } := by
  refine answerCall_unscripted wiring ?_
  rw [h.script]
  rfl

/-- The cloud with one more call in its journal. -/
def asked (w : World) (call : Cloud.Call) : CloudDouble :=
  { w.cloud with journal := call :: w.cloud.journal }

/-- The registry with one more call in its journal. -/
def consulted (w : World) (call : Registry.Call) : RegistryDouble :=
  { w.registry with journal := call :: w.registry.journal }

theorem Ready.answer_cloud (h : w.Ready) (call : Cloud.Call) :
    World.answer {} call.query w = (((w.asked call).perform call).1,
      { w with
        journal := (w.clock.time, .cloud call) :: w.journal
        cloud := ((w.asked call).perform call).2 }) := by
  have performed : w.cloud.answer call = (w.asked call).perform call := by
    unfold CloudDouble.answer
    dsimp only
    rw [h.cloud.failures]
    rfl
  refine (h.answerCall {} (.cloud call)).trans ?_
  show ((w.cloud.answer call).1, _) = _
  rw [← performed]
  rfl

theorem Ready.answer_registry (h : w.Ready) (call : Registry.Call) :
    World.answer {} call.query w = (((w.consulted call).perform call).1,
      { w with
        journal := (w.clock.time, .registry call) :: w.journal
        registry := ((w.consulted call).perform call).2 }) := by
  have performed : w.registry.answer call = (w.consulted call).perform call := by
    unfold RegistryDouble.answer
    dsimp only
    rw [h.registry.failures]
    rfl
  refine (h.answerCall {} (.registry call)).trans ?_
  show ((w.registry.answer call).1, _) = _
  rw [← performed]
  rfl

end World

end Simulation

/-! ## 3. How things stand -/

/-- How things stand with one instance and with the pool, in a world that began as `w₀`. No time has
    passed since, and all other instances are as they were. -/
structure Stands (w₀ : World) (cid next : UInt64) (entries : List Entry)
    (phase : Option Machine → Prop) (w : World) : Prop where
  ready : w.Ready
  clock : w.clock = w₀.clock
  nextCid : w.cloud.nextCid = next
  machine : phase (w.cloud.machines.get? cid)
  others : ∀ other, other ≠ cid → w.cloud.machines.get? other = w₀.cloud.machines.get? other
  entries : w.registry.entries = entries

/-- The instance exists, and its machine is in a phase. -/
def Is (phase : Machine → Prop) (found : Option Machine) : Prop := ∃ m, found = some m ∧ phase m

/-- What a call does to the cloud: one machine is in another phase, and instances that are ordered from
    now on are numbered from `next` on. -/
structure Moves (cid next : UInt64) (phase : Option Machine → Prop) (d d' : CloudDouble) : Prop where
  obliging : d.Obliging → d'.Obliging
  nextCid : d'.nextCid = next
  machine : phase (d'.machines.get? cid)
  others : ∀ other, other ≠ cid → d'.machines.get? other = d.machines.get? other

section Calls

variable {w₀ : World} {cid next : UInt64} {entries : List Entry} {phase : Option Machine → Prop}

/-- Only the phase of the instance matters to a call. -/
theorem Stands.mono {phase' : Option Machine → Prop} {w : World}
    (h : Stands w₀ cid next entries phase w) (weaker : ∀ o, phase o → phase' o) :
    Stands w₀ cid next entries phase' w :=
  { h with machine := weaker _ h.machine }

/-- A call to the cloud, by what it does to the double. -/
theorem cloud_ensures {call : Cloud.Call} {next' : UInt64} {phase' : Option Machine → Prop}
    {good : call.operation.Result → Prop}
    (performs : ∀ d : CloudDouble, d.Obliging → d.nextCid = next → phase (d.machines.get? cid) →
      ∃ a, (d.perform call).1 = .ok a ∧ good a ∧ Moves cid next' phase' d (d.perform call).2) :
    Ensures (World.answer {}) (Stands w₀ cid next entries phase) (Workflow.cloud call)
      fun a w => good a ∧ Stands w₀ cid next' entries phase' w := by
  refine ensures_ask fun w h => ?_
  obtain ⟨a, answered, goes, moves⟩ := performs (w.asked call) { h.ready.cloud with } h.nextCid h.machine
  have reply := h.ready.answer_cloud call
  rw [answered] at reply
  rw [reply]
  refine ⟨a, _, ⟨rfl, rfl⟩, goes, ?_⟩
  constructor
  case ready => exact { h.ready with cloud := moves.obliging { h.ready.cloud with } }
  case clock => exact h.clock
  case nextCid => exact moves.nextCid
  case machine => exact moves.machine
  case others => exact fun other ne => (moves.others other ne).trans (h.others other ne)
  case entries => exact h.entries

/-- A call to the registry, by what it does to the double. -/
theorem registry_ensures {call : Registry.Call} {entries' : List Entry}
    {good : call.operation.Result → Prop}
    (performs : ∀ d : RegistryDouble, d.Obliging → d.entries = entries →
      ∃ a, (d.perform call).1 = .ok a ∧ good a ∧ (d.perform call).2.Obliging ∧
        (d.perform call).2.entries = entries') :
    Ensures (World.answer {}) (Stands w₀ cid next entries phase) (Workflow.registry call)
      fun a w => good a ∧ Stands w₀ cid next entries' phase w := by
  refine ensures_ask fun w h => ?_
  obtain ⟨a, answered, goes, obliging, changed⟩ :=
    performs (w.consulted call) { h.ready.registry with } h.entries
  have reply := h.ready.answer_registry call
  rw [answered] at reply
  rw [reply]
  refine ⟨a, _, ⟨rfl, rfl⟩, goes, ?_⟩
  exact { h with ready := { h.ready with registry := obliging }, entries := changed }

/-- A host name is recorded beside all this. -/
theorem recordAlias_ensures (hostname : String) (ip : Address) :
    Ensures (World.answer {}) (Stands w₀ cid next entries phase) (Workflow.recordAlias hostname ip)
      fun _ => Stands w₀ cid next entries phase := by
  refine ensures_ask fun w h => ?_
  have reply : World.answer {} (.other (.call (.hostAlias hostname ip))) w = _ :=
    h.ready.answerCall {} (.hostAlias hostname ip)
  rw [reply]
  exact ⟨(), _, ⟨rfl, rfl⟩, { h with ready := { h.ready with } }⟩

theorem mark_ensures :
    Ensures (World.answer {}) (Stands w₀ cid next entries phase) Workflow.mark
      fun _ => Stands w₀ cid next entries phase :=
  fun _ h => ⟨_, _, ⟨rfl, rfl⟩, { h with ready := { h.ready with } }⟩

/-- **A wait whose condition is met at once takes no time**, however short it may be. -/
theorem await_ensures {condition : Condition} {phase' : Option Machine → Prop} (waits : Waits)
    (timeout : Duration) (grouped : condition ≠ .completed [])
    (met : Ensures (World.answer {}) (Stands w₀ cid next entries phase) (condition.probe cid)
      fun yes w => yes = true ∧ Stands w₀ cid next entries phase' w) :
    Ensures (World.answer {}) (Stands w₀ cid next entries phase) (condition.awaitWithin waits timeout cid)
      fun _ => Stands w₀ cid next entries phase' := by
  intro w h
  obtain ⟨yes, w', probed, rfl, stands⟩ := met w h
  exact ⟨(), w', reaches_awaitWithin grouped h.ready.not_cancelled probed, stands⟩

end Calls

end InstancePool
