import InstancePool.Proofs.Building
import InstancePool.Proofs.Ensuring
import InstancePool.Proofs.Rendering

/-!
# An instance through its transactions

In a world without faults a reload or an upgrade is one transaction, which is seen at the first look and
gone at the second. So each wait of a workflow is met by its first or its second poll, and no pause is
ever made.

* `Instance.body`: what no transaction changes;
* `Quiet`, `Busy`: a machine between two transactions, and in the midst of one; `observe_quiet`,
  `observe_unseen`, `observe_seen`: what a look at its transactions makes of it;
* `settle_ensures`, `reload_ensures`, `configure_ensures` and the like: what the parts of a workflow come
  to, and `renew_ensures`, `build_ensures`: what the workflows do.
-/

namespace InstancePool

open Program
open Pool (Entry State)
open Simulation (World CloudDouble Machine)
open Simulation.CloudDouble (ended pending observe)

/-! ## 1. Phases -/

/-- The instance without what transactions change. -/
def Instance.body (i : Instance) : Instance := { i with lastTransaction := none, blockDevices := [] }

/-- The machine of an instance, in whatever phase. -/
def Runs (body : Instance) (m : Machine) : Prop := m.report.body = body

/-- Nothing is under way. The last transaction was of the group. -/
structure Quiet (body : Instance) (group : String) (disks : Nat) (m : Machine) : Prop where
  runs : Runs body m
  queued : m.queued = none
  last : ∃ id, m.report.lastTransaction = some (ended id group)
  disks : m.report.blockDevices.length = disks

/-- A transaction of the group is under way, and was seen or not. -/
structure Busy (body : Instance) (group : String) (seen : Bool) (disks : Nat) (m : Machine) : Prop where
  runs : Runs body m
  queued : ∃ id, m.queued = some (pending id group)
  seen : m.observed = seen
  disks : m.report.blockDevices.length = disks

/-- An upgrade is under way, if one was ordered. -/
def Upgrading (body : Instance) (group : String) (disks : Nat) : Bool → Machine → Prop
  | true => Busy body Transaction.instanceUpgrade false disks
  | false => Quiet body group disks

/-- How many disks a transaction of a group adds. -/
def disksOf (group : String) : Nat := if group = Transaction.instanceUpgrade then 1 else 0

section Phases

variable {body : Instance} {group : String} {disks : Nat} {m : Machine}

theorem observe_quiet (h : Quiet body group disks m) : observe true m = ([], m) :=
  CloudDouble.observe_idle true h.queued

/-- A transaction is there at the first look. -/
theorem observe_unseen (h : Busy body group false disks m) :
    (observe true m).1 ≠ [] ∧ Busy body group true disks (observe true m).2 := by
  obtain ⟨id, queued⟩ := h.queued
  rw [CloudDouble.observe_first true queued h.seen]
  exact ⟨List.cons_ne_nil _ _, h.runs, ⟨id, queued⟩, rfl, h.disks⟩

/-- At the second look it is gone, and its effect is there. -/
theorem observe_seen (h : Busy body group true disks m) :
    (observe true m).1 = [] ∧ Quiet body group (disks + disksOf group) (observe true m).2 := by
  obtain ⟨id, queued⟩ := h.queued
  have upgraded : ((pending id group).inGroup Transaction.instanceUpgrade && true) = true ↔
      group = Transaction.instanceUpgrade := by
    simp [Transaction.inGroup, pending]
  rw [CloudDouble.observe_second true queued h.seen]
  refine ⟨rfl, h.runs, rfl, ⟨id, rfl⟩, ?_⟩
  dsimp only
  unfold disksOf
  by_cases upgrade : group = Transaction.instanceUpgrade
  · rw [if_pos (upgraded.mpr upgrade), if_pos upgrade, ← h.disks]
    exact List.length_append
  · rw [if_neg (mt upgraded.mp upgrade), if_neg upgrade]
    exact h.disks

end Phases

/-! ## 2. Calls -/

section Calls

variable {w₀ : World} {cid next : UInt64} {entries : List Entry} {P P' : Machine → Prop}

/-- A call that asks about the machine. -/
theorem asks_ensures {call : Cloud.Call} {f : Machine → call.operation.Result}
    {good : call.operation.Result → Prop} (performs : ∀ d : CloudDouble, d.perform call = d.ask cid f)
    (tells : ∀ m, P m → good (f m)) :
    Ensures (World.answer {}) (Stands w₀ cid next entries (Is P)) (Workflow.cloud call)
      fun a w => good a ∧ Stands w₀ cid next entries (Is P) w := by
  refine cloud_ensures fun d obliging numbered there => ?_
  obtain ⟨m, found, phase⟩ := there
  rw [performs, CloudDouble.ask_found found]
  exact ⟨f m, rfl, tells m phase, fun _ => obliging, numbered, ⟨m, found, phase⟩, fun _ _ => rfl⟩

/-- The double with another state of the machine. -/
theorem moves_put {d : CloudDouble} {m : Machine} (phase : P' m) :
    Moves cid d.nextCid (Is P') d (d.put cid m) where
  obliging h := { h with }
  nextCid := rfl
  machine := ⟨m, CloudDouble.get?_put _ _ _, phase⟩
  others _ ne := Dict.get?_insert_of_ne _ _ ne

/-- A call that changes the machine. -/
theorem changes_ensures {call : Cloud.Call} {act : Machine → call.operation.Result × Machine}
    {good : call.operation.Result → Prop}
    (performs : ∀ d : CloudDouble, d.Obliging → d.perform call = d.change cid act)
    (acts : ∀ m, P m → good (act m).1 ∧ P' (act m).2) :
    Ensures (World.answer {}) (Stands w₀ cid next entries (Is P)) (Workflow.cloud call)
      fun a w => good a ∧ Stands w₀ cid next entries (Is P') w := by
  refine cloud_ensures fun d obliging numbered there => ?_
  obtain ⟨m, found, phase⟩ := there
  rw [performs d obliging, CloudDouble.change_found found]
  exact ⟨(act m).1, rfl, (acts m phase).1, numbered ▸ moves_put (acts m phase).2⟩

/-- A report on the instance. -/
theorem getInstance_ensures {body : Instance} :
    Ensures (World.answer {}) (Stands w₀ cid next entries (Is (Runs body)))
      (Workflow.cloud (.getInstance cid))
      fun i w => i.body = body ∧ Stands w₀ cid next entries (Is (Runs body)) w :=
  asks_ensures (fun _ => rfl) fun _ runs => runs

/-- A look at the transactions. -/
theorem activeTransactions_ensures {good : List Transaction → Prop}
    (looks : ∀ m, P m → good (observe true m).1 ∧ P' (observe true m).2) :
    Ensures (World.answer {}) (Stands w₀ cid next entries (Is P))
      (Workflow.cloud (.activeTransactions cid))
      fun ts w => good ts ∧ Stands w₀ cid next entries (Is P') w := by
  refine changes_ensures (fun d obliging => ?_) looks
  show d.change cid (observe d.upgradeAddsDevice) = _
  rw [obliging.upgrades]

section Transactions

variable {d d' d'' : CloudDouble} {m : Machine} {body : Instance}

theorem Moves.trans {next' next'' : UInt64} {phase phase' : Option Machine → Prop}
    (first : Moves cid next' phase d d') (second : Moves cid next'' phase' d' d'') :
    Moves cid next'' phase' d d'' where
  obliging h := second.obliging (first.obliging h)
  nextCid := second.nextCid
  machine := second.machine
  others other ne := (second.others other ne).trans (first.others other ne)

/-- A transaction is queued. -/
theorem enqueue_moves (found : d.machines.get? cid = some m) (runs : Runs body m) (group : String) :
    ∃ d', d.enqueue cid group = (.ok (), d') ∧
      Moves cid d.nextCid (Is (Busy body group false m.report.blockDevices.length)) d d' := by
  let numbered : CloudDouble := { d with nextTransaction := d.nextTransaction + 1 }
  let queued : Machine := { m with queued := some (pending d.nextTransaction group), observed := false }
  have enqueued : d.enqueue cid group = (.ok (), numbered.put cid queued) :=
    CloudDouble.enqueue_found found group
  have busy : Busy body group false m.report.blockDevices.length queued := ⟨runs, ⟨_, rfl⟩, rfl, rfl⟩
  exact ⟨_, enqueued, { moves_put (d := numbered) busy with obliging := fun h => { h with } }⟩

/-- A system is reinstalled: the disks that every instance has are left. -/
theorem reloadOs_ensures (stemcell : Stemcell) :
    Ensures (World.answer {}) (Stands w₀ cid next entries (Is (Runs body)))
      (Workflow.cloud (.reloadOs cid stemcell))
      fun _ => Stands w₀ cid next entries (Is (Busy body Transaction.serviceSetup false 2)) := by
  have reloaded : Ensures (World.answer {}) (Stands w₀ cid next entries (Is (Runs body)))
      (Workflow.cloud (.reloadOs cid stemcell)) fun a w => a = () ∧
        Stands w₀ cid next entries (Is (Busy body Transaction.serviceSetup false 2)) w := by
    refine cloud_ensures fun d obliging numbered there => ?_
    obtain ⟨m, found, runs⟩ := there
    obtain ⟨d', enqueued, moves⟩ := enqueue_moves found runs Transaction.serviceSetup
    obtain ⟨m', found', busy⟩ := moves.machine
    let bare : Machine := { m' with report := { m'.report with
      lastTransaction := none
      blockDevices := CloudDouble.baselineDevices } }
    have performed : d.perform (.reloadOs cid stemcell) = (.ok (), d'.put cid bare) := by
      show d.reinstall cid = _
      unfold CloudDouble.reinstall
      rw [enqueued]
      dsimp only
      rw [CloudDouble.change_found found']
    have stripped : Busy body Transaction.serviceSetup false 2 bare :=
      ⟨busy.runs, busy.queued, busy.seen, rfl⟩
    have numbered' : d'.nextCid = next := moves.nextCid.trans numbered
    rw [performed]
    exact ⟨(), rfl, rfl, moves.trans (numbered' ▸ moves_put stripped)⟩
  exact reloaded.effect

/-- An order for a disk is numbered by its instance, and with the number zero it is none. -/
theorem orderDisk_moves {group : String} {disks : Nat} (obliging : d.Obliging)
    (found : d.machines.get? cid = some m) (quiet : Quiet body group disks m) :
    ∃ d', d.orderDisk cid = (.ok (cid + 500000), d') ∧
      Moves cid d.nextCid (Is (Upgrading body group disks (cid + 500000 ≠ 0))) d d' := by
  have number : d.orderId.getD (cid + 500000) = cid + 500000 := by
    rw [obliging.orderId]
    rfl
  unfold CloudDouble.orderDisk
  dsimp only
  rw [number]
  by_cases zero : cid + 500000 = 0
  · rw [if_pos zero, zero]
    exact ⟨d, rfl, fun _ => obliging, rfl, ⟨m, found, quiet⟩, fun _ _ => rfl⟩
  · obtain ⟨d', enqueued, moves⟩ := enqueue_moves found quiet.runs Transaction.instanceUpgrade
    rw [if_neg zero, decide_eq_true zero, enqueued]
    dsimp only
    rw [(moves.obliging obliging).orderFault]
    rw [quiet.disks] at moves
    exact ⟨d', rfl, moves⟩

theorem order_ensures {group : String} {disks : Nat} (sizeGb : UInt64) :
    Ensures (World.answer {}) (Stands w₀ cid next entries (Is (Quiet body group disks)))
      (Disk.order cid sizeGb)
      fun placed => Stands w₀ cid next entries (Is (Upgrading body group disks placed)) := by
  have ordered : Ensures (World.answer {}) (Stands w₀ cid next entries (Is (Quiet body group disks)))
      (Workflow.cloud (.attachDisk cid sizeGb)) fun number w => number = cid + 500000 ∧
        Stands w₀ cid next entries (Is (Upgrading body group disks (cid + 500000 ≠ 0))) w := by
    refine cloud_ensures fun d obliging numbered there => ?_
    obtain ⟨m, found, quiet⟩ := there
    obtain ⟨d', performed, moves⟩ := orderDisk_moves obliging found quiet
    subst numbered
    show ∃ a, (d.orderDisk cid).1 = _ ∧ _ ∧ Moves _ _ _ _ (d.orderDisk cid).2
    rw [performed]
    exact ⟨cid + 500000, rfl, rfl, moves⟩
  refine ordered.attempt.bind fun r w h => ?_
  obtain ⟨number, rfl, rfl, stands⟩ := h
  exact ⟨_, w, ⟨rfl, rfl⟩, stands⟩

end Transactions

end Calls

/-! ## 3. Waits -/

section Waits

variable {w₀ : World} {cid next : UInt64} {entries : List Entry} {P P' : Machine → Prop}
  {body : Instance} {group : String} {disks : Nat} (waits : Waits) (timeout : Duration)

/-- A probe that asks for a value and judges it. -/
theorem probe_ensures {α : Type} {p : Workflow α} {judge : α → Bool} {before after : World → Prop}
    (h : Ensures (World.answer {}) before p fun a w => judge a = true ∧ after w) :
    Ensures (World.answer {}) before (do return judge (← p)) fun yes w => yes = true ∧ after w :=
  Ensures.bind h fun _ => ensures_done fun _ => id

theorem idle_of_quiet :
    Ensures (World.answer {}) (Stands w₀ cid next entries (Is (Quiet body group disks)))
      (Condition.idle.awaitWithin waits timeout cid)
      fun _ => Stands w₀ cid next entries (Is (Quiet body group disks)) := by
  refine await_ensures waits timeout nofun (probe_ensures (activeTransactions_ensures fun m quiet => ?_))
  rw [observe_quiet quiet]
  exact ⟨rfl, quiet⟩

theorem idle_of_seen :
    Ensures (World.answer {}) (Stands w₀ cid next entries (Is (Busy body group true disks)))
      (Condition.idle.awaitWithin waits timeout cid)
      fun _ => Stands w₀ cid next entries (Is (Quiet body group (disks + disksOf group))) := by
  refine await_ensures waits timeout nofun (probe_ensures (activeTransactions_ensures fun m busy => ?_))
  obtain ⟨none, quiet⟩ := observe_seen busy
  exact ⟨List.isEmpty_iff.mpr none, quiet⟩

theorem busy_of_unseen :
    Ensures (World.answer {}) (Stands w₀ cid next entries (Is (Busy body group false disks)))
      (Condition.busy.awaitWithin waits timeout cid)
      fun _ => Stands w₀ cid next entries (Is (Busy body group true disks)) := by
  refine await_ensures waits timeout nofun (probe_ensures (activeTransactions_ensures fun m busy => ?_))
  obtain ⟨some, seen⟩ := observe_unseen busy
  have there : (observe true m).1.isEmpty = false := List.isEmpty_eq_false_iff.mpr some
  exact ⟨congrArg (!·) there, seen⟩

theorem completed_of_quiet {groups : List String} (own : group ∈ groups) :
    Ensures (World.answer {}) (Stands w₀ cid next entries (Is (Quiet body group disks)))
      ((Condition.completed groups).awaitWithin waits timeout cid)
      fun _ => Stands w₀ cid next entries (Is (Quiet body group disks)) := by
  have grouped : Condition.completed groups ≠ .completed [] := by
    rintro same
    rw [Condition.completed.inj same] at own
    cases own
  refine await_ensures waits timeout grouped (probe_ensures (asks_ensures (fun _ => rfl) fun m quiet => ?_))
  obtain ⟨id, last⟩ := quiet.last
  rw [last]
  show Condition.settledIn groups (ended id group) = true
  have member : groups.any (ended id group).inGroup = true :=
    List.any_eq_true.mpr ⟨group, own, beq_self_eq_true _⟩
  unfold Condition.settledIn
  rw [member]
  rfl

theorem power_of_quiet (running : body.powerState = some .running) :
    Ensures (World.answer {}) (Stands w₀ cid next entries (Is (Quiet body group disks)))
      ((Condition.power .running).awaitWithin waits timeout cid)
      fun _ => Stands w₀ cid next entries (Is (Quiet body group disks)) := by
  refine await_ensures waits timeout nofun (probe_ensures (asks_ensures (fun _ => rfl) fun m quiet => ?_))
  have power : m.report.powerState = some .running :=
    (congrArg Instance.powerState quiet.runs).trans running
  rw [power]
  rfl

end Waits

/-! ## 4. Workflows -/

/-- An instance that can be brought up: it is known by its number, runs, and has an address. -/
structure Usable (cid : UInt64) (body : Instance) : Prop where
  number : body.cid = cid
  running : body.powerState = some .running
  address : ∃ ip, body.address? = some ip

section Workflows

variable {w₀ : World} {cid next : UInt64} {entries : List Entry} {P P' : Machine → Prop}
  {body i : Instance} {group : String} {disks : Nat} {site : Site} {request : Request}
  {selected : Networks}

/-- An upgrade runs through, and adds a disk. -/
theorem finish_ensures (usable : Usable cid body) (waits : Waits) :
    Ensures (World.answer {})
      (Stands w₀ cid next entries (Is (Busy body Transaction.instanceUpgrade false 2)))
      (Disk.finish waits cid)
      fun _ => Stands w₀ cid next entries (Is (Runs body)) := by
  refine Ensures.bind (busy_of_unseen waits _).inContext fun _ => ?_
  refine Ensures.bind (idle_of_seen waits _).inContext fun _ => ?_
  refine Ensures.bind (completed_of_quiet waits _ (List.mem_cons_of_mem _ List.mem_cons_self)).inContext
    fun _ => ?_
  refine Ensures.bind (power_of_quiet waits _ usable.running).inContext fun _ => ?_
  have counted : Ensures (World.answer {})
      (Stands w₀ cid next entries (Is (Quiet body Transaction.instanceUpgrade 3)))
      (Workflow.cloud (.blockDevices cid))
      fun devices w => devices.length = 3 ∧
        Stands w₀ cid next entries (Is (Quiet body Transaction.instanceUpgrade 3)) w :=
    asks_ensures (fun _ => rfl) fun m quiet => quiet.disks
  refine Ensures.bind counted.inContext fun devices => ensures_of fun count => ?_
  dsimp only
  rw [count, if_neg (by decide)]
  exact ensures_done fun w h => h.mono fun _ ⟨m, found, quiet⟩ => ⟨m, found, quiet.runs⟩

/-- An instance that was set up is settled at once, with or without an extra disk. -/
theorem settle_ensures (usable : Usable cid body) (waits : Waits) (diskSizeGb : Option UInt64) :
    Ensures (World.answer {}) (Stands w₀ cid next entries (Is (Quiet body Transaction.serviceSetup 2)))
      (Agent.settle waits cid diskSizeGb)
      fun _ => Stands w₀ cid next entries (Is (Runs body)) := by
  have leaves : ∀ w, Stands w₀ cid next entries (Is (Quiet body Transaction.serviceSetup 2)) w →
      Stands w₀ cid next entries (Is (Runs body)) w :=
    fun w h => h.mono fun _ ⟨m, found, quiet⟩ => ⟨m, found, quiet.runs⟩
  unfold Agent.settle
  split
  · rename_i sizeGb _
    refine Ensures.inContext (Ensures.bind (idle_of_quiet waits _).inContext fun _ => ?_)
    refine Ensures.bind (completed_of_quiet waits _ List.mem_cons_self).inContext fun _ => ?_
    refine Ensures.bind (order_ensures sizeGb) fun placed => ?_
    cases placed with
    | true => exact finish_ensures usable waits
    | false => exact ensures_done leaves
  · exact ((completed_of_quiet waits _ List.mem_cons_self).mono (fun _ => id) fun _ => leaves).inContext

/-- A system is reinstalled. -/
theorem reload_ensures (waits : Waits) (stemcell : Stemcell) :
    Ensures (World.answer {}) (Stands w₀ cid next entries (Is (Runs body)))
      (Reclaim.reload waits cid stemcell)
      fun _ => Stands w₀ cid next entries (Is (Quiet body Transaction.serviceSetup 2)) := by
  refine Ensures.bind (reloadOs_ensures stemcell).inContext fun _ => ?_
  refine Ensures.bind (busy_of_unseen waits _).inContext fun _ => ?_
  exact (idle_of_seen waits _).inContext

/-- The agent of an instance with an address can be reached. -/
theorem resolveEndpoints_ensures {phase : Option Machine → Prop} (options : Agent.Options)
    (externalIp : Option Address) (address : ∃ ip, i.address? = some ip) :
    Ensures (World.answer {}) (Stands w₀ cid next entries phase)
      (Agent.resolveEndpoints options i externalIp)
      fun _ => Stands w₀ cid next entries phase := by
  have resolved : Ensures (World.answer {}) (Stands w₀ cid next entries phase)
      (Agent.resolveAddress i externalIp) fun _ => Stands w₀ cid next entries phase := by
    obtain ⟨ip, address⟩ := address
    unfold Agent.resolveAddress
    rw [address]
    cases externalIp with
    | some outer => exact ensures_done fun _ => id
    | none =>
      exact Ensures.bind (recordAlias_ensures i.fqdn ip).inContext fun _ => ensures_done fun _ => id
  refine Ensures.bind resolved fun ip => ?_
  obtain ⟨endpoints, rendered⟩ := Agent.Endpoints.forAddress_total options ip
  exact (ensures_ofExcept rendered).effect

/-- Settings are kept, and change nothing else. -/
theorem configure_ensures (options : Agent.Options) (number : i.cid = cid)
    (endpoints : Agent.Endpoints) :
    Ensures (World.answer {}) (Stands w₀ cid next entries (Is P))
      (Agent.configure options i request selected endpoints)
      fun _ => Stands w₀ cid next entries (Is P) := by
  subst number
  have pushed : ∀ settings, Ensures (World.answer {}) (Stands w₀ i.cid next entries (Is P))
      (Workflow.cloud (.pushSettings i.cid settings))
      fun a w => a = () ∧ Stands w₀ i.cid next entries (Is P) w := by
    refine fun settings => cloud_ensures fun d obliging numbered there => ?_
    have kept : d.perform (.pushSettings i.cid settings) =
        (.ok (), { d with settings := d.settings.insert i.cid settings }) := by
      obtain ⟨m, found, -⟩ := there
      show d.keepSettings i.cid settings = _
      unfold CloudDouble.keepSettings
      rw [CloudDouble.ask_found found]
    rw [kept]
    exact ⟨(), rfl, rfl, fun h => { h with }, numbered, there, fun _ _ => rfl⟩
  exact Ensures.bind (pushed _).inContext fun _ => ensures_of fun _ => ensures_done fun _ => id

/-- A login that is allowed can be set. -/
theorem applyCredential_ensures (options : Agent.Options)
    (allowed : ∀ c, options.credential = some c → c.validate = .ok ()) :
    Ensures (World.answer {}) (Stands w₀ cid next entries (Is P)) (Agent.applyCredential options cid)
      fun _ => Stands w₀ cid next entries (Is P) := by
  unfold Agent.applyCredential
  split
  · exact ensures_done fun _ => id
  · rename_i credential present
    refine Ensures.bind (ensures_ofExcept (allowed credential present)) fun _ => ensures_of fun _ => ?_
    have set : Ensures (World.answer {}) (Stands w₀ cid next entries (Is P))
        (Workflow.cloud (.setCredential cid credential))
        fun a w => a = () ∧ Stands w₀ cid next entries (Is P) w :=
      asks_ensures (f := fun _ => ()) (fun _ => rfl) fun _ _ => rfl
    exact set.effect.inContext

/-- What is known of the body of an instance is known of every report on it. -/
theorem Usable.report (usable : Usable cid body) (same : i.body = body) :
    i.cid = cid ∧ ∃ ip, i.address? = some ip := by
  subst same
  exact ⟨usable.number, usable.address⟩

/-- The body of an instance that is ordered. -/
def bodyOf (cid : UInt64) (t : Template) : Instance := (CloudDouble.built cid 0 t).body

theorem bodyOf_usable (t : Template) : Usable cid (bodyOf cid t) where
  number := rfl
  running := rfl
  address := ⟨_, rfl⟩

variable (allowed : ∀ c, site.agent.credential = some c → c.validate = .ok ())

include allowed

/-- **An instance that was found is renewed**, and reported on as the same. -/
theorem renew_ensures (usable : Usable cid body) (found : i.body = body) :
    Ensures (World.answer {}) (Stands w₀ cid next entries (Is (Runs body)))
      (Reclaim.renew site request selected i)
      fun j w => j.body = body ∧ Stands w₀ cid next entries (Is (Runs body)) w := by
  obtain ⟨number, address⟩ := usable.report found
  unfold Reclaim.renew
  rw [number]
  refine Ensures.bind (reload_ensures site.waits _) fun _ => ?_
  refine Ensures.bind (settle_ensures usable site.waits _) fun _ => ?_
  refine Ensures.bind (resolveEndpoints_ensures site.agent _ address) fun endpoints => ?_
  refine Ensures.bind getInstance_ensures.inContext fun j => ensures_of fun refreshed => ?_
  refine Ensures.bind (configure_ensures site.agent (usable.report refreshed).1 endpoints) fun _ => ?_
  exact Ensures.bind (applyCredential_ensures site.agent allowed) fun _ =>
    ensures_done fun _ h => ⟨refreshed, h⟩

/-- An instance that was ordered is brought up. -/
theorem bringUp_ensures (usable : Usable cid body) :
    Ensures (World.answer {}) (Stands w₀ cid next entries (Is (Quiet body Transaction.serviceSetup 2)))
      (Provision.bringUp site request selected cid)
      fun i w => i.body = body ∧ Stands w₀ cid next entries (Is (Runs body)) w := by
  unfold Provision.bringUp
  refine Ensures.bind (settle_ensures usable site.waits _).mapFault fun _ => ?_
  refine Ensures.bind getInstance_ensures.inContext.mapFault fun i => ensures_of fun report => ?_
  obtain ⟨number, address⟩ := usable.report report
  refine Ensures.bind (resolveEndpoints_ensures site.agent _ address).mapFault fun endpoints => ?_
  refine Ensures.bind (configure_ensures site.agent number endpoints).mapFault fun _ => ?_
  exact Ensures.bind (applyCredential_ensures site.agent allowed).mapFault fun _ =>
    ensures_done fun _ h => ⟨report, h⟩

/-- **An instance is built** under the next number. -/
theorem build_ensures :
    Ensures (World.answer {}) (Stands w₀ cid cid entries (· = none)) (Provision.run site request selected)
      fun i w => (∃ name, i.body = bodyOf cid (request.template selected name)) ∧
        Stands w₀ cid (cid + 1) entries (Is (Runs i.body)) w := by
  have ordered : ∀ name, Ensures (World.answer {}) (Stands w₀ cid cid entries (· = none))
      (Provision.order request selected name)
      fun receipt w => receipt.cid = cid ∧ Stands w₀ cid (cid + 1) entries
        (Is (Quiet (bodyOf cid (request.template selected name)) Transaction.serviceSetup 2)) w := by
    intro name
    let t := request.template selected name
    refine (Ensures.inContext (cloud_ensures fun d obliging numbered _ => ?_)).mapFault
    subst numbered
    let m : Machine := { report := CloudDouble.built d.nextCid d.nextTransaction t }
    have quiet : Quiet (bodyOf d.nextCid t) Transaction.serviceSetup 2 m := ⟨rfl, rfl, ⟨_, rfl⟩, rfl⟩
    refine ⟨CloudDouble.receipt d.nextCid t, rfl, rfl, ?_⟩
    constructor
    case obliging => exact fun h => { h with }
    case nextCid => rfl
    case machine => exact ⟨m, Dict.get?_insert_self _ _ _, quiet⟩
    case others => exact fun _ ne => Dict.get?_insert_of_ne _ _ ne
  rw [Provision.run_eq]
  refine Ensures.bind mark_ensures fun mark => ?_
  refine Ensures.bind (ordered _) fun receipt => ensures_of fun number => ?_
  rw [number]
  refine (bringUp_ensures allowed (bodyOf_usable _)).mono (fun _ => id) fun i w h => ?_
  exact ⟨⟨_, h.1⟩, h.1 ▸ h.2⟩

end Workflows

end InstancePool
