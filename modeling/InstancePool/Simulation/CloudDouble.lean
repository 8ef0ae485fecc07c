import InstancePool.Services

/-!
# A cloud in memory

A double of the cloud that workflows can be run against. What takes a real cloud its time is
simulated: an upgrade or a reload queues one transaction, the first look at the active transactions
sees it, and the second one sees it gone and its effect there. Every call is journaled, and any
operation can be made to fail.

* `CloudDouble.enroll`: an instance that was there before;
* `CloudDouble.answer`: what a call is answered with, and what it changes;
* `CloudDouble.observe_idle`, `observe_first`, `observe_second`: the looks at a transaction in turn.
-/

namespace InstancePool.Simulation

open Json (encode)

/-! ## 1. State -/

/-- An instance of the double. -/
structure Machine where
  report : Instance
  /-- The transaction under way, and whether it was seen. -/
  queued : Option Transaction := none
  observed : Bool := false
  /-- How many more probes will not reach the instance. -/
  unreachable : Nat := 0

/-- The state of the double. -/
structure CloudDouble where
  nextCid : UInt64 := 1000
  nextTransaction : UInt64 := 1
  machines : Dict UInt64 Machine := ∅
  /-- The settings that were pushed last. -/
  settings : Dict UInt64 Agent.Settings := ∅
  failures : Operation → Option Fault := fun _ => none
  /-- The number of the orders for disks, if it is fixed. -/
  orderId : Option UInt64 := none
  /-- What an order for a disk is answered with although it is placed. -/
  orderFault : Option Fault := none
  /-- Whether an upgrade adds a disk. -/
  upgradeAddsDevice : Bool := true
  /-- The calls so far, the latest one first. -/
  journal : List Cloud.Call := []

namespace CloudDouble

/-- A transaction that has ended. -/
def ended (id : UInt64) (group : String) : Transaction :=
  { id, group := some group, status := some Transaction.complete, createdAt := none }

/-- A transaction that has not. -/
def pending (id : UInt64) (group : String) : Transaction :=
  { id, group := some group, status := some "PENDING", createdAt := none }

/-- The two disks that every instance has. -/
def baselineDevices : List BlockDevice := [⟨1, "0", some 25⟩, ⟨2, "1", some 25⟩]

/-- The disks after an upgrade. -/
def withUpgrade (devices : List BlockDevice) : List BlockDevice :=
  let count := devices.length
  devices ++ [⟨UInt64.ofNat (count + 1), toString count, none⟩]

/-- An instance that was there before. What its report leaves open is as in one that runs and was set
    up once. -/
def enroll (d : CloudDouble) (i : Instance) : CloudDouble :=
  let setUp := i.lastTransaction.getD (ended d.nextTransaction Transaction.serviceSetup)
  let report := { i with
    powerState := i.powerState.or (some .running)
    lastTransaction := some setUp
    blockDevices := if i.blockDevices.isEmpty then baselineDevices else i.blockDevices }
  { d with
    nextTransaction := d.nextTransaction + (if i.lastTransaction.isNone then 1 else 0)
    machines := d.machines.insert i.cid { report } }

/-- The double in which an operation fails from now on. -/
def failing (d : CloudDouble) (op : Operation) (f : Fault) : CloudDouble :=
  { d with failures := fun other => if other = op then some f else d.failures other }

/-- The fault of a number that no instance has. -/
def unknown (cid : UInt64) : Fault := .notFound s!"instance {cid} not found"

/-- The double with another state of one instance. -/
def put (d : CloudDouble) (cid : UInt64) (m : Machine) : CloudDouble :=
  { d with machines := d.machines.insert cid m }

/-! ## 2. Calls -/

/-- The instance that an order asks for, with the addresses it is given. -/
def built (cid transaction : UInt64) (t : Template) : Instance :=
  let octet := (cid % 250).toUInt8 + 1
  { cid
    hostname := t.hostname
    domain := t.domain
    startCpus := t.startCpus
    maxMemoryMb := t.maxMemoryMb
    primaryIp := some (.v4 169 50 0 octet)
    primaryBackendIp := some (.v4 10 0 0 octet)
    powerState := some .running
    privateVlan := t.privateVlan
    publicVlan := t.publicVlan
    lastTransaction := some (ended transaction Transaction.serviceSetup)
    blockDevices := baselineDevices }

/-- What an order is answered with: number, name and shape. -/
def receipt (cid : UInt64) (t : Template) : Instance :=
  { cid
    hostname := t.hostname
    domain := t.domain
    startCpus := t.startCpus
    maxMemoryMb := t.maxMemoryMb }

/-- Asks about an instance that has to be there. -/
def ask {α : Type} (d : CloudDouble) (cid : UInt64) (answer : Machine → α) :
    Except Fault α × CloudDouble :=
  match d.machines.get? cid with
  | some m => (.ok (answer m), d)
  | none => (.error (unknown cid), d)

/-- Changes an instance that has to be there. -/
def change {α : Type} (d : CloudDouble) (cid : UInt64) (act : Machine → α × Machine) :
    Except Fault α × CloudDouble :=
  match d.machines.get? cid with
  | some m =>
    let (answer, m) := act m
    (.ok answer, d.put cid m)
  | none => (.error (unknown cid), d)

/-- Queues a transaction. Its number is used up even where no such instance exists. -/
def enqueue (d : CloudDouble) (cid : UInt64) (group : String) : Except Fault Unit × CloudDouble :=
  let transaction := pending d.nextTransaction group
  { d with nextTransaction := d.nextTransaction + 1 }.change cid fun m =>
    ((), { m with queued := some transaction, observed := false })

/-- Looks at the transactions under way: a queued one is seen once, then it has ended. -/
def observe (addsDevice : Bool) (m : Machine) : List Transaction × Machine :=
  match m.queued with
  | none => ([], m)
  | some transaction =>
    if m.observed then
      let upgraded := transaction.inGroup Transaction.instanceUpgrade && addsDevice
      let report := { m.report with
        lastTransaction := some (ended transaction.id (transaction.group.getD ""))
        blockDevices :=
          if upgraded then withUpgrade m.report.blockDevices else m.report.blockDevices }
      ([], { m with report, queued := none })
    else ([transaction], { m with observed := true })

/-- Probes an instance. -/
def probe (m : Machine) : Bool × Machine :=
  (m.unreachable = 0, { m with unreachable := m.unreachable - 1 })

/-- The first instance, by number, with an address. -/
def withAddress (d : CloudDouble) (field : Instance → Option Address) (ip : Address) :
    Except Fault Instance × CloudDouble :=
  match (d.machines.values.map Machine.report).find? fun i => field i = some ip with
  | some i => (.ok i, d)
  | none => (.error (.notFound s!"no instance with ip {ip}"), d)

/-- Orders a disk. -/
def orderDisk (d : CloudDouble) (cid : UInt64) : Except Fault UInt64 × CloudDouble :=
  let order := d.orderId.getD (cid + 500000)
  if order = 0 then (.ok 0, d)
  else
    match d.enqueue cid Transaction.instanceUpgrade with
    | (.error fault, d) => (.error fault, d)
    | (.ok (), d) =>
      match d.orderFault with
      | some fault => (.error fault, d)
      | none => (.ok order, d)

/-- Reinstalls an instance: its last transaction is unknown until the reload has ended, and only the
    disks that every instance has are left. -/
def reinstall (d : CloudDouble) (cid : UInt64) : Except Fault Unit × CloudDouble :=
  match d.enqueue cid Transaction.serviceSetup with
  | (.error fault, d) => (.error fault, d)
  | (.ok (), d) => d.change cid fun m =>
    ((), { m with report := { m.report with
      lastTransaction := none
      blockDevices := baselineDevices } })

/-- Creates an instance. -/
def create (d : CloudDouble) (t : Template) : Except Fault Instance × CloudDouble :=
  let cid := d.nextCid
  (.ok (receipt cid t),
    { d with
      nextCid := d.nextCid + 1
      nextTransaction := d.nextTransaction + 1
      machines := d.machines.insert cid { report := built cid d.nextTransaction t } })

/-- Keeps the settings that are pushed to an instance. -/
def keepSettings (d : CloudDouble) (cid : UInt64) (s : Agent.Settings) :
    Except Fault Unit × CloudDouble :=
  match d.ask cid fun _ => () with
  | (.error fault, d) => (.error fault, d)
  | (.ok (), d) => (.ok (), { d with settings := d.settings.insert cid s })

/-- What a call does where it is not made to fail. -/
def perform (d : CloudDouble) : (call : Cloud.Call) → call.Answer × CloudDouble
  | .createInstance template => d.create template
  | .getInstance cid => d.ask cid Machine.report
  | .activeTransactions cid => d.change cid (observe d.upgradeAddsDevice)
  | .lastTransaction cid => d.ask cid fun m => m.report.lastTransaction
  | .powerState cid => d.ask cid fun m => m.report.powerState.getD .halted
  | .pingable cid => d.change cid probe
  | .attachDisk cid _ => d.orderDisk cid
  | .blockDevices cid => d.ask cid fun m => m.report.blockDevices
  | .instanceByPrivateIp ip => d.withAddress Instance.primaryBackendIp ip
  | .instanceByPublicIp ip => d.withAddress Instance.primaryIp ip
  | .reloadOs cid _ => d.reinstall cid
  | .pushSettings cid settings => d.keepSettings cid settings
  | .setCredential cid _ => d.ask cid fun _ => ()
  | .reboot cid => d.change cid fun m => ((), { m with unreachable := 1 })

/-- What a call is answered with. It is journaled in any case. -/
def answer (d : CloudDouble) (call : Cloud.Call) : call.Answer × CloudDouble :=
  let d := { d with journal := call :: d.journal }
  match d.failures call.operation with
  | some fault => (.error fault, d)
  | none => d.perform call

/-- A call in short: its name, and by which instance, address or name it is known. -/
def brief (call : Cloud.Call) : List Json :=
  .str call.operation.name ::
    match call with
    | .createInstance template => [encode template.hostname]
    | .attachDisk cid sizeGb => [encode cid, encode sizeGb]
    | .reloadOs cid stemcell => [encode cid, encode stemcell.id]
    | .pushSettings cid _ => [encode cid]
    | .setCredential cid _ => [encode cid]
    | call => (Call.cloud call).arguments

/-! ## 3. Parts of calls -/

section Parts

variable {α : Type} {d : CloudDouble} {cid : UInt64} {m : Machine} {t : Transaction}

theorem get?_put (d : CloudDouble) (cid : UInt64) (m : Machine) :
    (d.put cid m).machines.get? cid = some m :=
  Dict.get?_insert_self _ _ _

theorem ask_found (found : d.machines.get? cid = some m) (answer : Machine → α) :
    d.ask cid answer = (.ok (answer m), d) := by
  simp only [ask, found]

theorem ask_state (d : CloudDouble) (cid : UInt64) (answer : Machine → α) :
    (d.ask cid answer).2 = d := by
  unfold ask
  split <;> rfl

theorem change_found (found : d.machines.get? cid = some m) (act : Machine → α × Machine) :
    d.change cid act = (.ok (act m).1, d.put cid (act m).2) := by
  simp only [change, found]

theorem change_absent (absent : d.machines.get? cid = none) (act : Machine → α × Machine) :
    d.change cid act = (.error (unknown cid), d) := by
  simp only [change, absent]

/-- A transaction is queued where there is an instance. Its number is given out in any case. -/
theorem enqueue_found (found : d.machines.get? cid = some m) (group : String) :
    d.enqueue cid group = (.ok (), { d with nextTransaction := d.nextTransaction + 1 }.put cid
      { m with queued := some (pending d.nextTransaction group), observed := false }) :=
  change_found (d := { d with nextTransaction := d.nextTransaction + 1 }) found fun m =>
    ((), { m with queued := some (pending d.nextTransaction group), observed := false })

theorem enqueue_absent (absent : d.machines.get? cid = none) (group : String) :
    d.enqueue cid group =
      (.error (unknown cid), { d with nextTransaction := d.nextTransaction + 1 }) :=
  change_absent (d := { d with nextTransaction := d.nextTransaction + 1 }) absent fun m =>
    ((), { m with queued := some (pending d.nextTransaction group), observed := false })

theorem observe_idle (addsDevice : Bool) (idle : m.queued = none) :
    observe addsDevice m = ([], m) := by
  simp only [observe, idle]

theorem observe_first (addsDevice : Bool) (queued : m.queued = some t) (unseen : m.observed = false) :
    observe addsDevice m = ([t], { m with observed := true }) := by
  simp [observe, queued, unseen]

theorem observe_second (addsDevice : Bool) (queued : m.queued = some t) (seen : m.observed = true) :
    observe addsDevice m = ([], { m with
      queued := none
      report := { m.report with
        lastTransaction := some (ended t.id (t.group.getD ""))
        blockDevices :=
          if t.inGroup Transaction.instanceUpgrade && addsDevice then withUpgrade m.report.blockDevices
          else m.report.blockDevices } }) := by
  simp [observe, queued, seen]

end Parts

end CloudDouble

end InstancePool.Simulation
