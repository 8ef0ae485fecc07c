import InstancePool.Condition
import InstancePool.Text.Lower

/-!
# The extra disk

An extra disk is an upgrade of an instance that is ordered once the instance is set up and idle, and
is there once the upgrade has run, the instance is on again and its disks have been counted.

The cloud may take an order at the quoted price and still answer with a fault, which says so
(`Disk.isPriceNotice`). Such an order counts as placed.
-/

namespace InstancePool.Disk

/-- What a fault says when an order was placed nevertheless. -/
def priceNotice : String := "a current price was provided for the upgrade order"

/-- How many disks an instance has once the extra one is there. -/
def devicesAfterUpgrade : Nat := 3

/-- Whether a text occurs in another. -/
def occursIn (part : List Char) : List Char → Bool
  | [] => part.isEmpty
  | c :: cs => part.isPrefixOf (c :: cs) || occursIn part cs

/-- Whether a fault only gives notice of a price, whatever the case of its letters. -/
def isPriceNotice (f : Fault) : Bool :=
  occursIn priceNotice.toList (Text.lower f.message).toList

/-- Places the order. The answer is whether there is an upgrade to wait for. -/
def order (cid sizeGb : UInt64) : Workflow Bool := do
  match ← (Workflow.cloud (.attachDisk cid sizeGb)).attempt with
  | .ok order => return order ≠ 0
  | .error fault =>
    if isPriceNotice fault then return true
    else .fail (fault.inContext s!"ordering {sizeGb} GB ephemeral disk for instance {cid}")

/-- Waits for an upgrade, and counts the disks. -/
def finish (waits : Waits) (cid : UInt64) : Workflow Unit := do
  (Condition.busy.await waits cid).inContext "waiting for disk upgrade to start"
  (Condition.idle.await waits cid).inContext "waiting for disk upgrade to finish"
  ((Condition.completed [Transaction.cloudMigrate, Transaction.instanceUpgrade]).await waits cid).inContext
    "waiting for disk upgrade transaction"
  ((Condition.power .running).await waits cid).inContext
    "waiting for instance to power on after disk upgrade"
  let devices ← (Workflow.cloud (.blockDevices cid)).inContext
    s!"listing block devices of instance {cid}"
  let count := devices.length
  if count < devicesAfterUpgrade then
    .fail (.new .resourceExhausted
      s!"instance {cid} has {count} block devices after disk upgrade, expected at least {devicesAfterUpgrade}")

/-- Orders an extra disk and waits until the instance is usable with it. -/
def attach (waits : Waits) (cid sizeGb : UInt64) : Workflow Unit := do
  (Condition.idle.await waits cid).inContext "waiting for idle instance before disk upgrade"
  ((Condition.completed [Transaction.serviceSetup]).await waits cid).inContext
    "waiting for instance setup before disk upgrade"
  if ← order cid sizeGb then finish waits cid

end InstancePool.Disk
