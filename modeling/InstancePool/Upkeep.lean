import InstancePool.Condition
import InstancePool.Pool.Transition

/-!
# Upkeep

What else is done with an instance: give it back, ask whether it exists, and reboot it. Giving an
instance back never destroys it; an instance that the pool has no entry for gets one.
-/

namespace InstancePool.Upkeep

/-- Enters an instance that the pool lost track of as a free one. -/
def heal (cid : UInt64) : Workflow Unit := do
  let i ← (Workflow.cloud (.getInstance cid)).inContext
    s!"fetching instance {cid} to heal pool registry"
  (Workflow.registry (.addEntry (.ofInstance i .free))).inContext s!"adding missing pool entry {cid}"

/-- Gives an instance back to the pool. -/
def release (cid : UInt64) : Workflow Unit := do
  match ← (Workflow.registry (.getEntry cid)).inContext s!"looking up pool entry {cid}" with
  | some entry => (Pool.release entry).inContext s!"releasing instance {cid} to pool"
  | none => heal cid

/-- Whether an instance exists. -/
def exists? (cid : UInt64) : Workflow Bool := do
  match ← (Workflow.cloud (.getInstance cid)).attempt with
  | .ok _ => return true
  | .error fault =>
    if fault.kind = .instanceNotFound then return false
    else .fail (fault.inContext s!"checking whether instance {cid} exists")

/-- Reboots an instance, and waits until it has gone down, is back, and runs. -/
def reboot (waits : Waits) (cid : UInt64) : Workflow Unit := do
  (Workflow.cloud (.reboot cid)).inContext s!"rebooting instance {cid}"
  (Condition.notPingable.await waits cid).inContext "waiting for instance to go down"
  (Condition.pingable.await waits cid).inContext "waiting for instance to come back"
  (Condition.power .running).await waits cid

end InstancePool.Upkeep
