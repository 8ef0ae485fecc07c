import InstancePool.Services
import InstancePool.Wait

/-!
# Conditions

What a workflow waits for on one instance. A `Condition` has a text, by which it is named where a
wait fails, and a probe, which asks once whether it holds.

Whether an instance can be reached is asked through the cloud as well. There a remote call that fails
means that it cannot be reached yet, not that the workflow is broken (`Condition.reachable`).
-/

namespace InstancePool

/-- What may be waited for on an instance. -/
inductive Condition where
  /-- No transaction is under way. -/
  | idle
  /-- A transaction is under way. -/
  | busy
  | power (target : PowerState)
  /-- The last transaction belongs to one of the groups and is complete. -/
  | completed (groups : List String)
  | pingable
  | notPingable
deriving DecidableEq, Repr

namespace Condition

/-- The text of a condition. -/
def text : Condition → String
  | idle => "no active transactions"
  | busy => "active transaction present"
  | power target => "power state " ++ target.key
  | completed groups =>
    let listed := ", ".intercalate groups
    s!"last transaction {Transaction.complete} in [{listed}]"
  | pingable => "pingable"
  | notPingable => "not pingable"

/-- Whether a transaction is complete and belongs to one of the groups. -/
def settledIn (groups : List String) (t : Transaction) : Bool :=
  t.isComplete && groups.any t.inGroup

/-- Whether an instance can be reached. A remote call that fails is a no. -/
def reachable (cid : UInt64) : Workflow Bool := do
  match ← (Workflow.cloud (.pingable cid)).attempt with
  | .ok answer => return answer
  | .error fault => if fault.kind = .cloud then return false else .fail fault

/-- Asks once whether a condition holds. -/
def probe (cid : UInt64) : Condition → Workflow Bool
  | idle => do return (← Workflow.cloud (.activeTransactions cid)).isEmpty
  | busy => do return !(← Workflow.cloud (.activeTransactions cid)).isEmpty
  | power target => do return (← Workflow.cloud (.powerState cid)) == target
  | completed groups => do return (← Workflow.cloud (.lastTransaction cid)).any (settledIn groups)
  | pingable => reachable cid
  | notPingable => do return !(← reachable cid)

/-- Waits until a condition holds, for as long as `timeout` says. -/
def awaitWithin (waits : Waits) (timeout : Duration) (cid : UInt64) (condition : Condition) :
    Workflow Unit :=
  if condition = completed [] then
    .fail (.invalid "last transaction wait needs at least one group")
  else
    Wait.await waits.interval cid condition.text timeout (condition.probe cid)

/-- Waits until a condition holds. -/
def await (waits : Waits) (cid : UInt64) (condition : Condition) : Workflow Unit :=
  condition.awaitWithin waits waits.timeout cid

end Condition

end InstancePool
