import InstancePool.Agent.Settings
import InstancePool.Credential
import InstancePool.Program.Timed
import InstancePool.Request

/-!
# Services

The parties a workflow talks to, by the calls it makes to them. Every call is one request with one
answer; none of them waits for what it sets off.

* `Cloud.Call`: the provider of instances;
* `Registry.Call`: the registry of the instances that are shared out;
* `Call`: either of them, or the record of an address under a host name;
* `Operation`: what a call asks for, without its arguments, and what is answered to it;
* `Workflow`: a program over these calls that also tells the time and marks host names.
-/

namespace InstancePool

open Json (encode)

/-! ## 1. Operations -/

/-- What may be asked of a service. -/
inductive Operation where
  | createInstance
  | getInstance
  | activeTransactions
  | lastTransaction
  | powerState
  | pingable
  | attachDisk
  | blockDevices
  | instanceByPrivateIp
  | instanceByPublicIp
  | reloadOs
  | pushSettings
  | setCredential
  | reboot
  | findEntries
  | addEntry
  | updateState
  | getEntry
  | recordAlias
deriving DecidableEq, Repr

namespace Operation

/-- Every operation. -/
def all : List Operation :=
  [createInstance, getInstance, activeTransactions, lastTransaction, powerState, pingable,
    attachDisk, blockDevices, instanceByPrivateIp, instanceByPublicIp, reloadOs, pushSettings,
    setCredential, reboot, findEntries, addEntry, updateState, getEntry, recordAlias]

/-- The name of an operation in a journal. -/
def name : Operation → String
  | createInstance => "create_instance"
  | getInstance => "get_instance"
  | activeTransactions => "get_active_transactions"
  | lastTransaction => "get_last_transaction"
  | powerState => "get_power_state"
  | pingable => "is_pingable"
  | attachDisk => "attach_ephemeral_disk"
  | blockDevices => "get_block_devices"
  | instanceByPrivateIp => "get_instance_by_private_ip"
  | instanceByPublicIp => "get_instance_by_public_ip"
  | reloadOs => "os_reload"
  | pushSettings => "push_agent_settings"
  | setCredential => "set_credential"
  | reboot => "reboot_instance"
  | findEntries => "find_by_filter"
  | addEntry => "add_entry"
  | updateState => "update_state"
  | getEntry => "get_entry"
  | recordAlias => "upsert"

/-- The operation of a name. -/
def ofName? (name : String) : Option Operation := all.find? (·.name == name)

/-- What is answered if all goes well. -/
@[reducible] def Result : Operation → Type
  | createInstance => Instance
  | getInstance => Instance
  | activeTransactions => List Transaction
  | lastTransaction => Option Transaction
  | powerState => PowerState
  | pingable => Bool
  | attachDisk => UInt64
  | blockDevices => List BlockDevice
  | instanceByPrivateIp => Instance
  | instanceByPublicIp => Instance
  | reloadOs => Unit
  | pushSettings => Unit
  | setCredential => Unit
  | reboot => Unit
  | findEntries => List Pool.Entry
  | addEntry => Unit
  | updateState => Unit
  | getEntry => Option Pool.Entry
  | recordAlias => Unit

/-- Whether an operation only looks at an instance, as a poll does. -/
def isPoll : Operation → Bool
  | activeTransactions | lastTransaction | powerState | pingable => true
  | _ => false

end Operation

/-! ## 2. Calls -/

/-- A call to the cloud. -/
inductive Cloud.Call where
  /-- Orders an instance. The answer has its number and shape, and nothing that takes time. -/
  | createInstance (template : Template)
  | getInstance (cid : UInt64)
  | activeTransactions (cid : UInt64)
  | lastTransaction (cid : UInt64)
  | powerState (cid : UInt64)
  | pingable (cid : UInt64)
  /-- Orders a disk. The answer is the number of the order, zero if none was placed. -/
  | attachDisk (cid sizeGb : UInt64)
  | blockDevices (cid : UInt64)
  | instanceByPrivateIp (ip : Address)
  | instanceByPublicIp (ip : Address)
  /-- Wipes an instance and reinstalls its system. -/
  | reloadOs (cid : UInt64) (stemcell : Stemcell)
  | pushSettings (cid : UInt64) (settings : Agent.Settings)
  | setCredential (cid : UInt64) (credential : Credential)
  | reboot (cid : UInt64)

/-- A call to the registry of the pool. -/
inductive Registry.Call where
  | findEntries (filter : Pool.Filter)
  | addEntry (entry : Pool.Entry)
  /-- Sets a state, if the present one is as expected. -/
  | updateState (cid : UInt64) (expected : Option Pool.State) (next : Pool.State)
  | getEntry (cid : UInt64)

/-- The operation of a call. -/
@[reducible] def Cloud.Call.operation : Cloud.Call → Operation
  | createInstance _ => .createInstance
  | getInstance _ => .getInstance
  | activeTransactions _ => .activeTransactions
  | lastTransaction _ => .lastTransaction
  | powerState _ => .powerState
  | pingable _ => .pingable
  | attachDisk _ _ => .attachDisk
  | blockDevices _ => .blockDevices
  | instanceByPrivateIp _ => .instanceByPrivateIp
  | instanceByPublicIp _ => .instanceByPublicIp
  | reloadOs _ _ => .reloadOs
  | pushSettings _ _ => .pushSettings
  | setCredential _ _ => .setCredential
  | reboot _ => .reboot

/-- The operation of a call. -/
@[reducible] def Registry.Call.operation : Registry.Call → Operation
  | findEntries _ => .findEntries
  | addEntry _ => .addEntry
  | updateState _ _ _ => .updateState
  | getEntry _ => .getEntry

/-- What a call to the cloud is answered with. -/
@[reducible] def Cloud.Call.Answer (call : Cloud.Call) : Type :=
  Except Fault call.operation.Result

/-- What a call to the registry is answered with. -/
@[reducible] def Registry.Call.Answer (call : Registry.Call) : Type :=
  Except Fault call.operation.Result

/-- The answer of a cloud that offers no reboots. -/
def Cloud.unsupportedReboot (cid : UInt64) : Except Fault Unit :=
  .error (.notSupported s!"reboot of instance {cid} is not supported by this provider")

/-- A call to any service. -/
inductive Call where
  | cloud (call : Cloud.Call)
  | registry (call : Registry.Call)
  /-- Records under which address a host is reached. -/
  | hostAlias (hostname : String) (ip : Address)

namespace Call

/-- The operation of a call. -/
@[reducible] def operation : Call → Operation
  | cloud call => call.operation
  | registry call => call.operation
  | hostAlias _ _ => .recordAlias

/-- What a call is answered with. -/
@[reducible] def Answer (call : Call) : Type := Except Fault call.operation.Result

/-- The arguments of a call. -/
def arguments : Call → List Json
  | cloud (.createInstance template) => [encode template]
  | cloud (.getInstance cid) => [encode cid]
  | cloud (.activeTransactions cid) => [encode cid]
  | cloud (.lastTransaction cid) => [encode cid]
  | cloud (.powerState cid) => [encode cid]
  | cloud (.pingable cid) => [encode cid]
  | cloud (.attachDisk cid sizeGb) => [encode cid, encode sizeGb]
  | cloud (.blockDevices cid) => [encode cid]
  | cloud (.instanceByPrivateIp ip) => [encode ip]
  | cloud (.instanceByPublicIp ip) => [encode ip]
  | cloud (.reloadOs cid stemcell) => [encode cid, encode stemcell]
  | cloud (.pushSettings cid settings) => [encode cid, encode settings]
  | cloud (.setCredential cid credential) => [encode cid, encode credential]
  | cloud (.reboot cid) => [encode cid]
  | registry (.findEntries filter) => [encode filter]
  | registry (.addEntry entry) => [encode entry]
  | registry (.updateState cid expected next) => [encode cid, encode expected, encode next]
  | registry (.getEntry cid) => [encode cid]
  | hostAlias hostname ip => [encode hostname, encode ip]

end Call

/-! ## 3. Workflows -/

/-- A question of a workflow, questions about time apart. -/
inductive Services.Query where
  | call (call : Call)
  /-- A mark for a host name that no other host name has. -/
  | mark

/-- The services that workflows talk to. -/
@[reducible] def Services : Interface where
  Query := Services.Query
  Reply
    | .call call => call.Answer
    | .mark => String

/-- A program over the services. -/
abbrev Workflow := Program (Timed Services)

namespace Workflow

/-- A call that ends the workflow if it fails. -/
def call (c : Call) : Workflow c.operation.Result :=
  .ask (.other (.call c)) Program.ofExcept

/-- A call to the cloud. -/
def cloud (c : Cloud.Call) : Workflow c.operation.Result := call (.cloud c)

/-- A call to the registry. -/
def registry (c : Registry.Call) : Workflow c.operation.Result := call (.registry c)

/-- Records under which address a host is reached. -/
def recordAlias (hostname : String) (ip : Address) : Workflow Unit :=
  call (.hostAlias hostname ip)

/-- A mark for a host name that no other host name has. -/
def mark : Workflow String := .ask (.other .mark) .done

end Workflow

end InstancePool
