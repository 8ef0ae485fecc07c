import InstancePool.Address
import InstancePool.Timestamp

/-!
# Instances

The machine that the cloud runs, as the cloud reports it.

* `PowerState`, `Transaction`, `BlockDevice`, `NetworkComponent`: what an instance is made of;
* `Instance`: the report on one of them. A part that the cloud left out is empty or `none`;
* `Instance.fqdn`, `Instance.address?`: the name and the address under which it is known;
* the JSON form of each, in the order in which its parts are declared.
-/

namespace InstancePool

open Json (Wire encode Slots)

/-! ## 1. Power states and transactions -/

/-- Whether an instance runs. -/
inductive PowerState where
  | running
  | halted
  | paused
  | other (key : String)
deriving DecidableEq, Repr

namespace PowerState

/-- The power state of a key, whatever its case and the blanks around it. -/
def ofKey (key : String) : PowerState :=
  match (Text.trim key).map Char.toUpper with
  | "RUNNING" => running
  | "HALTED" => halted
  | "PAUSED" => paused
  | key => other key

/-- The key of a power state. -/
def key : PowerState → String
  | running => "RUNNING"
  | halted => "HALTED"
  | paused => "PAUSED"
  | other key => key

/-- The power states without a key of their own, by the name under which they are stored. -/
def ofName? : String → Option PowerState
  | "Running" => some running
  | "Halted" => some halted
  | "Paused" => some paused
  | _ => none

instance : Wire PowerState where
  encode
    | running => .str "Running"
    | halted => .str "Halted"
    | paused => .str "Paused"
    | other key => .obj [("Other", .str key)]
  read
    | room + 1, .object [(some "Other", key)] => (Json.Reader.string room key).map other
    | room, document => Json.Reader.choice ofName? room document

end PowerState

/-- A change to an instance that the cloud carries out in its own time. -/
structure Transaction where
  id : UInt64
  group : Option String
  status : Option String
  createdAt : Option Timestamp
deriving DecidableEq, Repr

namespace Transaction

/-- The status of a transaction that has ended. -/
def complete : String := "COMPLETE"

/-- The group of the transactions that set up an instance. -/
def serviceSetup : String := "Service Setup"

/-- The group of the transactions that move an instance to another host. -/
def cloudMigrate : String := "Cloud Migrate"

/-- The group of the transactions that upgrade an instance. -/
def instanceUpgrade : String := "Cloud Instance Upgrade"

/-- Whether a transaction has ended. -/
def isComplete (t : Transaction) : Bool := t.status == some complete

/-- Whether a transaction belongs to a group. -/
def inGroup (t : Transaction) (group : String) : Bool := t.group == some group

instance : Wire Transaction where
  encode t := .obj [("id", encode t.id), ("group", encode t.group), ("status", encode t.status),
    ("created_at", encode t.createdAt)]
  read room document := do
    let slots ← Slots.read ["id", "group", "status", "created_at"] room document
    return {
      id := ← slots.required "id"
      group := ← slots.optional "group"
      status := ← slots.optional "status"
      createdAt := ← slots.optional "created_at" }

end Transaction

/-! ## 2. Devices and networks of an instance -/

/-- A disk of an instance. -/
structure BlockDevice where
  id : UInt64
  device : String
  capacityGb : Option UInt64
deriving DecidableEq, Repr

instance : Wire BlockDevice where
  encode d := .obj [("id", encode d.id), ("device", encode d.device),
    ("capacity_gb", encode d.capacityGb)]
  read room document := do
    let slots ← Slots.read ["id", "device", "capacity_gb"] room document
    return {
      id := ← slots.required "id"
      device := ← slots.required "device"
      capacityGb := ← slots.optional "capacity_gb" }

/-- A network port of an instance. -/
structure NetworkComponent where
  id : UInt64
  port : UInt32
  primaryIp : Option Address
  maxSpeed : Option UInt32
  vlanId : Option UInt64
deriving DecidableEq

instance : Wire NetworkComponent where
  encode c := .obj [("id", encode c.id), ("port", encode c.port),
    ("primary_ip", encode c.primaryIp), ("max_speed", encode c.maxSpeed),
    ("vlan_id", encode c.vlanId)]
  read room document := do
    let slots ← Slots.read ["id", "port", "primary_ip", "max_speed", "vlan_id"] room document
    return {
      id := ← slots.required "id"
      port := ← slots.required "port"
      primaryIp := ← slots.optional "primary_ip"
      maxSpeed := ← slots.optional "max_speed"
      vlanId := ← slots.optional "vlan_id" }

/-! ## 3. The instance -/

/-- What the cloud reports on an instance. -/
structure Instance where
  cid : UInt64 := 0
  hostname : String := ""
  domain : String := ""
  startCpus : UInt32 := 0
  maxMemoryMb : UInt64 := 0
  primaryIp : Option Address := none
  primaryBackendIp : Option Address := none
  powerState : Option PowerState := none
  privateVlan : Option UInt64 := none
  publicVlan : Option UInt64 := none
  activeTransactions : List Transaction := []
  lastTransaction : Option Transaction := none
  blockDevices : List BlockDevice := []
  networkComponents : List NetworkComponent := []
deriving DecidableEq

namespace Instance

/-- The host name with its domain, if it has one. -/
def fqdn (i : Instance) : String :=
  if i.domain.isEmpty then i.hostname else s!"{i.hostname}.{i.domain}"

/-- The private address, or else the public one. -/
def address? (i : Instance) : Option Address := i.primaryBackendIp.or i.primaryIp

/-- The names of the parts. -/
def fields : List String :=
  ["cid", "hostname", "domain", "start_cpus", "max_memory_mb", "primary_ip", "primary_backend_ip",
    "power_state", "private_vlan", "public_vlan", "active_transactions", "last_transaction",
    "block_devices", "network_components"]

instance : Wire Instance where
  encode i := .obj [("cid", encode i.cid), ("hostname", encode i.hostname),
    ("domain", encode i.domain), ("start_cpus", encode i.startCpus),
    ("max_memory_mb", encode i.maxMemoryMb), ("primary_ip", encode i.primaryIp),
    ("primary_backend_ip", encode i.primaryBackendIp), ("power_state", encode i.powerState),
    ("private_vlan", encode i.privateVlan), ("public_vlan", encode i.publicVlan),
    ("active_transactions", encode i.activeTransactions),
    ("last_transaction", encode i.lastTransaction), ("block_devices", encode i.blockDevices),
    ("network_components", encode i.networkComponents)]
  read room document := do
    let slots ← Slots.read fields room document
    return {
      cid := ← slots.required "cid"
      hostname := ← slots.required "hostname"
      domain := ← slots.required "domain"
      startCpus := ← slots.required "start_cpus"
      maxMemoryMb := ← slots.required "max_memory_mb"
      primaryIp := ← slots.optional "primary_ip"
      primaryBackendIp := ← slots.optional "primary_backend_ip"
      powerState := ← slots.optional "power_state"
      privateVlan := ← slots.optional "private_vlan"
      publicVlan := ← slots.optional "public_vlan"
      activeTransactions := ← slots.required "active_transactions"
      lastTransaction := ← slots.optional "last_transaction"
      blockDevices := ← slots.required "block_devices"
      networkComponents := ← slots.required "network_components" }

end Instance

end InstancePool
