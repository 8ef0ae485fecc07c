import InstancePool.Network
import InstancePool.Pool.Entry

/-!
# Requests

What a caller asks for: an agent's identity, a system image, the shape and place of the instance, its
networks and the agent's environment. From it come the two things that are sent on:

* `Request.template`: the order for a new instance;
* `Request.filter`: the question whether the pool has one that fits.
-/

namespace InstancePool

open Json (Wire encode Slots)

/-! ## 1. Requests -/

/-- A system image, by number and by global name. -/
structure Stemcell where
  id : UInt64
  uuid : String
deriving DecidableEq, Repr

/-- The shape and place of an instance. -/
structure Shape where
  cpu : UInt32
  memoryMb : UInt64
  hostnamePrefix : String
  domain : String
  datacenter : String
  hourlyBilling : Bool
  localDisk : Bool
  dedicatedHost : Bool
  maxNetworkSpeed : UInt32
  ephemeralDiskSizeGb : Option UInt64
  sshKeyIds : List UInt64
  userData : Option String
deriving DecidableEq, Repr

/-- A request for an instance. -/
structure Request where
  agentId : String
  stemcell : Stemcell
  shape : Shape
  networks : Dict String Network.Definition
  env : Json
  /-- An address under which the instance is reached from outside; it replaces the instance's own. -/
  externalIp : Option Address

instance : Wire Stemcell where
  encode s := .obj [("id", encode s.id), ("uuid", encode s.uuid)]
  read room document := do
    let slots ← Slots.read ["id", "uuid"] room document
    return { id := ← slots.required "id", uuid := ← slots.required "uuid" }

instance : Wire Shape where
  encode s := .obj [("cpu", encode s.cpu), ("memory_mb", encode s.memoryMb),
    ("hostname_prefix", encode s.hostnamePrefix), ("domain", encode s.domain),
    ("datacenter", encode s.datacenter), ("hourly_billing", encode s.hourlyBilling),
    ("local_disk", encode s.localDisk), ("dedicated_host", encode s.dedicatedHost),
    ("max_network_speed", encode s.maxNetworkSpeed),
    ("ephemeral_disk_size_gb", encode s.ephemeralDiskSizeGb),
    ("ssh_key_ids", encode s.sshKeyIds), ("user_data", encode s.userData)]
  read room document := do
    let slots ← Slots.read ["cpu", "memory_mb", "hostname_prefix", "domain", "datacenter",
      "hourly_billing", "local_disk", "dedicated_host", "max_network_speed",
      "ephemeral_disk_size_gb", "ssh_key_ids", "user_data"] room document
    return {
      cpu := ← slots.required "cpu"
      memoryMb := ← slots.required "memory_mb"
      hostnamePrefix := ← slots.defaulted "hostname_prefix" ""
      domain := ← slots.defaulted "domain" ""
      datacenter := ← slots.required "datacenter"
      hourlyBilling := ← slots.defaulted "hourly_billing" true
      localDisk := ← slots.defaulted "local_disk" true
      dedicatedHost := ← slots.defaulted "dedicated_host" false
      maxNetworkSpeed := ← slots.defaulted "max_network_speed" 10
      ephemeralDiskSizeGb := ← slots.defaulted "ephemeral_disk_size_gb" none
      sshKeyIds := ← slots.defaulted "ssh_key_ids" []
      userData := ← slots.defaulted "user_data" none }

instance : Wire Request where
  encode r := .obj [("agent_id", encode r.agentId), ("stemcell", encode r.stemcell),
    ("vm", encode r.shape), ("networks", encode r.networks), ("env", r.env),
    ("external_ip", encode r.externalIp)]
  read room document := do
    let slots ← Slots.read ["agent_id", "stemcell", "vm", "networks", "env", "external_ip"]
      room document
    return {
      agentId := ← slots.required "agent_id"
      stemcell := ← slots.required "stemcell"
      shape := ← slots.required "vm"
      networks := ← slots.required "networks"
      env := ← slots.defaulted "env" .null
      externalIp := ← slots.defaulted "external_ip" none }

/-! ## 2. Orders and questions -/

/-- An order for a new instance. -/
structure Template where
  hostname : String
  domain : String
  startCpus : UInt32
  maxMemoryMb : UInt64
  datacenter : String
  hourlyBilling : Bool
  localDisk : Bool
  dedicatedHost : Bool
  maxNetworkSpeed : UInt32
  imageId : String
  privateVlan : Option UInt64
  publicVlan : Option UInt64
  sshKeyIds : List UInt64
  userData : Option String
deriving DecidableEq, Repr

instance : Wire Template where
  encode t := .obj [("hostname", encode t.hostname), ("domain", encode t.domain),
    ("start_cpus", encode t.startCpus), ("max_memory_mb", encode t.maxMemoryMb),
    ("datacenter", encode t.datacenter), ("hourly_billing", encode t.hourlyBilling),
    ("local_disk", encode t.localDisk), ("dedicated_host", encode t.dedicatedHost),
    ("max_network_speed", encode t.maxNetworkSpeed), ("image_global_id", encode t.imageId),
    ("private_vlan_id", encode t.privateVlan), ("public_vlan_id", encode t.publicVlan),
    ("ssh_key_ids", encode t.sshKeyIds), ("user_data", encode t.userData)]
  read room document := do
    let slots ← Slots.read ["hostname", "domain", "start_cpus", "max_memory_mb", "datacenter",
      "hourly_billing", "local_disk", "dedicated_host", "max_network_speed", "image_global_id",
      "private_vlan_id", "public_vlan_id", "ssh_key_ids", "user_data"] room document
    return {
      hostname := ← slots.required "hostname"
      domain := ← slots.required "domain"
      startCpus := ← slots.required "start_cpus"
      maxMemoryMb := ← slots.required "max_memory_mb"
      datacenter := ← slots.required "datacenter"
      hourlyBilling := ← slots.required "hourly_billing"
      localDisk := ← slots.required "local_disk"
      dedicatedHost := ← slots.required "dedicated_host"
      maxNetworkSpeed := ← slots.required "max_network_speed"
      imageId := ← slots.required "image_global_id"
      privateVlan := ← slots.optional "private_vlan_id"
      publicVlan := ← slots.optional "public_vlan_id"
      sshKeyIds := ← slots.required "ssh_key_ids"
      userData := ← slots.optional "user_data" }

namespace Request

/-- A host name: what the request wants it to begin with, or `vm`, and a mark that makes it new. -/
def hostname (wanted mark : String) : String :=
  let stem := Text.trimEndOf '-' (Text.trim wanted)
  let stem := if stem.isEmpty then "vm" else stem
  s!"{stem}-{mark}"

/-- The order for a new instance of the given name. -/
def template (r : Request) (networks : Networks) (hostname : String) : Template where
  hostname := hostname
  domain := r.shape.domain
  startCpus := r.shape.cpu
  maxMemoryMb := r.shape.memoryMb
  datacenter := r.shape.datacenter
  hourlyBilling := r.shape.hourlyBilling
  localDisk := r.shape.localDisk
  dedicatedHost := r.shape.dedicatedHost
  maxNetworkSpeed := r.shape.maxNetworkSpeed
  imageId := r.stemcell.uuid
  privateVlan := networks.dynamic.vlans.privateId
  publicVlan := networks.dynamic.vlans.publicId
  sshKeyIds := r.shape.sshKeyIds
  userData := r.shape.userData

/-- The free entries of the pool that fit a request. -/
def filter (r : Request) (networks : Networks) : Pool.Filter where
  cpu := r.shape.cpu
  memoryMb := r.shape.memoryMb
  privateVlan := networks.privateVlan
  publicVlan := networks.publicVlan
  state := .free

/-- The size of the extra disk, if one is wanted. -/
def diskSize (r : Request) : Option UInt64 := r.shape.ephemeralDiskSizeGb.filter (0 < ·)

end Request

end InstancePool
