import InstancePool.Json.Reader

/-!
# Agent settings

Inside every instance runs an agent, and what it has to know is pushed to it as one document: who it
is, where it finds the message bus and the blob store, and which disks and networks it has.
-/

namespace InstancePool.Agent

open Json (Wire encode Slots)

/-- The disks of an instance, by the devices under which its agent finds them. -/
structure Disks where
  system : String
  ephemeral : Option String
  persistent : Dict String String
deriving DecidableEq

instance : Wire Disks where
  encode d := .obj [("system", encode d.system), ("ephemeral", encode d.ephemeral),
    ("persistent", encode d.persistent)]
  read room document := do
    let slots ← Slots.read ["system", "ephemeral", "persistent"] room document
    return {
      system := ← slots.required "system"
      ephemeral := ← slots.optional "ephemeral"
      persistent := ← slots.required "persistent" }

/-- A network as the agent sets it up. -/
structure Network where
  kind : String
  ip : Option String
  netmask : Option String
  gateway : Option String
  dns : List String
  default : List String
deriving DecidableEq, Repr

instance : Wire Network where
  encode n := .obj [("type", encode n.kind), ("ip", encode n.ip), ("netmask", encode n.netmask),
    ("gateway", encode n.gateway), ("dns", encode n.dns), ("default", encode n.default)]
  read room document := do
    let slots ← Slots.read ["type", "ip", "netmask", "gateway", "dns", "default"] room document
    return {
      kind := ← slots.required "type"
      ip := ← slots.optional "ip"
      netmask := ← slots.optional "netmask"
      gateway := ← slots.optional "gateway"
      dns := ← slots.required "dns"
      default := ← slots.required "default" }

/-- What an agent calls the instance it runs in. -/
structure Machine where
  name : String
deriving DecidableEq, Repr

instance : Wire Machine where
  encode m := .obj [("name", encode m.name)]
  read room document := do
    let slots ← Slots.read ["name"] room document
    return { name := ← slots.required "name" }

/-- All that an agent is told. -/
structure Settings where
  agentId : String
  machine : Machine
  mbus : String
  blobstore : Option String
  ntp : List String
  disks : Disks
  networks : Dict String Network
  env : Json

instance : Wire Settings where
  encode s := .obj [("agent_id", encode s.agentId), ("vm", encode s.machine),
    ("mbus", encode s.mbus), ("blobstore", encode s.blobstore), ("ntp", encode s.ntp),
    ("disks", encode s.disks), ("networks", encode s.networks), ("env", s.env)]
  read room document := do
    let slots ← Slots.read ["agent_id", "vm", "mbus", "blobstore", "ntp", "disks", "networks",
      "env"] room document
    return {
      agentId := ← slots.required "agent_id"
      machine := ← slots.required "vm"
      mbus := ← slots.required "mbus"
      blobstore := ← slots.optional "blobstore"
      ntp := ← slots.required "ntp"
      disks := ← slots.required "disks"
      networks := ← slots.required "networks"
      env := ← slots.required "env" }

end InstancePool.Agent
