import InstancePool.Instance

/-!
# Pool entries

The pool registry keeps a record of every instance that is shared out. This file holds the record,
its life, and the question that finds one:

* `Pool.State`: free, being prepared, or in use, and which of these may follow which;
* `Pool.Entry`: the record of an instance, with the shape by which it is chosen;
* `Pool.Filter`: the shape and state that are looked for.
-/

namespace InstancePool

open Json (Wire encode Slots)

/-! ## 1. States -/

/-- How far an instance of the pool is handed out. -/
inductive Pool.State where
  | free
  | provisioning
  | using
deriving DecidableEq, Repr

namespace Pool.State

/-- The name of a state. -/
def name : State → String
  | .free => "free"
  | .provisioning => "provisioning"
  | .using => "using"

/-- The state of a name. -/
def ofName? : String → Option State
  | "free" => some .free
  | "provisioning" => some .provisioning
  | "using" => some .using
  | _ => none

instance : ToString State := ⟨name⟩

/-- Whether a state may follow another: an instance is claimed, taken into use and released, and a
    claim may be given back. -/
def allows : State → State → Bool
  | .free, .provisioning => true
  | .provisioning, .using => true
  | .using, .free => true
  | .provisioning, .free => true
  | _, _ => false

instance : Wire State where
  encode s := .str s.name
  read := Json.Reader.choice ofName?

end Pool.State

/-! ## 2. Entries and filters -/

namespace Pool

/-- The record of an instance in the pool. -/
structure Entry where
  cid : UInt64
  cpu : UInt32
  memoryMb : UInt64
  ip : Option Address
  hostname : String
  privateVlan : UInt64
  publicVlan : UInt64
  state : State
deriving DecidableEq

/-- The record of an instance as it is now. -/
def Entry.ofInstance (i : Instance) (state : State) : Entry where
  cid := i.cid
  cpu := i.startCpus
  memoryMb := i.maxMemoryMb
  ip := i.address?
  hostname := i.fqdn
  privateVlan := i.privateVlan.getD 0
  publicVlan := i.publicVlan.getD 0
  state := state

/-- The shape and state of the entries that are looked for. -/
structure Filter where
  cpu : UInt32
  memoryMb : UInt64
  privateVlan : UInt64
  publicVlan : UInt64
  state : State
deriving DecidableEq, Repr

/-- Whether an entry is one of those looked for. -/
def Filter.accepts (f : Filter) (e : Entry) : Bool :=
  e.cpu == f.cpu && e.memoryMb == f.memoryMb && e.privateVlan == f.privateVlan &&
    e.publicVlan == f.publicVlan && e.state == f.state

instance : Wire Entry where
  encode e := .obj [("cid", encode e.cid), ("cpu", encode e.cpu), ("memory_mb", encode e.memoryMb),
    ("ip", encode e.ip), ("hostname", encode e.hostname), ("private_vlan", encode e.privateVlan),
    ("public_vlan", encode e.publicVlan), ("state", encode e.state)]
  read room document := do
    let slots ← Slots.read ["cid", "cpu", "memory_mb", "ip", "hostname", "private_vlan",
      "public_vlan", "state"] room document
    return {
      cid := ← slots.required "cid"
      cpu := ← slots.required "cpu"
      memoryMb := ← slots.required "memory_mb"
      ip := ← slots.optional "ip"
      hostname := ← slots.required "hostname"
      privateVlan := ← slots.required "private_vlan"
      publicVlan := ← slots.required "public_vlan"
      state := ← slots.required "state" }

instance : Wire Filter where
  encode f := .obj [("cpu", encode f.cpu), ("memory_mb", encode f.memoryMb),
    ("private_vlan", encode f.privateVlan), ("public_vlan", encode f.publicVlan),
    ("state", encode f.state)]
  read room document := do
    let slots ← Slots.read ["cpu", "memory_mb", "private_vlan", "public_vlan", "state"] room document
    return {
      cpu := ← slots.required "cpu"
      memoryMb := ← slots.required "memory_mb"
      privateVlan := ← slots.required "private_vlan"
      publicVlan := ← slots.required "public_vlan"
      state := ← slots.required "state" }

end Pool

end InstancePool
