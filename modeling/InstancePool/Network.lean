import InstancePool.Address
import InstancePool.Fault

/-!
# Networks

A request names the networks its instance is to join. Exactly one of them is dynamic: the cloud
assigns its address, and its VLANs choose the instance. The others are manual, with an address of
their own, or of no kind, and then they are skipped. This file holds the definitions and the one
place where they are sorted by kind (`Networks.select`).
-/

namespace InstancePool

open Json (Wire encode Slots)

/-! ## 1. Definitions -/

/-- How a network gets its address. -/
inductive Network.Kind where
  | dynamic
  | manual
  | vip
  /-- An empty or unknown kind. -/
  | unspecified
deriving DecidableEq, Repr

namespace Network

/-- The name of a kind. -/
def Kind.name : Kind → String
  | dynamic => "dynamic"
  | manual => "manual"
  | vip => "vip"
  | unspecified => "unspecified"

/-- The kind of a name, whatever it is. -/
def Kind.ofName : String → Kind
  | "dynamic" => dynamic
  | "manual" => manual
  | "vip" => vip
  | _ => unspecified

instance : Wire Kind where
  encode k := .str k.name
  read := Json.Reader.choice fun name => some (Kind.ofName name)

/-- The VLANs of a network. -/
structure Vlans where
  privateId : Option UInt64
  publicId : Option UInt64
deriving DecidableEq, Repr

/-- No VLANs. -/
def Vlans.none : Vlans := ⟨.none, .none⟩

instance : Wire Vlans where
  encode v := .obj [("private_vlan_id", encode v.privateId), ("public_vlan_id", encode v.publicId)]
  read room document := do
    let slots ← Slots.read ["private_vlan_id", "public_vlan_id"] room document
    return {
      privateId := ← slots.defaulted "private_vlan_id" .none
      publicId := ← slots.defaulted "public_vlan_id" .none }

/-- A network as the request defines it. -/
structure Definition where
  kind : Kind
  ip : Option Address
  netmask : Option String
  gateway : Option Address
  dns : List String
  default : List String
  vlans : Vlans
deriving DecidableEq

instance : Wire Definition where
  encode d := .obj [("type", encode d.kind), ("ip", encode d.ip), ("netmask", encode d.netmask),
    ("gateway", encode d.gateway), ("dns", encode d.dns), ("default", encode d.default),
    ("cloud_properties", encode d.vlans)]
  read room document := do
    let slots ← Slots.read ["type", "ip", "netmask", "gateway", "dns", "default",
      "cloud_properties"] room document
    return {
      kind := ← slots.defaulted "type" .unspecified
      ip := ← slots.defaulted "ip" .none
      netmask := ← slots.defaulted "netmask" .none
      gateway := ← slots.defaulted "gateway" .none
      dns := ← slots.defaulted "dns" []
      default := ← slots.defaulted "default" []
      vlans := ← slots.defaulted "cloud_properties" .none }

end Network

/-! ## 2. Sorting by kind -/

/-- The networks of a request by kind: the dynamic one, and the manual ones in the order of their
    names. -/
structure Networks where
  dynamicName : String
  dynamic : Network.Definition
  manual : List (String × Network.Definition)
deriving DecidableEq

namespace Networks

/-- The definitions of one kind, in the order of their names. -/
def ofKind (kind : Network.Kind) (networks : Dict String Network.Definition) :
    List (String × Network.Definition) :=
  networks.entries.filter (·.2.kind == kind)

/-- Sorts networks by kind. A virtual address is never accepted, whatever else is wrong, and the
    first one by name is the one that is reported. -/
def select (networks : Dict String Network.Definition) : Except Fault Networks :=
  match ofKind .vip networks with
  | (name, _) :: _ =>
    .error (.notSupported s!"network '{name}': vip networks are not supported")
  | [] =>
    match ofKind .dynamic networks with
    | [(name, definition)] => .ok ⟨name, definition, ofKind .manual networks⟩
    | found =>
      let count := found.length
      .error (.invalid s!"exactly one dynamic network is required, found {count}")

/-- The address pinned on the dynamic network. -/
def fixedIp (n : Networks) : Option Address := n.dynamic.ip

/-- The private VLAN by which an instance is chosen. -/
def privateVlan (n : Networks) : UInt64 := n.dynamic.vlans.privateId.getD 0

/-- The public VLAN by which an instance is chosen. -/
def publicVlan (n : Networks) : UInt64 := n.dynamic.vlans.publicId.getD 0

end Networks

end InstancePool
