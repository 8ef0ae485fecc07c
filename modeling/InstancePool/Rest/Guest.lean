import InstancePool.Decimal.Literal
import InstancePool.Instance

/-!
# The cloud's own records

How the cloud writes instances, transactions, prices and logins, and what they are here. Its records
leave out what they have nothing to say on, and an address that cannot be read is none.
-/

namespace InstancePool.Rest

open Json (Reader Slots Wire)

/-! ## 1. Instances -/

/-- The name in a record that holds one. -/
def named : Reader String := fun room document => do
  (← Slots.read ["name"] room document).defaulted "name" ""

/-- The key in a record that holds one. -/
def keyed : Reader String := fun room document => do
  (← Slots.read ["keyName"] room document).required "keyName"

/-- A transaction. -/
def transaction : Reader Transaction := fun room document => do
  let slots ← Slots.read ["id", "createDate", "transactionGroup", "transactionStatus"] room document
  let id ← slots.required "id"
  let createdAt ← slots.optional "createDate"
  let group ← slots.optionalBy named "transactionGroup"
  let status ← slots.optionalBy named "transactionStatus"
  return { id, group, status, createdAt }

/-- The capacity in the record of a disk image. -/
def diskImage : Reader (Option UInt64) := fun room document => do
  (← Slots.read ["capacity"] room document).optional "capacity"

/-- A disk. -/
def blockDevice : Reader BlockDevice := fun room document => do
  let slots ← Slots.read ["id", "device", "diskImage"] room document
  let id ← slots.required "id"
  let device ← slots.defaulted "device" ""
  let image ← slots.optionalBy diskImage "diskImage"
  return { id, device, capacityGb := image.join }

/-- The address in a text, if there is one. -/
def addressIn (text : Option String) : Option Address :=
  text.bind fun text => Address.parse? (Text.trim text)

/-- A network port. -/
def networkComponent : Reader NetworkComponent := fun room document => do
  let slots ← Slots.read ["id", "port", "primaryIpAddress", "maxSpeed", "networkVlanId"]
    room document
  let id ← slots.required "id"
  let port ← slots.defaulted "port" 0
  let ip ← slots.optional "primaryIpAddress"
  let maxSpeed ← slots.optional "maxSpeed"
  let vlanId ← slots.optional "networkVlanId"
  return { id, port, primaryIp := addressIn ip, maxSpeed, vlanId }

/-- A VLAN: its number, and the space it belongs to. -/
def vlan : Reader (UInt64 × Option String) := fun room document => do
  let slots ← Slots.read ["id", "networkSpace"] room document
  let id ← slots.required "id"
  let space ← slots.optional "networkSpace"
  return (id, space)

/-- The first VLAN of a space. -/
def vlanIn (space : String) (vlans : List (UInt64 × Option String)) : Option UInt64 :=
  (vlans.find? fun v => v.2 == some space).map (·.1)

/-- An instance. -/
def guest : Reader Instance := fun room document => do
  let slots ← Slots.read ["id", "hostname", "domain", "startCpus", "maxMemory", "primaryIpAddress",
    "primaryBackendIpAddress", "powerState", "activeTransactions", "lastTransaction",
    "blockDevices", "networkComponents", "networkVlans"] room document
  let cid ← slots.required "id"
  let hostname ← slots.defaulted "hostname" ""
  let domain ← slots.defaulted "domain" ""
  let startCpus ← slots.defaulted "startCpus" 0
  let maxMemoryMb ← slots.defaulted "maxMemory" 0
  let ip ← slots.optional "primaryIpAddress"
  let backendIp ← slots.optional "primaryBackendIpAddress"
  let power ← slots.optionalBy keyed "powerState"
  let active ← slots.defaultedBy (.list transaction) "activeTransactions" []
  let last ← slots.optionalBy transaction "lastTransaction"
  let devices ← slots.defaultedBy (.list blockDevice) "blockDevices" []
  let components ← slots.defaultedBy (.list networkComponent) "networkComponents" []
  let vlans ← slots.defaultedBy (.list vlan) "networkVlans" []
  return {
    cid, hostname, domain, startCpus, maxMemoryMb
    primaryIp := addressIn ip
    primaryBackendIp := addressIn backendIp
    powerState := power.map PowerState.ofKey
    privateVlan := vlanIn "PRIVATE" vlans
    publicVlan := vlanIn "PUBLIC" vlans
    activeTransactions := active
    lastTransaction := last
    blockDevices := devices
    networkComponents := components }

/-! ## 2. Prices, orders and logins -/

/-- A price of an upgrade: its number, its categories, and the capacity it is for. -/
structure Price where
  id : UInt64
  categories : List String
  capacity : Option Json

/-- The code of a category. -/
def category : Reader String := fun room document => do
  (← Slots.read ["categoryCode"] room document).required "categoryCode"

/-- The capacity of what a price is for. -/
def item : Reader (Option Json) := fun room document => do
  (← Slots.read ["capacity"] room document).optional "capacity"

/-- A price. -/
def price : Reader Price := fun room document => do
  let slots ← Slots.read ["id", "categories", "item"] room document
  let id ← slots.required "id"
  let categories ← slots.defaultedBy (.list category) "categories" []
  let item ← slots.optionalBy item "item"
  return { id, categories, capacity := item.join }

/-- A capacity, which is quoted as a number or as a text, in whole gigabytes. -/
def capacityGb : Json → Option UInt64
  | .int n => some (Decimal.Extended.ofRatio (n < 0) n.natAbs 1).toWord
  | .float x => some x.toWord
  | .str s => (Decimal.Extended.parse? (Text.trim s)).map (·.toWord)
  | _ => none

/-- The category of the extra disk. -/
def extraDisk : String := "guest_disk1"

/-- The first price for an extra disk of the given size. -/
def pickPrice (sizeGb : UInt64) (prices : List Price) : Option UInt64 :=
  ((prices.filter (·.categories.contains extraDisk)).find? fun p =>
    p.capacity.bind capacityGb == some sizeGb).map (·.id)

/-- The number in the receipt of an order. -/
def orderReceipt : Reader UInt64 := fun room document => do
  (← Slots.read ["orderId"] room document).defaulted "orderId" 0

/-- A login: the number of its record, and its user. -/
def login : Reader (UInt64 × String) := fun room document => do
  let slots ← Slots.read ["id", "username"] room document
  let id ← slots.required "id"
  let username ← slots.defaulted "username" ""
  return (id, username)

/-- The logins of an operating system. -/
def logins : Reader (List (UInt64 × String)) := fun room document => do
  (← Slots.read ["passwords"] room document).defaultedBy (.list login) "passwords" []

end InstancePool.Rest
