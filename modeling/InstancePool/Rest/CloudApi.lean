import InstancePool.Http
import InstancePool.Rest.Guest
import InstancePool.Services

/-!
# The cloud over HTTP

How each call to the cloud becomes one or two requests, and their replies an answer.

* `Account`: where the cloud is found, and the login it takes;
* `accept`: what a reply is worth. One that did not come, broke off, reports failure or cannot be read
  is a fault;
* `CloudApi.answer`: the calls.
-/

namespace InstancePool.Rest

open Json (Reader encode record)

/-! ## 1. Requests and replies -/

/-- Where the cloud is found, and the login it takes. -/
structure Account where
  endpoint : String
  username : String
  apiKey : String
deriving DecidableEq, Repr

/-- The endpoint that is used where none is given. -/
def Account.defaultEndpoint : String := "https://api.softlayer.com/rest/v3.1"

/-- An account with the blanks around its parts removed. -/
def Account.of (username apiKey : String) (endpoint : Option String) : Account where
  endpoint :=
    let given := Text.trimEndOf '/' (Text.trim (endpoint.getD ""))
    if given.isEmpty then defaultEndpoint else given
  username := Text.trim username
  apiKey := Text.trim apiKey

/-- The URL of a method of a service, and of one of its objects. -/
def Account.url (a : Account) (service : String) (id : Option UInt64) (method : String) : String :=
  match id with
  | some id => s!"{a.endpoint}/{service}/{id}/{method}.json"
  | none => s!"{a.endpoint}/{service}/{method}.json"

/-- A request that failed on its way. -/
def lost (reason : String) : Fault := .cloud s!"SoftLayer request failed: {reason}"

/-- A body that cannot be read. What stands after the mark is left open: it would say what does not fit, and
    may quote it, and this one text stands for all of that. So only the kind and the mark of such a fault
    count; whether a quotation reads as a notice (`Disk.isPriceNotice`) is not followed. -/
def unreadable : Fault := .cloud "decoding payload: the value does not fit"

/-- What a failed request has to say: the message in its body, or else the body. -/
def failureText (body : String) : String :=
  match (Json.decode Json body).bind fun value => value.field? "error" with
  | some (.str message) => message
  | _ => body

/-- The value that a reply is worth. -/
def accept {α : Type} (read : Reader α) (url : String) : Http.Reply → Except Fault α
  | .lost reason => .error (lost reason)
  | .response _ (.broken reason) => .error (lost reason)
  | .response status (.complete body) =>
    let text := failureText body
    if status = 404 then .error (.notFound s!"SoftLayer {url} returned 404: {text}")
    else if !Http.isSuccess status then
      .error (.cloud s!"SoftLayer {url} failed: status={status} error={text}")
    else
      match read.run body with
      | some value => .ok value
      | none => .error unreadable

/-- Asks for a value. -/
def get {α : Type} (a : Account) (read : Reader α) (url : String) (query : List (String × String)) :
    Program Http α := do
  let reply ← Http.send { method := .get, url, query, login := some (a.username, a.apiKey) }
  .ofExcept (accept read url reply)

/-- Sends parameters, and answers what comes back. -/
def post {α : Type} (a : Account) (read : Reader α) (url : String) (parameters : List Json) :
    Program Http α := do
  let body := record [("parameters", .arr parameters)]
  let reply ← Http.send
    { method := .post, url, login := some (a.username, a.apiKey), body := some body }
  .ofExcept (accept read url reply)

/-! ## 2. Calls -/

namespace CloudApi

/-- The service of instances. -/
def guestService : String := "SoftLayer_Virtual_Guest"

/-- The parts of an instance that are asked for. -/
def guestMask : String :=
  "mask[id,hostname,domain,startCpus,maxMemory,primaryIpAddress,primaryBackendIpAddress," ++
    "powerState,activeTransactions[transactionGroup,transactionStatus]," ++
    "lastTransaction[transactionGroup,transactionStatus],blockDevices[diskImage]," ++
    "networkComponents,networkVlans[id,networkSpace]]"

/-- The parts of a transaction that are asked for. -/
def transactionMask : String := "mask[id,createDate,transactionGroup,transactionStatus]"

/-- The order for an instance. -/
def order (t : Template) : Json :=
  let vlan (id : UInt64) : Json := record [("networkVlan", record [("id", encode id)])]
  let always : List (String × Json) :=
    [("hostname", encode t.hostname), ("domain", encode t.domain),
      ("startCpus", encode t.startCpus), ("maxMemory", encode t.maxMemoryMb),
      ("datacenter", record [("name", encode t.datacenter)]),
      ("hourlyBillingFlag", encode t.hourlyBilling), ("localDiskFlag", encode t.localDisk),
      ("dedicatedAccountHostOnlyFlag", encode t.dedicatedHost),
      ("networkComponents", .arr [record [("maxSpeed", encode t.maxNetworkSpeed)]]),
      ("blockDeviceTemplateGroup", record [("globalIdentifier", encode t.imageId)])]
  let publicVlan := t.publicVlan.toList.map fun id => ("primaryNetworkComponent", vlan id)
  let privateVlan :=
    t.privateVlan.toList.map fun id => ("primaryBackendNetworkComponent", vlan id)
  let keys :=
    if t.sshKeyIds.isEmpty then []
    else [("sshKeys", Json.arr (t.sshKeyIds.map fun id => record [("id", encode id)]))]
  let userData := (t.userData.filter (· ≠ "")).toList.map fun text =>
    ("userData", Json.arr [record [("value", encode text)]])
  record (always ++ publicVlan ++ privateVlan ++ keys ++ userData)

/-- The order for an extra disk. -/
def diskOrder (cid price : UInt64) (now : Timestamp) : Json :=
  record [
    ("complexType", .str "SoftLayer_Container_Product_Order_Virtual_Guest_Upgrade"),
    ("virtualGuests", .arr [record [("id", encode cid)]]),
    ("prices", .arr [record [
      ("id", encode price),
      ("categories", .arr [record [
        ("categoryCode", .str extraDisk),
        ("complexType", .str "SoftLayer_Product_Item_Category")]])]]),
    ("properties", .arr [record [
      ("name", .str "MAINTENANCE_WINDOW"), ("value", .str now.renderOffset)]])]

/-- Orders an extra disk at its price. -/
def orderDisk (a : Account) (cid sizeGb : UInt64) : Program Http UInt64 := do
  let prices ← get a (.list price) (a.url guestService (some cid) "getUpgradeItemPrices")
    [("includeDownpaymentPriceFlag", "true"),
      ("objectMask", "mask[id,categories[categoryCode],item[capacity]]")]
  match pickPrice sizeGb prices with
  | none =>
    .fail (.new .resourceExhausted
      s!"no upgrade price for a {sizeGb}GB ephemeral disk on instance {cid}")
  | some price =>
    let now ← Http.timeOfDay
    post a orderReceipt (a.url "SoftLayer_Product_Order" none "placeOrder")
      [diskOrder cid price now, .bool true]

/-- The first instance with an address in a field. -/
def guestByAddress (a : Account) (field : String) (ip : Address) : Program Http Instance := do
  let filter := record [("virtualGuests", record [(field, record [("operation", encode ip)])])]
  let guests ← get a (.list guest) (a.url "SoftLayer_Account" none "getVirtualGuests")
    [("objectMask", guestMask), ("objectFilter", filter.render)]
  match guests with
  | [] => .fail (.notFound s!"no virtual guest with {field} {ip}")
  | guest :: _ => return guest

/-- The last transaction. Where there was none, the reply is null or an empty object. -/
def lastTransaction (a : Account) (cid : UInt64) : Program Http (Option Transaction) := do
  let value ← get a Reader.json (a.url guestService (some cid) "getLastTransaction")
    [("objectMask", transactionMask)]
  match value with
  | .null => return none
  | .obj [] => return none
  | value =>
    match transaction.runValue value with
    | some transaction => return some transaction
    | none => .fail unreadable

/-- Pushes the settings of an agent, as a text in a list of texts. -/
def pushSettings (a : Account) (cid : UInt64) (s : Agent.Settings) : Program Http Unit := do
  let accepted ← post a Reader.bool (a.url guestService (some cid) "setUserMetadata")
    [.arr [.str (encode s).render]]
  if !accepted then .fail (.cloud s!"SoftLayer refused user metadata for instance {cid}")

/-- Sets the password of a login that has to exist. -/
def setCredential (a : Account) (cid : UInt64) (c : Credential) : Program Http Unit := do
  let found ← get a logins (a.url guestService (some cid) "getOperatingSystem")
    [("objectMask", "mask[passwords]")]
  match found.find? fun login => login.2 == c.username with
  | none =>
    .fail (.new .credentialDisallowed s!"user '{c.username}' does not exist on instance {cid}")
  | some (id, _) =>
    let _ ← post a Reader.json (a.url "SoftLayer_Software_Component_Password" (some id) "editObject")
      [record [("password", encode c.password)]]

/-- Reboots an instance. -/
def reboot (a : Account) (cid : UInt64) : Program Http Unit := do
  let accepted ← get a Reader.bool (a.url guestService (some cid) "rebootSoft") []
  if !accepted then .fail (.cloud s!"SoftLayer refused soft reboot of {cid}")

/-- What a call is answered with. -/
def answer (a : Account) : (call : Cloud.Call) → Program Http call.operation.Result
  | .createInstance template =>
    post a guest (a.url guestService none "createObject") [order template]
  | .getInstance cid =>
    get a guest (a.url guestService (some cid) "getObject") [("objectMask", guestMask)]
  | .activeTransactions cid =>
    get a (.list transaction) (a.url guestService (some cid) "getActiveTransactions")
      [("objectMask", transactionMask)]
  | .lastTransaction cid => lastTransaction a cid
  | .powerState cid => do
    return .ofKey (← get a keyed (a.url guestService (some cid) "getPowerState") [])
  | .pingable cid => get a Reader.bool (a.url guestService (some cid) "isPingable") []
  | .attachDisk cid sizeGb => orderDisk a cid sizeGb
  | .blockDevices cid =>
    get a (.list blockDevice) (a.url guestService (some cid) "getBlockDevices")
      [("objectMask", "mask[id,device,diskImage[capacity]]")]
  | .instanceByPrivateIp ip => guestByAddress a "primaryBackendIpAddress" ip
  | .instanceByPublicIp ip => guestByAddress a "primaryIpAddress" ip
  | .reloadOs cid stemcell => do
    let _ ← post a Reader.json (a.url guestService (some cid) "reloadOperatingSystem")
      [.str "FORCE", record [("imageTemplateId", encode stemcell.id)]]
  | .pushSettings cid settings => pushSettings a cid settings
  | .setCredential cid credential => setCredential a cid credential
  | .reboot cid => reboot a cid

end CloudApi

end InstancePool.Rest
