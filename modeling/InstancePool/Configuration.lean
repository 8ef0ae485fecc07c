import InstancePool.Agent.Bootstrap
import InstancePool.Configuration.Environment
import InstancePool.Rest.CloudApi
import InstancePool.Rest.RegistryApi

/-!
# Configuration

Which services there are, how to wait, and what agents are told: all of it comes from variables. A
value that is blank counts as absent, and what is found wrong is told in one line.

* `Configuration.assemble`: the configuration of an environment, once the secret is read;
* `Configuration.read`, `Configuration.ofProcess`: the same with the files it takes;
* `Wiring`: the services that a configuration stands for.
-/

namespace InstancePool

/-! ## 1. Variables -/

/-- The login at the cloud, as it was configured. -/
structure Configuration.Cloud where
  username : String
  apiKey : String
  endpoint : Option String
deriving DecidableEq, Repr

/-- What is configured. -/
structure Configuration where
  provider : String
  cloud : Option Configuration.Cloud
  registryUrl : Option String
  site : Site
  hostsFile : Option String

namespace Configuration

/-- A whole number of seconds: digits, with an optional plus sign, up to what a word can hold. -/
def seconds? (s : String) : Option Nat :=
  let digits := if s.toList.head? = some '+' then s.toList.drop 1 else s.toList
  if digits.isEmpty ∨ !digits.all Char.isDigit then none
  else
    let n := Json.Document.decimal digits
    if n < UInt64.size then some n else none

/-- A time in seconds, if the variable is set. -/
def duration (env : Environment) (key : String) (default : Duration) : Except String Duration :=
  match env.filled key with
  | none => .ok default
  | some text =>
    match seconds? text with
    | some n => .ok (.ofSeconds n)
    | none => .error s!"{key} must be a number of seconds, got '{text}'"

/-- The file that holds the secret, if one is to be read. -/
def secretFile? (env : Environment) : Option String :=
  (env.filled "SOFTLAYER_USERNAME").bind fun _ => env.filled "SOFTLAYER_API_KEY_FILE"

/-- The login at the cloud. A secret from a file wins over one in a variable. -/
def cloudOf (env : Environment) (secret : Option String) : Except String (Option Cloud) :=
  match env.filled "SOFTLAYER_USERNAME" with
  | none => .ok none
  | some username =>
    match secret.or (env.filled "SOFTLAYER_API_KEY") with
    | none => .error "SOFTLAYER_API_KEY or SOFTLAYER_API_KEY_FILE is required"
    | some apiKey =>
      .ok (some { username, apiKey, endpoint := env.filled "SOFTLAYER_API_ENDPOINT" })

/-- How to wait. -/
def waitsOf (env : Environment) : Except String Waits := do
  let timeout ← duration env "VMPOOL_WAIT_TIMEOUT_SECS" ({} : Waits).timeout
  let interval ← duration env "VMPOOL_WAIT_INTERVAL_SECS" ({} : Waits).interval
  let reloadTimeout ← duration env "VMPOOL_OS_RELOAD_TIMEOUT_SECS" ({} : Waits).reloadTimeout
  if interval = 0 then .error "VMPOOL_WAIT_INTERVAL_SECS must be greater than zero"
  else return { timeout, interval, reloadTimeout }

/-- The login that instances get. The password is taken as it is. -/
def credentialOf (env : Environment) : Except String (Option Credential) :=
  match env.filled "VMPOOL_ADMIN_USER", env.get? "VMPOOL_ADMIN_PASSWORD" with
  | none, _ => .ok none
  | some username, some password => .ok (some { username, password })
  | some _, none => .error "VMPOOL_ADMIN_PASSWORD is required with VMPOOL_ADMIN_USER"

/-- The parts of a text between commas that are not blank. -/
def listOf (text : String) : List String :=
  (Text.pieces (· == ',') text.toList).filterMap fun piece => Text.filled (String.ofList piece)

/-- The provider that is used where none is given. -/
def defaultProvider : String := "softlayer"

/-- The configuration of an environment, with the secret that was read from a file. -/
def assemble (env : Environment) (secret : Option String) : Except String Configuration := do
  let provider := Text.lower ((env.filled "VMPOOL_PROVIDER").getD defaultProvider)
  let cloud ← cloudOf env secret
  if provider = "softlayer" ∧ cloud.isNone then
    .error "SOFTLAYER_USERNAME is required when VMPOOL_PROVIDER=softlayer"
  let waits ← waitsOf env
  let credential ← credentialOf env
  return {
    provider, cloud
    registryUrl := env.filled "VPS_URL"
    site := {
      waits
      agent := {
        mbus := (env.filled "VMPOOL_MBUS_URL").getD ({} : Agent.Options).mbus
        blobstore := env.filled "VMPOOL_BLOBSTORE_URL"
        ntp := ((env.filled "VMPOOL_NTP").map listOf).getD []
        credential } }
    hostsFile := env.filled "VMPOOL_HOSTS_FILE" }

/-- Reads the secret, where it stands in a file, and then the rest of the configuration. -/
def read (env : Environment) : Program Files (Except String Configuration) := do
  match secretFile? env with
  | none => return assemble env none
  | some path =>
    match ← Files.read path with
    | .ok text => return assemble env (some (Text.trim text))
    | .error _ => return .error s!"reading SOFTLAYER_API_KEY_FILE {path}"

/-- The configuration of a process with the given variables and working directory. The directories above
    that one are taken to hold no file of variables (`Environment.withFile`). -/
def ofProcess (env : Environment) (directory : String) :
    Program Files (Except String Configuration) := do
  read (← env.withFile directory)

end Configuration

/-! ## 2. Services -/

/-- Where the cloud is. -/
inductive Wiring.Cloud where
  | account (account : Rest.Account)
  | memory
deriving DecidableEq, Repr

/-- Where the registry is. -/
inductive Wiring.Registry where
  | url (base : String)
  | memory
deriving DecidableEq, Repr

/-- Where the addresses of hosts are recorded. -/
inductive Wiring.Aliases where
  | file (path : String)
  | memory
deriving DecidableEq, Repr

/-- Where each service is. -/
structure Wiring where
  cloud : Wiring.Cloud := .memory
  registry : Wiring.Registry := .memory
  aliases : Wiring.Aliases := .memory
deriving DecidableEq, Repr

namespace Configuration

/-- The cloud that is configured. -/
def wireCloud (c : Configuration) : Except String Wiring.Cloud :=
  match c.provider, c.cloud with
  | "softlayer", some login => .ok (.account (.of login.username login.apiKey login.endpoint))
  | "softlayer", none => .error "softlayer provider selected without credentials"
  | "mock", _ => .ok .memory
  | provider, _ => .error s!"unsupported or disabled provider '{provider}'"

/-- The registry that is configured. -/
def wireRegistry (c : Configuration) : Except String Wiring.Registry :=
  match c.registryUrl with
  | some url => (Rest.RegistryApi.base? url).map .url
  | none =>
    if c.provider = "mock" then .ok .memory
    else .error s!"VPS_URL is required for provider '{c.provider}'"

/-- The record of addresses that is configured. -/
def wireAliases (c : Configuration) : Wiring.Aliases :=
  match c.hostsFile with
  | some path => .file path
  | none => .memory

/-- The services that a configuration stands for. -/
def wire (c : Configuration) : Except String Wiring := do
  return { cloud := ← c.wireCloud, registry := ← c.wireRegistry, aliases := c.wireAliases }

end Configuration

end InstancePool
