import InstancePool.Fault
import InstancePool.Json.Reader
import InstancePool.Text.Blank

/-!
# Credentials

The administrative login that an instance gets once it is set up, and the policy that decides
whether one may be used at all.
-/

namespace InstancePool

open Json (Wire encode Slots)

/-- A login. -/
structure Credential where
  username : String
  password : String
deriving DecidableEq, Repr

namespace Credential

/-- The fewest characters of a password. -/
def minPasswordLength : Nat := 8

/-- Accepts a credential with a name and a password that is long enough, counted in characters. -/
def validate (c : Credential) : Except Fault Unit :=
  if (Text.trim c.username).isEmpty then
    .error (.new .credentialDisallowed "credential username must not be empty")
  else if c.password.length < minPasswordLength then
    .error (.new .credentialDisallowed
      s!"credential password for '{c.username}' must be at least {minPasswordLength} characters")
  else .ok ()

instance : Wire Credential where
  encode c := .obj [("username", encode c.username), ("password", encode c.password)]
  read room document := do
    let slots ← Slots.read ["username", "password"] room document
    return { username := ← slots.required "username", password := ← slots.required "password" }

end Credential

end InstancePool
