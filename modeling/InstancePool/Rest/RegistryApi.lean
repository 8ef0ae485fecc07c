import InstancePool.Http
import InstancePool.Services

/-!
# The registry over HTTP

How each call to the registry of the pool becomes a request, and its reply an answer. The registry
says 404 where it knows nothing, and 409 or 412 where a state is not the expected one.
-/

namespace InstancePool.Rest.RegistryApi

open Json (Reader encode)

/-- The base of the registry's URLs, without blanks around it and slashes at its end. -/
def base? (url : String) : Except String String :=
  let base := Text.trimEndOf '/' (Text.trim url)
  if base.isEmpty then .error "pool registry URL must not be empty" else .ok base

/-- A request that failed on its way. -/
def lost (reason : String) : Fault := .cloud s!"pool registry request failed: {reason}"

/-- The kind of fault that a status stands for. -/
def kindOf (status : Nat) : Fault.Kind :=
  if status = 404 then .instanceNotFound
  else if status = 409 ∨ status = 412 then .poolConflict
  else .cloud

/-- The fault of a reply that reports failure. A body that broke off is empty. -/
def refused (op : Operation) (status : Nat) (body : Http.Body) : Fault :=
  let text :=
    match body with
    | .complete text => text
    | .broken _ => ""
  .new (kindOf status) s!"pool registry {op.name} failed: status={status} body={text}"

/-- The value in the body of a reply that reports success. -/
def valueOf {α : Type} (read : Reader α) : Http.Body → Except Fault α
  | .complete text =>
    match read.run text with
    | some value => .ok value
    | none => .error (lost "error decoding response body")
  | .broken reason => .error (lost reason)

/-- What a reply is worth: the value of its body if it reports success, and `absent`, if there is such
    a value, where the registry knows nothing. -/
def accept {α : Type} (op : Operation) (absent : Option α) (read : Http.Body → Except Fault α) :
    Http.Reply → Except Fault α
  | .lost reason => .error (lost reason)
  | .response status body =>
    match absent.filter fun _ => status = 404 with
    | some value => .ok value
    | none =>
      if Http.isSuccess status then read body else .error (refused op status body)

/-- The change of a state, as it is sent. -/
def change (expected : Option Pool.State) (next : Pool.State) : Json :=
  .obj (("state", encode next) :: expected.toList.map fun state => ("expected_state", encode state))

/-- What a call is answered with. -/
def answer (base : String) : (call : Registry.Call) → Program Http call.operation.Result
  | .findEntries filter => do
    let reply ← Http.send
      { method := .post, url := s!"{base}/vms/filter", body := some (encode filter) }
    .ofExcept (accept .findEntries (some []) (valueOf (.list Json.Wire.read)) reply)
  | .addEntry entry => do
    let reply ← Http.send { method := .post, url := s!"{base}/vms", body := some (encode entry) }
    .ofExcept (accept .addEntry none (fun _ => .ok ()) reply)
  | .updateState cid expected next => do
    let reply ← Http.send
      { method := .put, url := s!"{base}/vms/{cid}/state", body := some (change expected next) }
    .ofExcept (accept .updateState none (fun _ => .ok ()) reply)
  | .getEntry cid => do
    let reply ← Http.send { method := .get, url := s!"{base}/vms/{cid}" }
    .ofExcept (accept .getEntry (some none) (fun body => (valueOf Json.Wire.read body).map some) reply)

end InstancePool.Rest.RegistryApi
