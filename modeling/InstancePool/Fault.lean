import InstancePool.Duration

/-!
# Faults

Whatever goes wrong on the way to an instance is one kind of value. A `Fault` says what kind of thing
failed, the message it failed with, the frames of context it has travelled through, and whether the
caller may simply try again.

* `Fault.Kind`: the kinds, which callers act on;
* `Report`: one failure by itself;
* `Fault`: a failure and, where undoing it failed too, the failures of the undoing;
* `Fault.inContext`, `Fault.retryable`, `Fault.withKind`, `Fault.compensationFailed`: how a fault
  changes on its way up. None of them touches the root message, and only the last one starts anew.
-/

namespace InstancePool

/-- What kind of thing failed. -/
inductive Fault.Kind where
  /-- A remote call failed or its answer could not be read. -/
  | cloud
  | timeout
  /-- A request was accepted and could not be satisfied. -/
  | resourceExhausted
  | instanceNotFound
  | notSupported
  | invalidRequest
  | credentialDisallowed
  /-- No instance was created, so nothing was left behind. -/
  | creationFailed
  /-- A conditional write found another state than the expected one. -/
  | poolConflict
  /-- A compensating write failed: the registry no longer says what is the case. -/
  | poolInconsistent
  | cancelled
deriving DecidableEq, Repr

namespace Fault.Kind

/-- Every kind, in order. -/
def all : List Kind :=
  [cloud, timeout, resourceExhausted, instanceNotFound, notSupported, invalidRequest,
    credentialDisallowed, creationFailed, poolConflict, poolInconsistent, cancelled]

/-- The name of a kind where it is stored. -/
def name : Kind → String
  | cloud => "cloud"
  | timeout => "timeout"
  | resourceExhausted => "resource_exhausted"
  | instanceNotFound => "vm_not_found"
  | notSupported => "not_supported"
  | invalidRequest => "invalid_request"
  | credentialDisallowed => "credential_disallowed"
  | creationFailed => "vm_creation_failed"
  | poolConflict => "pool_conflict"
  | poolInconsistent => "pool_inconsistent"
  | cancelled => "cancelled"

/-- The tag by which callers tell kinds apart. -/
def tag : Kind → String
  | cloud => "cloud_error"
  | kind => kind.name

/-- The kind of a tag. -/
def ofTag? (tag : String) : Option Kind := all.find? (·.tag == tag)

/-- The kind of a name. -/
def ofName? (name : String) : Option Kind := all.find? (·.name == name)

end Fault.Kind

/-- One failure: its kind, the message it failed with, the frames around it from the innermost
    outwards, and whether trying again is safe. -/
structure Report where
  kind : Fault.Kind
  message : String
  context : List String
  canRetry : Bool
deriving DecidableEq, Repr

/-- The message with its frames before it, the outermost first. -/
def Report.render (r : Report) : String :=
  r.context.foldl (fun inner frame => s!"{frame}: {inner}") r.message

/-- A failure. Where its compensation failed as well, that failure follows, then the failure of the
    compensation's own compensation, and so on. -/
structure Fault extends Report where
  compensations : List Report
deriving DecidableEq, Repr

namespace Fault

/-! ## 1. Making faults -/

/-- A fault of a kind, without context. -/
def new (kind : Kind) (message : String) : Fault := ⟨⟨kind, message, [], false⟩, []⟩

/-- A remote call failed. -/
def cloud (message : String) : Fault := new .cloud message

/-- An instance or entry does not exist. -/
def notFound (message : String) : Fault := new .instanceNotFound message

/-- Something is not offered. -/
def notSupported (message : String) : Fault := new .notSupported message

/-- A request makes no sense. -/
def invalid (message : String) : Fault := new .invalidRequest message

/-- A wait ran out of time. -/
def timeout (cid : UInt64) (condition : String) (elapsed : Duration) : Fault :=
  let text := Duration.render elapsed
  new .timeout s!"timed out after {text} waiting for instance {cid} to reach condition '{condition}'"

/-- A wait was cancelled. -/
def cancelled (cid : UInt64) (condition : String) : Fault :=
  new .cancelled s!"wait for instance {cid} condition '{condition}' was cancelled"

/-! ## 2. Changing faults -/

/-- The failure of the compensation, if there was one. -/
def secondary (f : Fault) : Option Fault :=
  match f.compensations with
  | [] => none
  | first :: rest => some ⟨first, rest⟩

/-- The fault with one more frame around it. -/
def inContext (f : Fault) (frame : String) : Fault :=
  { f with context := f.context ++ [frame] }

/-- The fault with the given advice on trying again. -/
def retryable (f : Fault) (canRetry : Bool) : Fault := { f with canRetry }

/-- The fault as one of another kind. -/
def withKind (f : Fault) (kind : Kind) : Fault := { f with kind }

/-- The full text. -/
def render (f : Fault) : String := f.toReport.render

instance : ToString Fault := ⟨render⟩

/-- A failure whose compensating write failed too. It is never safe to try again. -/
def compensationFailed (cause compensation : Fault) : Fault where
  kind := .poolInconsistent
  message := s!"{cause}; compensating pool update also failed: {compensation}"
  context := []
  canRetry := false
  compensations := compensation.toReport :: compensation.compensations

@[simp] theorem secondary_compensationFailed (cause compensation : Fault) :
    (compensationFailed cause compensation).secondary = some compensation := rfl

end Fault

end InstancePool
