import InstancePool.Program
import InstancePool.Timestamp

/-!
# HTTP

The cloud and the registry are reached over HTTP. A program over `Http` sends requests and is told the
time of day; a reply may not come at all, and a body may break off.
-/

namespace InstancePool

namespace Http

/-- What a request does. -/
inductive Method where
  | get
  | post
  | put
deriving DecidableEq, Repr

/-- The name of a method. -/
def Method.name : Method → String
  | get => "GET"
  | post => "POST"
  | put => "PUT"

/-- A request. -/
structure Request where
  method : Method
  url : String
  query : List (String × String) := []
  /-- A user and a password. -/
  login : Option (String × String) := none
  body : Option Json := none

/-- What came of a response's body. -/
inductive Body where
  | complete (text : String)
  /-- The body broke off, and why. -/
  | broken (reason : String)
deriving DecidableEq, Repr

/-- What came of a request. -/
inductive Reply where
  /-- No response, and why. -/
  | lost (reason : String)
  | response (status : Nat) (body : Body)
deriving DecidableEq, Repr

/-- Whether a status reports success. -/
def isSuccess (status : Nat) : Bool := 200 ≤ status && status < 300

/-- A question of a program over HTTP. -/
inductive Query where
  | send (request : Request)
  | timeOfDay

end Http

/-- Requests, and the time of day. -/
@[reducible] def Http : Interface where
  Query := Http.Query
  Reply
    | .send _ => Http.Reply
    | .timeOfDay => Timestamp

namespace Http

/-- Sends a request. -/
def send (request : Request) : Program Http Reply := .ask (.send request) .done

/-- The time of day. -/
def timeOfDay : Program Http Timestamp := .ask .timeOfDay .done

end Http

end InstancePool
