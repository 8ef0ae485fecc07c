import InstancePool.Address
import InstancePool.Fault

/-!
# URLs

An address of the message bus names a host that is only a stand-in, and every instance puts itself in
its place. For that a URL is cut into its parts, and only as far as needed:

* the scheme is what stands before the first `://`;
* the path starts at the first `/` after that, and the user info ends with the last `@` before it;
* the port starts after the bracket that closes a host in brackets, or at the last colon.

`Url.parse?` cuts, `Url.render` puts together again, and nothing is lost in between.
-/

namespace InstancePool

/-- A URL in parts. The user info ends with an at sign unless it is empty, the port starts with a
    colon unless it is empty or follows a bracket. -/
structure Url where
  scheme : List Char
  userInfo : List Char
  host : List Char
  port : List Char
  path : List Char
deriving DecidableEq, Repr

namespace Url

/-- A text cut at the first `://`. -/
def cutScheme : List Char → Option (List Char × List Char)
  | ':' :: '/' :: '/' :: rest => some ([], rest)
  | c :: rest => (cutScheme rest).map fun (scheme, rest) => (c :: scheme, rest)
  | [] => none

/-- The end of a text from the last of the given characters on, or nothing. -/
def fromLast (c : Char) (cs : List Char) : List Char :=
  if c ∈ cs then c :: (cs.reverse.takeWhile (· != c)).reverse else []

/-- The start of a text up to the last of the given characters and with it, or nothing. -/
def throughLast (c : Char) (cs : List Char) : List Char := (cs.reverse.dropWhile (· != c)).reverse

/-- The rest of a text after the last of the given characters, or all of it. -/
def afterLast (c : Char) (cs : List Char) : List Char := (cs.reverse.takeWhile (· != c)).reverse

/-- The port in a host with its port. -/
def portOf (hostPort : List Char) : List Char :=
  if hostPort.head? = some '[' then (hostPort.dropWhile (· != ']')).drop 1
  else fromLast ':' hostPort

/-- The parts of a URL, if it has a scheme. -/
def parse? (url : List Char) : Option Url :=
  (cutScheme url).map fun (scheme, rest) =>
    let authority := rest.takeWhile (· != '/')
    let hostPort := afterLast '@' authority
    let port := portOf hostPort
    { scheme := scheme
      userInfo := throughLast '@' authority
      host := hostPort.take (hostPort.length - port.length)
      port := port
      path := rest.dropWhile (· != '/') }

/-- The text of a URL. -/
def render (u : Url) : List Char :=
  u.scheme ++ [':', '/', '/'] ++ u.userInfo ++ u.host ++ u.port ++ u.path

/-- A URL with another host and all else as it was. -/
def replaceHost (url : String) (host : Address) : Except Fault String :=
  match parse? url.toList with
  | some parts => .ok (String.ofList { parts with host := host.urlHost.toList }.render)
  | none => .error (.invalid s!"malformed URL '{url}'")

end Url

end InstancePool
