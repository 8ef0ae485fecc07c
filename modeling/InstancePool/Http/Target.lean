import InstancePool.Http
import InstancePool.Http.Host

/-!
# Targets of requests

The URL of a request is a text that was put together from settings. What is sent is the URL that this
text is read as: blanks around it and line breaks in it are dropped, the scheme and the host are put in
lower case, a port that goes without saying is left out, points in the path are followed, and what may
not stand at its place is escaped.

* `Target`: a URL in parts; `Target.parse?` and `Target.render`;
* `Target.ofRequest`: where a request goes, which is without the login in its URL and with the pairs of
  its query; or why it cannot be sent (`Unsendable`).
-/

namespace InstancePool.Http

/-- Who is asked for what a URL names. -/
structure Authority where
  /-- A login, as it is written, or nothing. -/
  userInfo : List Char
  /-- A host, if one is named. -/
  host : Option Host
  /-- A port, if it is not the one of the scheme. -/
  port : Option Nat

/-- The text of an authority. -/
def Authority.render (a : Authority) : List Char :=
  (if a.userInfo.isEmpty then [] else a.userInfo ++ ['@']) ++
    (a.host.map Host.render).getD [] ++
    (a.port.map fun port => ':' :: Nat.toDigits 10 port).getD []

/-- A URL in parts. -/
structure Target where
  scheme : List Char
  authority : Option Authority
  path : List Char
  query : Option (List Char)
  fragment : Option (List Char)

namespace Target

/-! ## 1. Schemes -/

/-- The port that goes without saying. -/
def defaultPort (scheme : List Char) : Option Nat :=
  match String.ofList scheme with
  | "http" | "ws" => some 80
  | "https" | "wss" => some 443
  | "ftp" => some 21
  | _ => none

/-- Whether a scheme is the one of the files of a system. -/
def isFile (scheme : List Char) : Bool := scheme == ['f', 'i', 'l', 'e']

/-- Whether a scheme has hosts of the internet. A backslash is a slash in its URLs. -/
def isSpecial (scheme : List Char) : Bool := (defaultPort scheme).isSome || isFile scheme

/-- Whether a character may stand in a scheme after its first letter. -/
def inScheme (c : Char) : Bool := c.isAlphanum || ['+', '-', '.'].contains c

/-- A text cut at the colon after a scheme. -/
def cutScheme (cs : List Char) : Option (List Char × List Char) :=
  match cs.dropWhile inScheme with
  | ':' :: rest =>
    if cs.head?.any Char.isAlpha then some ((cs.takeWhile inScheme).map Char.toLower, rest)
    else none
  | _ => none

/-! ## 2. Authorities -/

/-- A text cut before the first colon outside brackets. -/
def cutPort (inBrackets : Bool) : List Char → List Char × List Char
  | [] => ([], [])
  | c :: cs =>
    if c = ':' ∧ !inBrackets then ([], c :: cs)
    else
      let (host, port) := cutPort (c == '[' || (inBrackets && c != ']')) cs
      (c :: host, port)

/-- The port that stands after a host, none if it goes without saying. -/
def portOf (scheme cs : List Char) : Option (Option Nat) :=
  let digits := cs.drop 1
  if digits.isEmpty then some none
  else if !digits.all Char.isDigit ∨ 65535 < Json.Document.decimal digits then none
  else some (some (Json.Document.decimal digits) |>.filter fun port => defaultPort scheme ≠ some port)

/-- A login as it is written: a name, and a password after a colon if it is not empty. -/
def userInfoOf (cs : List Char) : List Char :=
  let password := (cs.dropWhile (· != ':')).drop 1
  let text := Percent.encode Percent.inUserInfo
  text (cs.takeWhile (· != ':')) ++ (if password.isEmpty then [] else ':' :: text password)

/-- A text cut at its last at sign, if it has one. -/
def cutLogin (cs : List Char) : Option (List Char) × List Char :=
  if '@' ∈ cs then
    (some (cs.reverse.dropWhile (· != '@')).reverse.dropLast,
      (cs.reverse.takeWhile (· != '@')).reverse)
  else (none, cs)

/-- The authority that a text is. -/
def authorityOf (scheme cs : List Char) : Option Authority := do
  let (login, rest) := cutLogin cs
  let (host, port) := cutPort false rest
  let port ← portOf scheme port
  if host.isEmpty then
    if isSpecial scheme ∨ login.isSome ∨ rest ≠ [] then none
    else return { userInfo := [], host := none, port := none }
  else
    let host ← if isSpecial scheme then Host.parse? host else Host.parseOpaque? host
    return { userInfo := userInfoOf (login.getD []), host := some host, port }

/-! ## 3. Paths -/

/-- The segments that stay where they are. -/
def singleDots : List String := [".", "%2e"]

/-- The segments that go back by one. -/
def doubleDots : List String := ["..", ".%2e", "%2e.", "%2e%2e"]

/-- Whether a segment is a drive: a letter and a colon or a bar. -/
def isDrive : List Char → Bool
  | [letter, mark] => letter.isAlpha && (mark == ':' || mark == '|')
  | _ => false

/-- A path in reverse order without its last segment. A drive is never left. -/
def back (before : List (List Char)) : List (List Char) :=
  if before.head?.any isDrive then before else before.tail

/-- The segments of a path with those of points followed. The path so far is in reverse order. A path
    that ends in a segment of points ends in a slash. -/
def followDots (before : List (List Char)) : List (List Char) → List (List Char)
  | [] => before.reverse
  | segment :: rest =>
    let lower := String.ofList (segment.map Char.toLower)
    if doubleDots.contains lower then
      followDots (if rest.isEmpty then [] :: back before else back before) rest
    else if singleDots.contains lower then
      followDots (if rest.isEmpty then [] :: before else before) rest
    else followDots (Percent.encode Percent.inPath segment :: before) rest

/-- A path from the text after its first slash. -/
def pathOf (separates : Char → Bool) (cs : List Char) : List Char :=
  (followDots [] (Text.pieces separates cs)).flatMap ('/' :: ·)

/-! ## 4. Reading and writing -/

/-- A text cut at the first of the given characters, if it has one. -/
def cutAt (c : Char) (cs : List Char) : List Char × Option (List Char) :=
  (cs.takeWhile (· != c), (cs.dropWhile (· != c)).tail?)

/-- The text of a URL without blanks and controls around it, and without the line breaks and tabs in
    it. -/
def cleaned (cs : List Char) : List Char :=
  let isOuter (c : Char) : Bool := c.toNat ≤ 0x20
  ((cs.dropWhile isOuter).reverse.dropWhile isOuter).reverse.filter
    fun c => !(['\t', '\n', '\r'].contains c)

/-- The path of a file on a drive, with a colon after the drive, if a path is one. -/
def onDrive? : List Char → Option (List Char)
  | '/' :: letter :: mark :: rest =>
    if isDrive [letter, mark] ∧ rest.head?.all (· == '/') then some ('/' :: letter :: ':' :: rest)
    else none
  | _ => none

/-- The authority and the path of the URL of a file. A host has two slashes before it. The local host
    is not named, and a file on a drive is on no host. -/
def fileOf (separates : Char → Bool) (cs : List Char) : Option (Authority × List Char) := do
  let text := (cs.drop 2).takeWhile fun c => !separates c
  let hasHost := 2 ≤ (cs.takeWhile separates).length ∧ !text.isEmpty ∧ !isDrive text
  let host ← if hasHost then (Host.parse? text).map some else some none
  let rest := if hasHost then cs.drop (2 + text.length) else cs
  let path := pathOf separates (rest.dropWhile separates)
  match onDrive? path with
  | some path => return ({ userInfo := [], host := none, port := none }, path)
  | none =>
    let host := host.filter fun host => host.render ≠ "localhost".toList
    return ({ userInfo := [], host, port := none }, path)

/-- The authority and the path of a URL, from what stands between its scheme and its query. -/
def hierarchyOf (scheme cs : List Char) : Option (Option Authority × List Char) := do
  let separates (c : Char) : Bool := c == '/' || (isSpecial scheme && c == '\\')
  let withAuthority (cs : List Char) : Option (Option Authority × List Char) := do
    let authority ← authorityOf scheme (cs.takeWhile fun c => !separates c)
    let path := cs.dropWhile fun c => !separates c
    if path.isEmpty ∧ !isSpecial scheme then return (some authority, [])
    else return (some authority, pathOf separates (path.drop 1))
  if isFile scheme then (fileOf separates cs).map fun (authority, path) => (some authority, path)
  else if isSpecial scheme then withAuthority (cs.dropWhile separates)
  else
    match cs with
    | '/' :: '/' :: rest => withAuthority rest
    | '/' :: rest => return (none, pathOf separates rest)
    | _ => return (none, Percent.encode Percent.everywhere cs)

/-- The URL that a text is. -/
def parse? (url : String) : Option Target := do
  let (scheme, rest) ← cutScheme (cleaned url.toList)
  let (rest, fragment) := cutAt '#' rest
  let (rest, query) := cutAt '?' rest
  let (authority, path) ← hierarchyOf scheme rest
  let inQuery (c : Char) : Bool := Percent.inQuery c || (isSpecial scheme && c == '\'')
  return {
    scheme, authority, path
    query := query.map (Percent.encode inQuery)
    fragment := fragment.map (Percent.encode Percent.inFragment) }

/-- The text of a URL. A path that could be taken for an authority has a point before it. -/
def render (t : Target) : List Char :=
  let after (mark : Char) (part : Option (List Char)) : List Char := (part.map (mark :: ·)).getD []
  let authority :=
    match t.authority with
    | some authority => '/' :: '/' :: authority.render
    | none => if ['/', '/'].isPrefixOf t.path then ['/', '.'] else []
  t.scheme ++ ':' :: authority ++ t.path ++ after '?' t.query ++ after '#' t.fragment

instance : ToString Target := ⟨fun t => String.ofList t.render⟩

end Target

/-! ## 5. Requests -/

/-- Why a request cannot be sent. -/
inductive Unsendable where
  /-- Its URL is none. -/
  | noUrl
  /-- Its URL has no host, or another scheme than those of HTTP, or cannot be written in a request. -/
  | refused (target : Target)

/-- What is said about it. -/
def Unsendable.text : Unsendable → String
  | noUrl => "builder error"
  | refused target => s!"builder error for url ({target})"

namespace Target

/-- The host, if one is named. -/
def host? (t : Target) : Option Host := t.authority.bind (·.host)

/-- A URL without its login. One that is no text, or has no name and no password that is a text,
    stays. -/
def withoutLogin (t : Target) : Target :=
  let strip (a : Authority) : Authority :=
    let name := Percent.decodeText (a.userInfo.takeWhile (· != ':'))
    let password := Percent.decodeText ((a.userInfo.dropWhile (· != ':')).drop 1)
    match name with
    | none => a
    | some name => if name.isEmpty ∧ password.isNone then a else { a with userInfo := [] }
  { t with authority := t.authority.map strip }

/-- A URL with pairs at the end of its query. -/
def withPairs (t : Target) (pairs : List (String × String)) : Target :=
  if pairs.isEmpty then t
  else
    match t.query.filter fun query => !query.isEmpty with
    | some query => { t with query := some (query ++ '&' :: Percent.form pairs) }
    | none => { t with query := some (Percent.form pairs) }

/-- No request has a URL of more characters. -/
def lengthLimit : Nat := 65534

/-- Whether a URL can be written in a request. -/
def isWritable (t : Target) : Bool :=
  let isPlain (c : Char) : Bool := !(['"', '\x60', '{', '}'].contains c)
  t.render.length ≤ lengthLimit && t.host?.all fun host => host.render.all isPlain

/-- Where a request goes. -/
def ofRequest (request : Request) : Except Unsendable Target :=
  match parse? request.url with
  | none => .error .noUrl
  | some t =>
    if t.host?.isNone then .error (.refused t)
    else
      let t := (t.withoutLogin).withPairs request.query
      if ["http", "https"].contains (String.ofList t.scheme) ∧ t.isWritable then .ok t
      else .error (.refused t)

end Target

end InstancePool.Http
