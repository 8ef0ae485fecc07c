import InstancePool.Json.Reader
import InstancePool.Text.Blank

/-!
# Addresses

An instance is reached at an IPv4 or an IPv6 address. This file fixes both as numbers, and as text:

* `Address`: four octets, or eight groups of sixteen bits;
* `Address.parse?`: strict reading; no leading zeros in octets, no blanks, ports, brackets or zones,
  and at most one `::`, which stands for at least one group;
* `Address.render`: the one text that is written; the first longest run of two or more zero groups
  becomes `::`, and an IPv4 address mapped into IPv6 keeps its dots;
* `Address.isPrivate`: the ranges that are not routed publicly.
-/

namespace InstancePool

/-- An IPv4 or IPv6 address. -/
inductive Address where
  | v4 (a b c d : UInt8)
  | v6 (groups : List UInt16) (length_eq : groups.length = 8)
deriving DecidableEq

namespace Address

instance : Inhabited Address := ⟨.v4 0 0 0 0⟩

/-! ## 1. Reading -/

/-- One octet: up to three digits, without a leading zero. -/
def octet (cs : List Char) : Option UInt8 :=
  if cs.isEmpty ∨ 3 < cs.length ∨ !cs.all Char.isDigit then none
  else if cs.head? = some '0' ∧ 1 < cs.length then none
  else
    let n := Json.Document.decimal cs
    if n < 256 then some (UInt8.ofNat n) else none

/-- Four octets between points. -/
def octets (cs : List Char) : Option (UInt8 × UInt8 × UInt8 × UInt8) :=
  match Text.pieces (· == '.') cs with
  | [a, b, c, d] => do return (← octet a, ← octet b, ← octet c, ← octet d)
  | _ => none

/-- One group: up to four hexadecimal digits. -/
def group (cs : List Char) : Option UInt16 :=
  if cs.isEmpty ∨ 4 < cs.length then none
  else
    (cs.foldlM (fun n c => (Json.Document.hexValue c).map (n * 16 + ·)) 0).map UInt16.ofNat

/-- Two octets as one group. -/
def pair (high low : UInt8) : UInt16 := UInt16.ofNat (high.toNat * 256 + low.toNat)

/-- The groups of texts between colons. Where `dotted`, the last one may be an IPv4 address, which
    stands for two groups. -/
def groupsOf (dotted : Bool) : List (List Char) → Option (List UInt16)
  | [] => some []
  | [last] =>
    match (if dotted then octets last else none) with
    | some (a, b, c, d) => some [pair a b, pair c d]
    | none => (group last).map ([·])
  | first :: rest => do return (← group first) :: (← groupsOf dotted rest)

/-- The groups of a text, none if it is empty. -/
def groupsIn (dotted : Bool) (cs : List Char) : Option (List UInt16) :=
  if cs.isEmpty then some [] else groupsOf dotted (Text.pieces (· == ':') cs)

/-- A text cut at the first `::`, if it has one. -/
def cutDouble : List Char → Option (List Char × List Char)
  | ':' :: ':' :: rest => some ([], rest)
  | c :: rest => (cutDouble rest).map fun (before, after) => (c :: before, after)
  | [] => none

/-- The address of eight groups. -/
def ofGroups (groups : List UInt16) : Option Address :=
  if h : groups.length = 8 then some (.v6 groups h) else none

/-- An IPv6 address: eight groups, or fewer around one `::`. -/
def parseV6 (cs : List Char) : Option Address := do
  match cutDouble cs with
  | none => ofGroups (← groupsIn true cs)
  | some (before, after) =>
    let front ← groupsIn false before
    let back ← groupsIn true after
    if front.length + back.length ≤ 7 then
      ofGroups (front ++ List.replicate (8 - front.length - back.length) 0 ++ back)
    else none

/-- The address that a text is. -/
def parse? (s : String) : Option Address :=
  match octets s.toList with
  | some (a, b, c, d) => some (.v4 a b c d)
  | none => parseV6 s.toList

/-! ## 2. Writing -/

/-- Four octets with points. -/
def renderOctets (a b c d : UInt8) : List Char :=
  let text (n : UInt8) := Nat.toDigits 10 n.toNat
  text a ++ '.' :: text b ++ '.' :: text c ++ '.' :: text d

/-- Groups in lower-case hexadecimal with colons between them. -/
def renderGroups : List UInt16 → List Char
  | [] => []
  | [g] => Nat.toDigits 16 g.toNat
  | g :: rest => Nat.toDigits 16 g.toNat ++ ':' :: renderGroups rest

/-- The first longest run of zero groups: where it starts, and its length. -/
def longestRun (start : Nat) : List UInt16 → Nat × Nat
  | [] => (start, 0)
  | g :: rest =>
    let here := ((g :: rest).takeWhile (· == 0)).length
    let later := longestRun (start + 1) rest
    if here < later.2 then later else (start, here)

/-- Eight groups, the first longest run of two or more zeros written as `::`. -/
def renderCompressed (groups : List UInt16) : List Char :=
  let (start, length) := longestRun 0 groups
  if 1 < length then
    renderGroups (groups.take start) ++ ':' :: ':' :: renderGroups (groups.drop (start + length))
  else renderGroups groups

/-- The text of an address. -/
def renderChars : Address → List Char
  | .v4 a b c d => renderOctets a b c d
  | .v6 groups _ =>
    match groups with
    | [0, 0, 0, 0, 0, 0xFFFF, high, low] =>
      [':', ':', 'f', 'f', 'f', 'f', ':'] ++
        renderOctets (high >>> 8).toUInt8 high.toUInt8 (low >>> 8).toUInt8 low.toUInt8
    | groups => renderCompressed groups

/-- The text of an address. -/
def render (ip : Address) : String := String.ofList ip.renderChars

instance : ToString Address := ⟨render⟩

instance : Json.Wire Address where
  encode ip := .str ip.render
  read := Json.Reader.text parse?

/-! ## 3. Private ranges -/

/-- Whether an address belongs to a range kept for private networks: `10/8`, `172.16/12` and
    `192.168/16`, or `fc00::/7`. -/
def isPrivate : Address → Bool
  | .v4 a b _ _ => a == 10 || (a == 172 && b &&& 0xF0 == 16) || (a == 192 && b == 168)
  | .v6 groups _ => groups.head?.any (· &&& 0xFE00 == 0xFC00)

/-- An address as the host of a URL: IPv6 stands in brackets. -/
def urlHost (ip : Address) : String :=
  match ip with
  | .v4 .. => ip.render
  | .v6 .. => s!"[{ip}]"

end Address

end InstancePool
