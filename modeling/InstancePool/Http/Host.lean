import InstancePool.Address
import InstancePool.Http.HostName
import InstancePool.Http.Percent

/-!
# Hosts of URLs

The host in a URL is a name or an address, and which one it is shows in its text:

* IPv6 stands in brackets;
* a name whose last label is a number is an IPv4 address, of up to four numbers, the last of which
  fills the octets that are left. Numbers may be octal (`0…`) or hexadecimal (`0x…`);
* any other name is one of the internet, in the form in which it is sent.
-/

namespace InstancePool.Http

/-- The host in a URL. -/
inductive Host where
  | name (chars : List Char)
  | address (ip : Address)

namespace Host

/-! ## 1. Numbers -/

/-- The number of some digits to a base. -/
def number (base : Nat) (cs : List Char) : Option Nat :=
  cs.foldlM
    (fun n c => ((Json.Document.hexValue c).filter (· < base)).map (n * base + ·)) 0

/-- The number in a label. -/
def labelNumber : List Char → Option Nat
  | [] => none
  | '0' :: 'x' :: digits => number 16 digits
  | '0' :: d :: digits => number 8 (d :: digits)
  | digits => number 10 digits

/-- The labels of a name. A point at its end is no part of them. -/
def labels (name : List Char) : List (List Char) :=
  let all := Text.pieces (· == '.') name
  if all.getLast? = some [] then all.dropLast else all

/-- Whether a name can only be an address. -/
def endsInNumber (name : List Char) : Bool :=
  (labels name).getLast?.any fun label =>
    (!label.isEmpty && label.all Char.isDigit) || (labelNumber label).isSome

/-- The octet of a number at a place counted from the right. -/
def octetAt (n place : Nat) : UInt8 := UInt8.ofNat (n / Nat.pow 256 place)

/-- The address of up to four numbers. -/
def v4? (numbers : List Nat) : Option Address := do
  let last ← numbers.getLast?
  let firsts := numbers.dropLast
  if 3 < firsts.length ∨ firsts.any (255 < ·) ∨ Nat.pow 256 (4 - firsts.length) ≤ last then none
  else
    let n := firsts.foldr (fun octet n => octet * Nat.pow 256 3 + n / 256)
      (last * Nat.pow 256 firsts.length)
    return .v4 (octetAt n 3) (octetAt n 2) (octetAt n 1) (octetAt n 0)

/-! ## 2. Reading and writing -/

/-- An address in brackets. -/
def bracketed? (cs : List Char) : Option Host :=
  if cs.getLast? = some ']' then (Address.parseV6 (cs.drop 1).dropLast).map address else none

/-- The host that a text is. -/
def parse? (cs : List Char) : Option Host := do
  if cs.head? = some '[' then bracketed? cs
  else
    let chars ← HostName.toAscii? (← Percent.decodeText cs).toList
    if chars.isEmpty then none
    else if endsInNumber chars then
      return address (← v4? (← (labels chars).mapM labelNumber))
    else return name chars

/-- The host that a text is where it need not be one of the internet: any name will do. -/
def parseOpaque? (cs : List Char) : Option Host :=
  if cs.head? = some '[' then bracketed? cs
  else if cs.any HostName.isForbidden then none
  else some (name (Percent.encode Percent.everywhere cs))

/-- The text of a host. -/
def render : Host → List Char
  | name chars => chars
  | address (.v4 a b c d) => Address.renderOctets a b c d
  | address (.v6 groups _) => '[' :: Address.renderCompressed groups ++ [']']

end Host

end InstancePool.Http
