/-!
# Punycode: labels in ASCII

A label of a host name that is not ASCII is sent as one that is. Its ASCII characters come first, in
their order; the others follow as numbers, the lowest character first, each number telling how far to
go on through all pairs of a character and a position until the next insertion.

* `digits`: a number to base 36 whose digits tell where it ends. The fewer are needed the better the
  `bias` fits, which `adapt` makes follow the numbers so far;
* `encode`: a label in ASCII, and `decode`: the label that a text in ASCII is.
-/

namespace InstancePool.Text.Punycode

/-! ## 1. Numbers -/

/-- The 36 digits: letters, then figures. -/
def digit (n : Nat) : Char := Char.ofNat (if n < 26 then 97 + n else 22 + n)

/-- A digit at a place ends the number if it is below this. -/
def threshold (bias place : Nat) : Nat := max 1 (min 26 (36 * (place + 1) - bias))

theorem threshold_pos (bias place : Nat) : 0 < threshold bias place := by
  unfold threshold
  omega

/-- The digits of a number from a place on, the least one first. -/
def digits (bias place n : Nat) : List Char :=
  let t := threshold bias place
  if n < t then [digit n]
  else digit (t + (n - t) % (36 - t)) :: digits bias (place + 1) ((n - t) / (36 - t))
termination_by n
decreasing_by
  have := threshold_pos bias place
  have := Nat.div_le_self (n - threshold bias place) (36 - threshold bias place)
  omega

/-- The bias for a number, counted in steps of 36 from what is given. -/
def biasFor (steps n : Nat) : Nat :=
  if 455 < n then biasFor (steps + 36) (n / 35) else steps + 36 * n / (n + 38)
termination_by n
decreasing_by omega

/-- The bias after a number, with how many characters there are then. The first number is a poor
    guide to the next ones. -/
def adapt (n count : Nat) (first : Bool) : Nat :=
  let damped := if first then n / 700 else n / 2
  biasFor 0 (damped + damped / count)

/-- The value of a digit. -/
def digitValue (c : Char) : Option Nat :=
  if c.isDigit then some (c.toNat - 22)
  else if c.isAlpha then some (c.toLower.toNat - 97)
  else none

/-- Numbers are below this. -/
def limit : Nat := UInt32.size

/-- The number at the front of a text, from a place on whose digits have a weight, and what follows
    it. -/
def readNumber (bias : Nat) : (place weight : Nat) → List Char → Option (Nat × List Char)
  | _, _, [] => none
  | place, weight, c :: cs => do
    let d ← digitValue c
    let t := threshold bias place
    if d < t then return (d * weight, cs)
    else if limit ≤ weight * (36 - t) then none
    else
      let (n, rest) ← readNumber bias (place + 1) (weight * (36 - t)) cs
      return (d * weight + n, rest)

/-! ## 2. Encoding -/

/-- How far a label is encoded. -/
structure Progress where
  written : List Char := []
  /-- How far to go on so far. -/
  delta : Nat := 0
  bias : Nat := 72
  /-- How many characters are encoded. -/
  count : Nat
  /-- Whether no number is written yet. -/
  first : Bool := true

/-- Passes a position of the label in the search for a character. -/
def Progress.pass (wanted : Nat) (p : Progress) (c : Char) : Progress :=
  if c.toNat < wanted then { p with delta := p.delta + 1 }
  else if c.toNat = wanted then
    { written := p.written ++ digits p.bias 0 p.delta
      delta := 0
      bias := adapt p.delta (p.count + 1) p.first
      count := p.count + 1
      first := false }
  else p

/-- Encodes the characters of a label that are wanted, in ascending order, from a character on. -/
def Progress.through (label : List Char) : List Nat → Nat → Progress → List Char
  | [], _, p => p.written
  | wanted :: rest, next, p =>
    let p := { p with delta := p.delta + (wanted - next) * (p.count + 1) }
    let p := label.foldl (Progress.pass wanted) p
    through label rest (wanted + 1) { p with delta := p.delta + 1 }

/-- Whether a character is ASCII. -/
def isBasic (c : Char) : Bool := c.toNat < 0x80

/-- A label in ASCII. -/
def encode (label : List Char) : List Char :=
  let basic := label.filter isBasic
  let others := ((label.filter fun c => !isBasic c).map Char.toNat).mergeSort.eraseDups
  basic ++ (if basic.isEmpty then [] else ['-']) ++
    Progress.through label others 0x80 { count := basic.length }

/-! ## 3. Decoding -/

/-- The character with a number, if there is one. -/
def charOf (n : Nat) : Option Char :=
  if n < 0xD800 ∨ (0xDFFF < n ∧ n < 0x110000) then some (Char.ofNat n) else none

/-- Inserts characters into a label, from a position and a character on. Each takes one number, and a
    number takes at least one digit, so as many steps as digits are enough. -/
def insertFrom : (steps : Nat) → (label : List Char) → (position next bias : Nat) → List Char →
    Option (List Char)
  | _, label, _, _, _, [] => some label
  | 0, _, _, _, _, _ :: _ => none
  | steps + 1, label, position, next, bias, cs => do
    let (n, rest) ← readNumber bias 0 1 cs
    let count := label.length + 1
    let place := position + n
    if limit ≤ place then none
    else
      let found := next + place / count
      let c ← charOf found
      insertFrom steps (label.insertIdx (place % count) c) (place % count + 1) found
        (adapt n count (position == 0)) rest

/-- The label that a text in ASCII is. What stands before its last hyphen is in it as it is. -/
def decode (cs : List Char) : Option (List Char) :=
  let basic := (cs.reverse.dropWhile (· != '-')).reverse.dropLast
  let numbers := if basic.isEmpty then cs else (cs.reverse.takeWhile (· != '-')).reverse
  insertFrom numbers.length basic 0 0x80 72 numbers

end InstancePool.Text.Punycode
