import InstancePool.Decimal.Binary64
import InstancePool.Json.Document

/-!
# Decimal literals

A price list may quote a capacity as a text. This file fixes which texts are numbers: digits with an
optional point among them or at one of their ends, an optional sign before and an optional exponent
after them, or one of the words for what is not finite, in any case.
-/

namespace InstancePool.Decimal

/-- A number that may be infinite, or none at all. -/
inductive Extended where
  | finite (x : Binary64)
  | infinite (negative : Bool)
  | notANumber
deriving DecidableEq, Repr

namespace Extended

/-- The whole part as an unsigned word: nothing below zero or where there is no number, and at most
    the largest word. -/
def toWord : Extended → UInt64
  | finite x => x.toWord
  | infinite negative => if negative then 0 else UInt64.ofNat (UInt64.size - 1)
  | notANumber => 0

/-- The number nearest to a ratio with a sign. -/
def ofRatio (negative : Bool) (num den : Nat) : Extended :=
  match Binary64.ofRatio negative num den with
  | some x => finite x
  | none => infinite negative

/-- The number nearest to digits times a power of ten. Beyond the powers that any number reaches
    there is nothing left, or too much. -/
def ofDigits (negative : Bool) (digits : List Char) (exponent : Int) : Extended :=
  let whole := Json.Document.decimal digits
  let magnitude := exponent + digits.length
  if whole = 0 ∨ magnitude < -400 then finite (.zero negative)
  else if 400 < exponent then infinite negative
  else ofRatio negative (whole * Nat.pow 10 exponent.toNat) (Nat.pow 10 (-exponent).toNat)

/-- The words for what is not finite. -/
def word? (negative : Bool) (cs : List Char) : Option Extended :=
  match String.ofList (cs.map Char.toLower) with
  | "inf" | "infinity" => some (infinite negative)
  | "nan" => some notANumber
  | _ => none

/-- Digits, a point, and digits: at least one digit in all. -/
def parseDigits (cs : List Char) : Option (List Char × List Char × List Char) :=
  let whole := cs.takeWhile Char.isDigit
  let (fraction, rest) :=
    match cs.dropWhile Char.isDigit with
    | '.' :: rest => (rest.takeWhile Char.isDigit, rest.dropWhile Char.isDigit)
    | rest => ([], rest)
  if whole.isEmpty && fraction.isEmpty then none else some (whole, fraction, rest)

/-- An exponent, or nothing, to the end. -/
def parseExponent : List Char → Option Int
  | [] => some 0
  | c :: cs =>
    let (negative, digits) :=
      match cs with
      | '-' :: digits => (true, digits)
      | '+' :: digits => (false, digits)
      | digits => (false, digits)
    if c.toLower ≠ 'e' ∨ digits.isEmpty ∨ !digits.all Char.isDigit then none
    else
      let size : Int := Json.Document.decimal digits
      some (if negative then -size else size)

/-- A number without its sign. -/
def parseMagnitude (negative : Bool) (cs : List Char) : Option Extended :=
  match word? negative cs with
  | some x => some x
  | none => do
    let (whole, fraction, rest) ← parseDigits cs
    let exponent ← parseExponent rest
    return ofDigits negative (whole ++ fraction) (exponent - fraction.length)

/-- The number that a text is. -/
def parse? (s : String) : Option Extended :=
  match s.toList with
  | '-' :: cs => parseMagnitude true cs
  | '+' :: cs => parseMagnitude false cs
  | cs => parseMagnitude false cs

end Extended

end InstancePool.Decimal
