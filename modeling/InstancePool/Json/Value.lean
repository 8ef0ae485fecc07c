import InstancePool.Decimal.Shortest
import InstancePool.Dict

/-!
# JSON values and their text

What is exchanged with the cloud, the pool registry and the agents is JSON. This file holds the
values and the one text they are written as:

* `Json`: a value. Numbers are whole or binary fractions; the fields of an object stand in the order
  in which they are written;
* `render`: the compact text, with nothing escaped that need not be;
* `ofDict`: an object whose fields are those of a dictionary;
* `IsMap`: the objects in a value stand in key order, as those of an arbitrary JSON text do here once
  it is read.
-/

namespace InstancePool

/-- A JSON value. -/
inductive Json where
  | null
  | bool (b : Bool)
  | int (n : Int)
  | float (x : Decimal.Binary64)
  | str (s : String)
  | arr (items : List Json)
  | obj (fields : List (String × Json))
deriving Inhabited

namespace Json

/-- A whole number that is not negative. -/
def nat (n : Nat) : Json := .int n

/-- An object with the entries of a dictionary as its fields. -/
def ofDict (d : Dict String Json) : Json := .obj d.entries

/-- An object with the given fields, in the order of their names. -/
def record (fields : List (String × Json)) : Json := .ofDict (Dict.ofList fields)

/-- The field of an object. -/
def field? : Json → String → Option Json
  | .obj fields, name => (fields.find? (·.1 == name)).map (·.2)
  | _, _ => none

/-! ## 1. Text -/

/-- A hexadecimal digit in lower case. -/
def hexDigit (n : Nat) : Char := (Nat.digitChar (n % 16))

/-- A character inside a string. Quotes, backslashes and control characters are escaped, the common
    control characters by a letter. -/
def escape (c : Char) : List Char :=
  if c == '"' then ['\\', '"']
  else if c == '\\' then ['\\', '\\']
  else if 0x20 ≤ c.toNat then [c]
  else if c == '\n' then ['\\', 'n']
  else if c == '\r' then ['\\', 'r']
  else if c == '\t' then ['\\', 't']
  else if c.toNat == 8 then ['\\', 'b']
  else if c.toNat == 12 then ['\\', 'f']
  else ['\\', 'u', '0', '0', hexDigit (c.toNat / 16), hexDigit c.toNat]

/-- A string in quotes. -/
def quote (s : String) : List Char := '"' :: s.toList.flatMap escape ++ ['"']

/-- A whole number in decimal. -/
def renderInt : Int → List Char
  | .ofNat n => Nat.toDigits 10 n
  | .negSucc n => '-' :: Nat.toDigits 10 (n + 1)

mutual

/-- The compact text of a value. -/
def renderChars : Json → List Char
  | .null => ['n', 'u', 'l', 'l']
  | .bool true => ['t', 'r', 'u', 'e']
  | .bool false => ['f', 'a', 'l', 's', 'e']
  | .int n => renderInt n
  | .float x => x.render
  | .str s => quote s
  | .arr items => '[' :: renderItems items
  | .obj fields => '\x7b' :: renderFields fields

/-- The items of a list after its bracket, and the bracket that closes it. -/
def renderItems : List Json → List Char
  | [] => [']']
  | item :: rest => renderChars item ++ renderMoreItems rest

/-- The items after the first one. -/
def renderMoreItems : List Json → List Char
  | [] => [']']
  | item :: rest => ',' :: renderChars item ++ renderMoreItems rest

/-- The fields of an object after its brace, and the brace that closes it. -/
def renderFields : List (String × Json) → List Char
  | [] => ['\x7d']
  | (name, value) :: rest => quote name ++ ':' :: renderChars value ++ renderMoreFields rest

/-- The fields after the first one. -/
def renderMoreFields : List (String × Json) → List Char
  | [] => ['\x7d']
  | (name, value) :: rest =>
    ',' :: quote name ++ ':' :: renderChars value ++ renderMoreFields rest

end

/-- The compact text of a value. -/
def render (j : Json) : String := String.ofList j.renderChars

/-! ## 2. Values in key order -/

mutual

/-- Every object in the value is in key order, and its whole numbers are words or signed words other
    than a negative zero: what reading an arbitrary text gives. -/
def IsMap : Json → Prop
  | .null => True
  | .bool _ => True
  | .int n => -2 ^ 63 ≤ n ∧ n < 2 ^ 64
  | .float _ => True
  | .str _ => True
  | .arr items => IsMapItems items
  | .obj fields => Dict.Ascending fields ∧ IsMapFields fields

/-- `IsMap` of every item. -/
def IsMapItems : List Json → Prop
  | [] => True
  | item :: rest => IsMap item ∧ IsMapItems rest

/-- `IsMap` of every field. -/
def IsMapFields : List (String × Json) → Prop
  | [] => True
  | (_, value) :: rest => IsMap value ∧ IsMapFields rest

end

mutual

/-- How many brackets and braces stand around the innermost part of a value. -/
def depth : Json → Nat
  | .arr items => depthItems items + 1
  | .obj fields => depthFields fields + 1
  | _ => 0

/-- The largest depth of the items. -/
def depthItems : List Json → Nat
  | [] => 0
  | item :: rest => max (depth item) (depthItems rest)

/-- The largest depth of the fields. -/
def depthFields : List (String × Json) → Nat
  | [] => 0
  | (_, value) :: rest => max (depth value) (depthFields rest)

end

end Json

end InstancePool
