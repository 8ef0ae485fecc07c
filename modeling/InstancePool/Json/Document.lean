import InstancePool.Json.Value

/-!
# Reading JSON text

Whether a text fits is not decided by its form alone: a field that nobody asks for may be nested to
any depth, hold numbers beyond every range and strings that are no text, while the same inside a
wanted field is a fault. So reading takes two steps, and this file holds the first:

* `Document`: a text that has the form of JSON, with its repeated fields, the numbers that are too
  large, and the strings whose escapes name no text still told apart;
* `Document.parse?`: the document of a text;
* `Document.ofJson`: a value as the document that its text reads as.

What may be taken out of a document is the matter of `Json/Reader.lean`.
-/

namespace InstancePool.Json

/-! ## 1. Documents -/

/-- What a number in a text is. Whole numbers are words or negative signed words; `-0`, all larger
    ones, and everything with a point or an exponent are binary fractions. -/
inductive Number where
  | int (n : Int)
  | float (x : Decimal.Binary64)
  | tooLarge
deriving DecidableEq

/-- A text that has the form of JSON. A string is `none` where its escapes name half a surrogate
    pair. -/
inductive Document where
  | null
  | bool (b : Bool)
  | number (n : Number)
  | string (content : Option String)
  | array (items : List Document)
  | object (fields : List (Option String × Document))
deriving Inhabited

namespace Document

/-! ## 2. Numbers -/

/-- The value of a decimal digit. -/
def digit (c : Char) : Nat := c.toNat - 48

/-- Appends decimal digits to a word while it stays one: the word, and the digits left over. -/
def extendWord : (word : Nat) → List Char → Nat × List Char
  | word, [] => (word, [])
  | word, c :: cs =>
    if word * 10 + digit c < UInt64.size then extendWord (word * 10 + digit c) cs else (word, c :: cs)

/-- The value of a string of decimal digits. -/
def decimal (cs : List Char) : Nat := cs.foldl (fun n c => n * 10 + digit c) 0

/-- A binary fraction, or too large for one. -/
def fractionOf (negative : Bool) (word : Nat) (exponent : Int) : Number :=
  match Decimal.Binary64.scaled negative word exponent with
  | some x => .float x
  | none => .tooLarge

/-- The number with the given sign, digits before and after the point, and exponent. The digits
    beyond a word are not read: before the point they count as zeros, after it not at all. An
    exponent of more than 31 bits leaves nothing, or too much. -/
def numberOf (negative : Bool) (whole : List Char) (fraction : Option (List Char))
    (exponent : Option (Bool × List Char)) : Number :=
  let (word, rest) := extendWord 0 whole
  match fraction, exponent with
  | none, none =>
    if !rest.isEmpty then fractionOf negative word rest.length
    else if !negative then .int word
    else if word = 0 ∨ Nat.pow 2 63 < word then fractionOf true word 0
    else .int (-word)
  | fraction, exponent =>
    let digits := fraction.getD []
    let (word, ignored) := extendWord word digits
    let place : Int := (rest.length : Int) - (digits.length - ignored.length : Nat)
    match exponent with
    | none => fractionOf negative word place
    | some (below, text) =>
      let size := decimal text
      if Nat.pow 2 31 ≤ size then
        if word ≠ 0 ∧ !below then .tooLarge else .float (.zero negative)
      else fractionOf negative word (if below then place - size else place + size)

/-- A run of decimal digits and what follows it. -/
def spanDigits (cs : List Char) : List Char × List Char :=
  (cs.takeWhile Char.isDigit, cs.dropWhile Char.isDigit)

/-- The digits after a point, if there is one. -/
def parseFraction : List Char → Option (Option (List Char) × List Char)
  | '.' :: cs =>
    match spanDigits cs with
    | ([], _) => none
    | (digits, rest) => some (some digits, rest)
  | cs => some (none, cs)

/-- The exponent, if there is one: whether it is below zero, and its digits. -/
def parseExponent : List Char → Option (Option (Bool × List Char) × List Char)
  | c :: cs =>
    if c == 'e' || c == 'E' then
      let (below, cs) :=
        match cs with
        | '-' :: cs => (true, cs)
        | '+' :: cs => (false, cs)
        | cs => (false, cs)
      match spanDigits cs with
      | ([], _) => none
      | (digits, rest) => some (some (below, digits), rest)
    else some (none, c :: cs)
  | [] => some (none, [])

/-- A number without its sign. A leading zero stands alone. -/
def parseMagnitude (negative : Bool) (cs : List Char) : Option (Number × List Char) := do
  let (whole, rest) := spanDigits cs
  if whole.isEmpty ∨ (whole.head? = some '0' ∧ 1 < whole.length) then none
  else
    let (fraction, rest) ← parseFraction rest
    let (exponent, rest) ← parseExponent rest
    return (numberOf negative whole fraction exponent, rest)

/-- A number. -/
def parseNumber : List Char → Option (Number × List Char)
  | '-' :: cs => parseMagnitude true cs
  | cs => parseMagnitude false cs

/-! ## 3. Strings -/

/-- What a string is made of: characters, and the 16-bit units that escapes name. -/
inductive Piece where
  | char (c : Char)
  | unit (n : Nat)
deriving DecidableEq

/-- The value of a hexadecimal digit of either case. -/
def hexValue (c : Char) : Option Nat :=
  if '0' ≤ c ∧ c ≤ '9' then some (c.toNat - 48)
  else if 'a' ≤ c ∧ c ≤ 'f' then some (c.toNat - 87)
  else if 'A' ≤ c ∧ c ≤ 'F' then some (c.toNat - 55)
  else none

/-- The value of four hexadecimal digits. -/
def unitValue (a b c d : Char) : Option Nat := do
  return (((← hexValue a) * 16 + (← hexValue b)) * 16 + (← hexValue c)) * 16 + (← hexValue d)

/-- The character that an escape letter stands for. -/
def escaped : Char → Option Char
  | '"' => some '"'
  | '\\' => some '\\'
  | '/' => some '/'
  | 'b' => some '\x08'
  | 'f' => some '\x0c'
  | 'n' => some '\n'
  | 'r' => some '\r'
  | 't' => some '\t'
  | _ => none

/-- The pieces of a string after its opening quote, and what follows its closing quote. Control
    characters stand in it only escaped. -/
def scanPieces : List Char → Option (List Piece × List Char)
  | [] => none
  | '"' :: cs => some ([], cs)
  | '\\' :: 'u' :: a :: b :: c :: d :: cs => do
    let n ← unitValue a b c d
    let (pieces, rest) ← scanPieces cs
    return (.unit n :: pieces, rest)
  | '\\' :: e :: cs => do
    let c ← escaped e
    let (pieces, rest) ← scanPieces cs
    return (.char c :: pieces, rest)
  | c :: cs => do
    if c == '\\' || c.toNat < 0x20 then none
    else
      let (pieces, rest) ← scanPieces cs
      return (.char c :: pieces, rest)

/-- Whether a unit is the first, or the second, half of a surrogate pair. -/
def isLeading (n : Nat) : Bool := 0xD800 ≤ n && n < 0xDC00

/-- See `isLeading`. -/
def isTrailing (n : Nat) : Bool := 0xDC00 ≤ n && n < 0xE000

/-- The text that pieces make, if every surrogate has its other half right beside it. -/
def joinPieces : List Piece → Option (List Char)
  | [] => some []
  | .char c :: rest => (joinPieces rest).map (c :: ·)
  | .unit n :: .unit m :: rest =>
    if isLeading n && isTrailing m then
      (joinPieces rest).map (Char.ofNat (0x10000 + (n - 0xD800) * 0x400 + (m - 0xDC00)) :: ·)
    else if isLeading n || isTrailing n then none
    else (joinPieces (.unit m :: rest)).map (Char.ofNat n :: ·)
  | .unit n :: rest =>
    if isLeading n || isTrailing n then none else (joinPieces rest).map (Char.ofNat n :: ·)

/-- The content of a string after its opening quote, and what follows its closing quote. -/
def parseString (cs : List Char) : Option (Option String × List Char) := do
  let (pieces, rest) ← scanPieces cs
  return ((joinPieces pieces).map String.ofList, rest)

/-! ## 4. Documents -/

/-- The space that may stand between the parts of a text. -/
def isSpace (c : Char) : Bool := c == ' ' || c == '\n' || c == '\t' || c == '\r'

/-- A text without the space before it. -/
def skipSpace (cs : List Char) : List Char := cs.dropWhile isSpace

mutual

/-- A value and what follows it. Every recursive call has less fuel; twice the length of the text is
    enough. -/
def parseValue : (fuel : Nat) → List Char → Option (Document × List Char)
  | 0, _ => none
  | fuel + 1, cs =>
    match skipSpace cs with
    | 'n' :: 'u' :: 'l' :: 'l' :: rest => some (.null, rest)
    | 't' :: 'r' :: 'u' :: 'e' :: rest => some (.bool true, rest)
    | 'f' :: 'a' :: 'l' :: 's' :: 'e' :: rest => some (.bool false, rest)
    | '"' :: rest => (parseString rest).map fun (content, rest) => (.string content, rest)
    | '[' :: rest =>
      match skipSpace rest with
      | ']' :: rest => some (.array [], rest)
      | rest => (parseItems fuel rest).map fun (items, rest) => (.array items, rest)
    | '\x7b' :: rest =>
      match skipSpace rest with
      | '\x7d' :: rest => some (.object [], rest)
      | rest => (parseFields fuel rest).map fun (fields, rest) => (.object fields, rest)
    | rest => (parseNumber rest).map fun (n, rest) => (.number n, rest)

/-- The items of an array that is not empty, and what follows its closing bracket. -/
def parseItems : (fuel : Nat) → List Char → Option (List Document × List Char)
  | 0, _ => none
  | fuel + 1, cs => do
    let (item, rest) ← parseValue fuel cs
    match skipSpace rest with
    | ',' :: rest =>
      let (items, rest) ← parseItems fuel rest
      return (item :: items, rest)
    | ']' :: rest => return ([item], rest)
    | _ => none

/-- The fields of an object that is not empty, and what follows its closing brace. -/
def parseFields : (fuel : Nat) → List Char → Option (List (Option String × Document) × List Char)
  | 0, _ => none
  | fuel + 1, cs => do
    match skipSpace cs with
    | '"' :: rest =>
      let (name, rest) ← parseString rest
      match skipSpace rest with
      | ':' :: rest =>
        let (value, rest) ← parseValue fuel rest
        match skipSpace rest with
        | ',' :: rest =>
          let (fields, rest) ← parseFields fuel rest
          return ((name, value) :: fields, rest)
        | '\x7d' :: rest => return ([(name, value)], rest)
        | _ => none
      | _ => none
    | _ => none

end

/-- The document of a text that holds one value and nothing else but space. -/
def parseChars (cs : List Char) : Option Document := do
  let (document, rest) ← parseValue (2 * cs.length + 2) cs
  if (skipSpace rest).isEmpty then some document else none

/-- The document of a text. -/
def parse? (s : String) : Option Document := parseChars s.toList

/-! ## 5. Values as documents -/

mutual

/-- A value as the document that its text reads as. -/
def ofJson : Json → Document
  | .null => .null
  | .bool b => .bool b
  | .int n => .number (.int n)
  | .float x => .number (.float x)
  | .str s => .string (some s)
  | .arr items => .array (ofItems items)
  | .obj fields => .object (ofFields fields)

/-- The documents of the items. -/
def ofItems : List Json → List Document
  | [] => []
  | item :: rest => ofJson item :: ofItems rest

/-- The documents of the fields. -/
def ofFields : List (String × Json) → List (Option String × Document)
  | [] => []
  | (name, value) :: rest => (some name, ofJson value) :: ofFields rest

end

end Document

end InstancePool.Json
