import InstancePool.Json.Document

/-!
# Percent signs in URLs

A URL is ASCII, and some characters have a meaning at some places of it. Any other character stands as
the bytes of its UTF-8 form, each a percent sign and two hexadecimal digits.

* `Percent.encode`: a text with some of its characters written so, and which ones these are at which
  place (`inPath`, `inQuery`, `inFragment`, `inUserInfo`);
* `Percent.decode`: the bytes that a text stands for;
* `Percent.form`: pairs of a key and a value as one query.
-/

namespace InstancePool.Http.Percent

/-! ## 1. Bytes -/

/-- A hexadecimal digit, in capitals. -/
def digit (n : Nat) : Char := Char.ofNat (if n < 10 then 48 + n else 55 + n)

/-- A percent sign and the two digits of a byte. -/
def escape (b : UInt8) : List Char := ['%', digit (b.toNat / 16), digit (b.toNat % 16)]

/-- The bytes of a character, each one escaped. -/
def escapeChar (c : Char) : List Char := (String.utf8EncodeChar c).flatMap escape

/-- A text with some of its characters escaped. -/
def encode (escapes : Char → Bool) (cs : List Char) : List Char :=
  cs.flatMap fun c => if escapes c then escapeChar c else [c]

/-- The bytes that a text stands for. A percent sign without two digits after it is left alone. -/
def decode : List Char → List UInt8
  | [] => []
  | '%' :: a :: b :: rest =>
    match Json.Document.hexValue a, Json.Document.hexValue b with
    | some high, some low => UInt8.ofNat (high * 16 + low) :: decode rest
    | _, _ => 0x25 :: decode (a :: b :: rest)
  | c :: rest => String.utf8EncodeChar c ++ decode rest

/-- The text that the bytes of a text stand for, if they are UTF-8. -/
def decodeText (cs : List Char) : Option String := String.fromUTF8? ⟨(decode cs).toArray⟩

/-! ## 2. What is escaped where -/

/-- Escaped everywhere: controls, and what is not ASCII. -/
def everywhere (c : Char) : Bool := c.toNat < 0x20 || 0x7F ≤ c.toNat

/-- What is escaped in a fragment. -/
def inFragment (c : Char) : Bool := everywhere c || [' ', '"', '<', '>', '\x60'].contains c

/-- What is escaped in a path. -/
def inPath (c : Char) : Bool := inFragment c || ['#', '?', '{', '}'].contains c

/-- What is escaped in the name and the password of a login. -/
def inUserInfo (c : Char) : Bool :=
  inPath c || ['/', ':', ';', '=', '@', '[', '\\', ']', '^', '|'].contains c

/-- What is escaped in a query. -/
def inQuery (c : Char) : Bool := everywhere c || [' ', '"', '#', '<', '>'].contains c

/-! ## 3. Pairs -/

/-- A key or a value as it stands in a query: a plus sign for each space. -/
def formPart (cs : List Char) : List Char :=
  cs.flatMap fun c =>
    if c == ' ' then ['+']
    else if c.isAlphanum || ['*', '-', '.', '_'].contains c then [c]
    else escapeChar c

/-- Pairs as one query. -/
def form : List (String × String) → List Char
  | [] => []
  | [(key, value)] => formPart key.toList ++ '=' :: formPart value.toList
  | (key, value) :: rest =>
    formPart key.toList ++ '=' :: formPart value.toList ++ '&' :: form rest

end InstancePool.Http.Percent
