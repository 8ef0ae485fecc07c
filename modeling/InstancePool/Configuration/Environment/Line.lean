import InstancePool.Text.Alphanumeric
import InstancePool.Text.Blank

/-!
# Lines of a file of variables

A line assigns a value to a key, as in `KEY=value`; the word `export` may stand before the key. A line
of blanks and one that starts with `#` say nothing, and blanks around the key and the value are not
part of them.

* `Line`: what a line says;
* `Place`, `Place.move`: a value is read character by character. Quotes of two kinds, backslashes and
  dollar signs have a meaning, a blank ends the value, and only a comment may follow;
* `Line.ofChars`: what a line says, if it is told what other variables stand for.
-/

namespace InstancePool.Environment

/-- What a line of a file of variables says. -/
inductive Line where
  /-- Nothing, or a comment. -/
  | nothing
  | assignment (key value : String)
  /-- A line of no known form. Nothing after it is read. -/
  | malformed
deriving DecidableEq, Repr

/-! ## 1. Values -/

/-- Where in a value its reading stands. -/
inductive Place where
  /-- In plain text, outside quotes or between double ones. -/
  | plain (quoted : Bool)
  /-- After a backslash in plain text. -/
  | escape (quoted : Bool)
  /-- Between single quotes, where no character has a meaning but the quote. -/
  | literal
  /-- In the name of a variable after a dollar sign. What was read of it is in reverse order. -/
  | name (quoted : Bool) (read : List Char)
  /-- In the name of a variable between braces. -/
  | bracedName (quoted : Bool) (read : List Char)
  /-- After the blank that ended the value. -/
  | after
deriving DecidableEq, Repr

/-- What a character does to the reading of a value. -/
inductive Move where
  /-- The reading goes on, and the value gains some text. -/
  | on (place : Place) (text : List Char)
  /-- A comment starts. -/
  | stop
  | fail
deriving DecidableEq, Repr

/-- The characters that may follow a backslash and stand for themselves. -/
def escapable : List Char := ['\\', '\'', '"', '$', ' ']

/-- What a character does at a place. A name without braces goes on as long as there are letters and
    numbers, and the character that ends it stands for itself unless it starts another name. -/
def Place.move (lookup : List Char → List Char) : Place → Char → Move
  | plain quoted, '$' => .on (name quoted []) []
  | plain quoted, '\\' => .on (escape quoted) []
  | plain true, '"' => .on (plain false) []
  | plain true, c => .on (plain true) [c]
  | plain false, '"' => .on (plain true) []
  | plain false, '\'' => .on literal []
  | plain false, c => if c = ' ' ∨ c = '\t' then .on after [] else .on (plain false) [c]
  | escape quoted, 'n' => .on (plain quoted) ['\n']
  | escape quoted, c => if c ∈ escapable then .on (plain quoted) [c] else .fail
  | literal, '\'' => .on (plain false) []
  | literal, c => .on literal [c]
  | name quoted read, c =>
    if Text.isAlphanumeric c then .on (name quoted (c :: read)) []
    else if c = '{' ∧ read.isEmpty then .on (bracedName quoted []) []
    else if c = '$' then .on (name quoted []) (lookup read.reverse)
    else .on (plain quoted) (lookup read.reverse ++ [c])
  | bracedName quoted read, '}' => .on (plain quoted) (lookup read.reverse)
  | bracedName quoted read, c => .on (bracedName quoted (c :: read)) []
  | after, '#' => .stop
  | after, c => if c = ' ' ∨ c = '\t' then .on after [] else .fail

/-- What a value gains where the line ends, if it may end there: quotes and braces are to be closed.
    A backslash at the end is dropped. -/
def Place.finish (lookup : List Char → List Char) : Place → Option (List Char)
  | plain false | escape false | after => some []
  | name false read => some (lookup read.reverse)
  | _ => none

/-- The rest of a value from a place on. -/
def valueFrom (lookup : List Char → List Char) : Place → List Char → Option (List Char)
  | place, [] => place.finish lookup
  | place, c :: cs =>
    match place.move lookup c with
    | .on place text => (valueFrom lookup place cs).map (text ++ ·)
    | .stop => some []
    | .fail => none

/-- The value that stands after an equals sign. -/
def valueOf (lookup : List Char → List Char) (cs : List Char) : Option (List Char) :=
  if cs.head? = some '#' then some [] else valueFrom lookup (.plain false) cs

/-! ## 2. Lines -/

/-- Whether a character may start a key. -/
def startsKey (c : Char) : Bool := c.isAlpha || c == '_'

/-- Whether a character may stand in a key. -/
def inKey (c : Char) : Bool := c.isAlphanum || c == '_' || c == '.'

/-- A text cut after the key at its start and the blanks behind it. -/
def cutKey (cs : List Char) : Option (String × List Char) :=
  if cs.head?.any startsKey then
    some (String.ofList (cs.takeWhile inKey), Text.trimStart (cs.dropWhile inKey))
  else none

/-- A text cut at the equals sign after a key, which may have the word `export` before it. -/
def cutAssignment (cs : List Char) : Option (String × List Char) := do
  match ← cutKey cs with
  | (key, '=' :: value) => return (key, Text.trimStart value)
  | ("export", rest) =>
    match ← cutKey rest with
    | (key, '=' :: value) => return (key, Text.trimStart value)
    | _ => none
  | _ => none

/-- What a line says. -/
def Line.ofChars (lookup : List Char → List Char) (cs : List Char) : Line :=
  let cs := Text.trimStart (Text.trimEnd cs)
  if cs.isEmpty ∨ cs.head? = some '#' then nothing
  else
    let assigned? : Option Line := do
      let (key, rest) ← cutAssignment cs
      return assignment key (String.ofList (← valueOf lookup rest))
    assigned?.getD malformed

end InstancePool.Environment
