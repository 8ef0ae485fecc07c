import InstancePool.Json.Document

/-!
# Taking values out of documents

The second step of reading: which value a document is, if it fits at all. The rules are the same for
every type that is exchanged, and fixed here once:

* a `Reader` counts how many more brackets and braces may be opened, 127 in a whole text; what is not
  asked for is not counted;
* a record is an object, in which unknown fields are ignored and known ones stand once, or an array
  of its fields in their order (`Slots`);
* a field is `required`, `optional` (absent or `null` is nothing) or `defaulted` (absent takes the
  default, `null` does not fit);
* a choice is the name of one of its cases, or an object with that name and `null` (`choice`).

`Wire` pairs the reader of a type with the value it is written as.
-/

namespace InstancePool.Json

/-- Takes a value out of a document in which so many more brackets and braces may be opened. -/
def Reader (α : Type) := (room : Nat) → Document → Option α

/-- A type that is exchanged as JSON. -/
class Wire (α : Type) where
  encode : α → Json
  read : Reader α

export Wire (encode)

/-- How deep a text may be nested. -/
def depthLimit : Nat := 127

/-- The value of a text. -/
def Reader.run {α : Type} (read : Reader α) (text : String) : Option α :=
  (Document.parse? text).bind (read depthLimit)

/-- The value of a value: as if its text had been read, whatever its depth. -/
def Reader.runValue {α : Type} (read : Reader α) (value : Json) : Option α :=
  read value.depth (Document.ofJson value)

/-- The value of a text. -/
def decode (α : Type) [Wire α] (text : String) : Option α := Reader.run Wire.read text

/-- The value of a value. -/
def convert (α : Type) [Wire α] (value : Json) : Option α := Reader.runValue Wire.read value

namespace Reader

/-! ## 1. Plain values -/

/-- A text. -/
def string : Reader String
  | _, .string content => content
  | _, _ => none

/-- A truth value. -/
def bool : Reader Bool
  | _, .bool b => some b
  | _, _ => none

/-- A whole number from zero up to a bound: no sign, point or exponent, not even a useless one. -/
def below (bound : Nat) : Reader Nat
  | _, .number (.int n) => if 0 ≤ n ∧ n < bound then some n.toNat else none
  | _, _ => none

/-- A value as a text, read by a grammar of its own. -/
def text {α : Type} (parse : String → Option α) : Reader α := fun room document =>
  (string room document).bind parse

/-- One of several named cases: its name, or an object of its name and `null`. -/
def choice {α : Type} (case : String → Option α) : Reader α
  | _, .string content => content.bind case
  | _ + 1, .object [(name, .null)] => name.bind case
  | _, _ => none

/-- A value that may be missing. -/
def option {α : Type} (read : Reader α) : Reader (Option α)
  | _, .null => some none
  | room, document => (read room document).map some

/-- A list. -/
def list {α : Type} (read : Reader α) : Reader (List α)
  | room + 1, .array items => items.mapM (read room)
  | _, _ => none

/-- One field of a dictionary. -/
def entry {α : Type} (read : Reader α) (room : Nat) :
    Option String × Document → Option (String × α)
  | (some name, value) => (read room value).map fun v => (name, v)
  | (none, _) => none

/-- An object with fields of one kind. The last field of a name counts, but all have to fit. -/
def dict {α : Type} (read : Reader α) : Reader (Dict String α)
  | room + 1, .object fields => (fields.mapM (entry read room)).map Dict.ofList
  | _, _ => none

/-! ## 2. Arbitrary values -/

mutual

/-- Any value at all. Objects come out in key order, and the last field of a name counts. -/
def json : (room : Nat) → Document → Option Json
  | _, .null => some .null
  | _, .bool b => some (.bool b)
  | _, .number (.int n) => some (.int n)
  | _, .number (.float x) => some (.float x)
  | _, .number .tooLarge => none
  | _, .string content => content.map .str
  | room + 1, .array items => (jsonItems room items).map .arr
  | room + 1, .object fields =>
    (jsonFields room fields).map fun fields => .ofDict (Dict.ofList fields)
  | 0, .array _ => none
  | 0, .object _ => none

/-- Any values. -/
def jsonItems : (room : Nat) → List Document → Option (List Json)
  | _, [] => some []
  | room, item :: rest => do return (← json room item) :: (← jsonItems room rest)

/-- Any fields. -/
def jsonFields : (room : Nat) → List (Option String × Document) → Option (List (String × Json))
  | _, [] => some []
  | room, (name, value) :: rest => do
    return (← name, ← json room value) :: (← jsonFields room rest)

end

end Reader

/-! ## 3. Records -/

/-- What was found for the fields of a record. -/
structure Slots where
  /-- Whether the record was an array, in which every field without a default has to be there. -/
  positional : Bool
  room : Nat
  found : List (String × Document)

namespace Slots

/-- The known fields of an object, each of which may be there once. -/
def collect (names : List String) :
    List (Option String × Document) → Option (List (String × Document))
  | [] => some []
  | (none, _) :: _ => none
  | (some name, value) :: rest => do
    let found ← collect names rest
    if !names.contains name then return found
    else if found.any (·.1 == name) then none
    else return (name, value) :: found

/-- The fields of a record with the given names. -/
def read (names : List String) : Reader Slots
  | room + 1, .object fields =>
    (collect names fields).map fun found => ⟨false, room, found⟩
  | room + 1, .array items =>
    if items.length ≤ names.length then some ⟨true, room, names.zip items⟩ else none
  | _, _ => none

/-- What was found for a field. -/
def get? (slots : Slots) (name : String) : Option Document :=
  (slots.found.find? (·.1 == name)).map (·.2)

variable {α : Type}

/-- A field that has to be there, of a form of its own. -/
def requiredBy (read : Reader α) (slots : Slots) (name : String) : Option α :=
  (slots.get? name).bind (read slots.room)

/-- A field of a form of its own that may be absent, unless the record is an array. -/
def optionalBy (read : Reader α) (slots : Slots) (name : String) : Option (Option α) :=
  match slots.get? name with
  | some document => Reader.option read slots.room document
  | none => if slots.positional then none else some none

/-- A field of a form of its own with a default. -/
def defaultedBy (read : Reader α) (slots : Slots) (name : String) (default : α) : Option α :=
  match slots.get? name with
  | some document => read slots.room document
  | none => some default

variable [Wire α]

/-- A field that has to be there. -/
def required (slots : Slots) (name : String) : Option α := slots.requiredBy Wire.read name

/-- A field that may be absent, unless the record is an array. -/
def optional (slots : Slots) (name : String) : Option (Option α) := slots.optionalBy Wire.read name

/-- A field with a default. -/
def defaulted (slots : Slots) (name : String) (default : α) : Option α :=
  slots.defaultedBy Wire.read name default

end Slots

/-! ## 4. Types exchanged as they are -/

instance : Wire Json := ⟨id, Reader.json⟩
instance : Wire String := ⟨.str, Reader.string⟩
instance : Wire Bool := ⟨.bool, Reader.bool⟩
instance : Wire UInt32 := ⟨fun n => .int n.toNat, fun room d =>
  (Reader.below UInt32.size room d).map UInt32.ofNat⟩
instance : Wire UInt64 := ⟨fun n => .int n.toNat, fun room d =>
  (Reader.below UInt64.size room d).map UInt64.ofNat⟩

instance {α : Type} [Wire α] : Wire (Option α) where
  encode
    | none => .null
    | some a => encode a
  read := Reader.option Wire.read

instance {α : Type} [Wire α] : Wire (List α) where
  encode l := .arr (l.map encode)
  read := Reader.list Wire.read

instance {α : Type} [Wire α] : Wire (Dict String α) where
  encode d := .ofDict (d.map encode)
  read := Reader.dict Wire.read

end InstancePool.Json
