import InstancePool.Agent.Endpoints
import InstancePool.Proofs.Formats

/-!
# What is read stands in key order

An environment is read back from its text if its objects stand in key order and its whole numbers are words
or signed words. That asks nothing of a caller: every value that was read from a text is like that, whatever
the text, for a reader sorts the fields of every object and takes no other whole numbers.

* `Document.InRange`, `parse?_inRange`: the whole numbers of every document are words and signed words;
* `json_isMap`: a value that is taken out of such a document stands in key order;
* `Request.env_isMap`, `Agent.Settings.env_isMap`: so does the environment of all requests and settings that
  were read;
* `Request.reread`, `Agent.settings_reread`: a request that was read is read back, and so are the settings
  that are made for it.
-/

namespace InstancePool

/-! ## 1. Dictionaries -/

namespace Dict

variable {κ α : Type} [LT κ] [DecidableEq κ] [DecidableLT κ] [Key κ]

theorem mem_entries_foldl_insert {entries : List (κ × α)} {d : Dict κ α} {p : κ × α}
    (member : p ∈ (entries.foldl (fun d q => d.insert q.1 q.2) d).entries) :
    p ∈ d.entries ∨ p ∈ entries := by
  induction entries generalizing d with
  | nil => exact .inl member
  | cons q rest ih =>
    rcases ih member with inserted | later
    · rcases mem_insertInto inserted with new | old
      · exact .inr (by simp [new])
      · exact .inl old
    · exact .inr (List.mem_cons_of_mem _ later)

/-- A dictionary has no entries but those that it was made of. -/
theorem mem_entries_ofList {entries : List (κ × α)} {p : κ × α} (member : p ∈ (ofList entries).entries) :
    p ∈ entries :=
  (mem_entries_foldl_insert member).resolve_left List.not_mem_nil

end Dict

namespace Json

/-! ## 2. Numbers -/

theorem isMap_natCast {n : Nat} (word : n < UInt64.size) : (Json.int n).IsMap := by
  have small : n < 18446744073709551616 := word
  show -2 ^ 63 ≤ (n : Int) ∧ (n : Int) < 2 ^ 64
  omega

theorem isMap_neg {n : Nat} (signed : n ≤ Nat.pow 2 63) : (Json.int (-n)).IsMap := by
  have small : n ≤ 9223372036854775808 := signed
  show -2 ^ 63 ≤ -(n : Int) ∧ -(n : Int) < 2 ^ 64
  omega

/-- A number that is a word or a signed word if it is whole. -/
def Number.InRange : Number → Prop
  | .int n => (Json.int n).IsMap
  | _ => True

namespace Document

theorem extendWord_lt {word : Nat} (cs : List Char) (small : word < UInt64.size) :
    (extendWord word cs).1 < UInt64.size := by
  induction cs generalizing word with
  | nil => exact small
  | cons c cs ih =>
    by_cases fits : word * 10 + digit c < UInt64.size
    · rw [extendWord, if_pos fits]
      exact ih fits
    · rw [extendWord, if_neg fits]
      exact small

theorem fractionOf_inRange (negative : Bool) (word : Nat) (exponent : Int) :
    (fractionOf negative word exponent).InRange := by
  unfold fractionOf
  split <;> trivial

/-- Only a word is taken as it is, and only a signed word with its sign; all else is a fraction. -/
theorem numberOf_inRange (negative : Bool) (whole : List Char) (fraction : Option (List Char))
    (exponent : Option (Bool × List Char)) : (numberOf negative whole fraction exponent).InRange := by
  have fits : (extendWord 0 whole).1 < UInt64.size := extendWord_lt whole (by decide)
  unfold numberOf
  generalize extendWord 0 whole = first at fits
  obtain ⟨word, rest⟩ := first
  dsimp only at fits ⊢
  split
  · -- without point and exponent: more than a word, a word, or one with a sign
    split
    · exact fractionOf_inRange ..
    · split
      · exact isMap_natCast fits
      · split
        · exact fractionOf_inRange ..
        · rename_i signed
          exact isMap_neg (Nat.le_of_not_lt fun large => signed (.inr large))
  · -- with one of them, it is never whole
    split
    · exact fractionOf_inRange ..
    · split
      · split <;> trivial
      · exact fractionOf_inRange ..

theorem parseMagnitude_inRange {negative : Bool} {cs rest : List Char} {number : Number}
    (read : parseMagnitude negative cs = some (number, rest)) : number.InRange := by
  unfold parseMagnitude at read
  dsimp only at read
  split at read
  · cases read
  · obtain ⟨⟨fraction, _⟩, -, read⟩ := Option.bind_eq_some_iff.mp read
    obtain ⟨⟨exponent, _⟩, -, read⟩ := Option.bind_eq_some_iff.mp read
    cases read
    exact numberOf_inRange ..

theorem parseNumber_inRange {cs rest : List Char} {number : Number}
    (read : parseNumber cs = some (number, rest)) : number.InRange := by
  unfold parseNumber at read
  split at read
  · exact parseMagnitude_inRange read
  · exact parseMagnitude_inRange read

/-! ## 3. Documents -/

mutual

/-- Every whole number in the document is a word or a signed word. -/
def InRange : Document → Prop
  | .number n => n.InRange
  | .array items => InRangeItems items
  | .object fields => InRangeFields fields
  | _ => True

/-- `InRange` of every item. -/
def InRangeItems : List Document → Prop
  | [] => True
  | item :: rest => InRange item ∧ InRangeItems rest

/-- `InRange` of every field. -/
def InRangeFields : List (Option String × Document) → Prop
  | [] => True
  | (_, value) :: rest => InRange value ∧ InRangeFields rest

end

theorem inRangeItems_iff {items : List Document} : InRangeItems items ↔ ∀ item ∈ items, item.InRange := by
  induction items with
  | nil => simp [InRangeItems]
  | cons item rest ih => rw [List.forall_mem_cons, ← ih]; rfl

mutual

/-- What is read has its numbers in range, however much fuel there is: the induction is on it, as every
    part of a value is read with less. -/
theorem parseValue_inRange : ∀ (fuel : Nat) {cs rest : List Char} {document : Document},
    parseValue fuel cs = some (document, rest) → document.InRange
  | 0, _, _, _, read => by cases read
  | fuel + 1, _, _, _, read => by
    rw [parseValue] at read
    split at read
    · cases read
      trivial
    · cases read
      trivial
    · cases read
      trivial
    · obtain ⟨_, -, same⟩ := Option.map_eq_some_iff.mp read
      cases same
      trivial
    · split at read
      · cases read
        trivial
      · obtain ⟨⟨items, _⟩, parsed, same⟩ := Option.map_eq_some_iff.mp read
        cases same
        exact parseItems_inRange fuel parsed
    · split at read
      · cases read
        trivial
      · obtain ⟨⟨fields, _⟩, parsed, same⟩ := Option.map_eq_some_iff.mp read
        cases same
        exact parseFields_inRange fuel parsed
    · obtain ⟨⟨number, _⟩, parsed, same⟩ := Option.map_eq_some_iff.mp read
      cases same
      exact parseNumber_inRange parsed

theorem parseItems_inRange : ∀ (fuel : Nat) {cs rest : List Char} {items : List Document},
    parseItems fuel cs = some (items, rest) → InRangeItems items
  | 0, _, _, _, read => by cases read
  | fuel + 1, _, _, _, read => by
    rw [parseItems] at read
    obtain ⟨⟨item, _⟩, parsed, read⟩ := Option.bind_eq_some_iff.mp read
    have first := parseValue_inRange fuel parsed
    dsimp only at read
    split at read
    · obtain ⟨⟨items, _⟩, more, read⟩ := Option.bind_eq_some_iff.mp read
      cases read
      exact ⟨first, parseItems_inRange fuel more⟩
    · cases read
      exact ⟨first, trivial⟩
    · cases read

theorem parseFields_inRange : ∀ (fuel : Nat) {cs rest : List Char}
    {fields : List (Option String × Document)},
    parseFields fuel cs = some (fields, rest) → InRangeFields fields
  | 0, _, _, _, read => by cases read
  | fuel + 1, _, _, _, read => by
    rw [parseFields] at read
    split at read
    · obtain ⟨⟨name, _⟩, -, read⟩ := Option.bind_eq_some_iff.mp read
      dsimp only at read
      split at read
      · obtain ⟨⟨value, _⟩, parsed, read⟩ := Option.bind_eq_some_iff.mp read
        have first := parseValue_inRange fuel parsed
        dsimp only at read
        split at read
        · obtain ⟨⟨fields, _⟩, more, read⟩ := Option.bind_eq_some_iff.mp read
          cases read
          exact ⟨first, parseFields_inRange fuel more⟩
        · cases read
          exact ⟨first, trivial⟩
        · cases read
      · cases read
    · cases read

end

/-- **The numbers of every text** are in range once it is read. -/
theorem parse?_inRange {text : String} {document : Document} (read : parse? text = some document) :
    document.InRange := by
  obtain ⟨⟨parsed, rest⟩, value, read⟩ := Option.bind_eq_some_iff.mp read
  dsimp only at read
  split at read
  · cases read
    exact parseValue_inRange _ value
  · cases read

end Document

/-! ## 4. Values -/

theorem isMapFields_iff {fields : List (String × Json)} :
    IsMapFields fields ↔ ∀ field ∈ fields, field.2.IsMap := by
  induction fields with
  | nil => simp [IsMapFields]
  | cons field rest ih => rw [List.forall_mem_cons, ← ih]; rfl

/-- The fields of an object are sorted, whatever their order was. -/
theorem isMap_ofList {fields : List (String × Json)} (values : IsMapFields fields) :
    (ofDict (.ofList fields)).IsMap := by
  have each := isMapFields_iff.mp values
  refine ⟨(Dict.ofList fields).ascending, isMapFields_iff.mpr fun field member => ?_⟩
  exact each field (Dict.mem_entries_ofList member)

mutual

/-- **A value that is taken out of a document** stands in key order. -/
theorem json_isMap : ∀ (room : Nat) (document : Document) {j : Json}, document.InRange →
    Reader.json room document = some j → j.IsMap
  | _, .null, _, _, read => by rw [Reader.json] at read; cases read; trivial
  | _, .bool b, _, _, read => by rw [Reader.json] at read; cases read; trivial
  | _, .number (.int n), _, inside, read => by rw [Reader.json] at read; cases read; exact inside
  | _, .number (.float x), _, _, read => by rw [Reader.json] at read; cases read; trivial
  | _, .number .tooLarge, _, _, read => by rw [Reader.json] at read; cases read
  | _, .string content, _, _, read => by
    rw [Reader.json] at read
    obtain ⟨_, -, rfl⟩ := Option.map_eq_some_iff.mp read
    trivial
  | 0, .array items, _, _, read => by rw [Reader.json] at read; cases read
  | room + 1, .array items, _, inside, read => by
    rw [Reader.json] at read
    obtain ⟨values, taken, rfl⟩ := Option.map_eq_some_iff.mp read
    exact jsonItems_isMap room items inside taken
  | 0, .object fields, _, _, read => by rw [Reader.json] at read; cases read
  | room + 1, .object fields, _, inside, read => by
    rw [Reader.json] at read
    obtain ⟨values, taken, rfl⟩ := Option.map_eq_some_iff.mp read
    exact isMap_ofList (jsonFields_isMap room fields inside taken)

theorem jsonItems_isMap : ∀ (room : Nat) (items : List Document) {values : List Json},
    Document.InRangeItems items → Reader.jsonItems room items = some values → IsMapItems values
  | _, [], _, _, read => by rw [Reader.jsonItems] at read; cases read; trivial
  | room, item :: rest, _, inside, read => by
    rw [Reader.jsonItems] at read
    obtain ⟨value, first, read⟩ := Option.bind_eq_some_iff.mp read
    obtain ⟨values, more, read⟩ := Option.bind_eq_some_iff.mp read
    cases read
    exact ⟨json_isMap room item inside.1 first, jsonItems_isMap room rest inside.2 more⟩

theorem jsonFields_isMap : ∀ (room : Nat) (fields : List (Option String × Document))
    {values : List (String × Json)}, Document.InRangeFields fields →
    Reader.jsonFields room fields = some values → IsMapFields values
  | _, [], _, _, read => by rw [Reader.jsonFields] at read; cases read; trivial
  | room, (name, document) :: rest, _, inside, read => by
    rw [Reader.jsonFields] at read
    obtain ⟨key, -, read⟩ := Option.bind_eq_some_iff.mp read
    obtain ⟨value, first, read⟩ := Option.bind_eq_some_iff.mp read
    obtain ⟨values, more, read⟩ := Option.bind_eq_some_iff.mp read
    cases read
    exact ⟨json_isMap room document inside.1 first, jsonFields_isMap room rest inside.2 more⟩

end

/-! ## 5. Fields of records -/

namespace Slots

/-- What was found for the fields of a record has its numbers in range. -/
def InRange (slots : Slots) : Prop := ∀ field ∈ slots.found, field.2.InRange

theorem collect_inRange {names : List String} {fields : List (Option String × Document)}
    {found : List (String × Document)} (inside : Document.InRangeFields fields)
    (read : collect names fields = some found) : ∀ field ∈ found, field.2.InRange := by
  induction fields generalizing found with
  | nil =>
    cases read
    nofun
  | cons field rest ih =>
    obtain ⟨_ | name, value⟩ := field
    · cases read
    · obtain ⟨others, collected, read⟩ := Option.bind_eq_some_iff.mp read
      have later := ih inside.2 collected
      split at read
      · cases read
        exact later
      · split at read
        · cases read
        · cases read
          exact List.forall_mem_cons.mpr ⟨inside.1, later⟩

/-- The parts of a document are in range with it, whether its fields are named or in order. -/
theorem read_inRange {names : List String} {room : Nat} {document : Document} {slots : Slots}
    (inside : document.InRange) (read : Slots.read names room document = some slots) : slots.InRange := by
  unfold Slots.read at read
  split at read
  · obtain ⟨found, collected, rfl⟩ := Option.map_eq_some_iff.mp read
    exact collect_inRange inside collected
  · split at read
    · cases read
      intro field member
      exact Document.inRangeItems_iff.mp inside field.2 (List.of_mem_zip member).2
    · cases read
  · cases read

section Found

variable {slots : Slots} (inside : slots.InRange) {name : String} {j : Json}

include inside

theorem get?_inRange {document : Document} (found : slots.get? name = some document) :
    document.InRange := by
  obtain ⟨field, stands, rfl⟩ := Option.map_eq_some_iff.mp found
  exact inside field (List.mem_of_find?_eq_some stands)

theorem required_isMap (read : slots.required name = some j) : j.IsMap := by
  obtain ⟨document, found, taken⟩ := Option.bind_eq_some_iff.mp read
  exact json_isMap _ document (get?_inRange inside found) taken

theorem defaulted_isMap {default : Json} (read : slots.defaulted name default = some j)
    (ordered : default.IsMap) : j.IsMap := by
  unfold defaulted defaultedBy at read
  split at read
  · rename_i document found
    exact json_isMap _ document (get?_inRange inside found) read
  · cases read
    exact ordered

end Found

/-- A record that was read is built from fields in range. -/
theorem built_inRange {α : Type} [Wire α] {names : List String} {build : Slots → Option α}
    (reads : ∀ room document, Wire.read room document = Slots.read names room document >>= build)
    {text : String} {a : α} (read : Json.decode α text = some a) :
    ∃ slots : Slots, slots.InRange ∧ build slots = some a := by
  obtain ⟨document, parsed, taken⟩ := Option.bind_eq_some_iff.mp read
  rw [reads] at taken
  obtain ⟨slots, opened, built⟩ := Option.bind_eq_some_iff.mp taken
  exact ⟨slots, read_inRange (Document.parse?_inRange parsed) opened, built⟩

end Slots

end Json

/-! ## 6. Environments -/

open Json (encode Slots)

/-- **The environment of a request that was read** stands in key order. -/
theorem Request.env_isMap {text : String} {r : Request} (read : Json.decode Request text = some r) :
    r.env.IsMap := by
  obtain ⟨slots, inside, built⟩ := Slots.built_inRange (fun _ _ => rfl) read
  obtain ⟨agentId, -, built⟩ := Option.bind_eq_some_iff.mp built
  obtain ⟨stemcell, -, built⟩ := Option.bind_eq_some_iff.mp built
  obtain ⟨shape, -, built⟩ := Option.bind_eq_some_iff.mp built
  obtain ⟨networks, -, built⟩ := Option.bind_eq_some_iff.mp built
  obtain ⟨env, taken, built⟩ := Option.bind_eq_some_iff.mp built
  obtain ⟨externalIp, -, built⟩ := Option.bind_eq_some_iff.mp built
  cases built
  exact Slots.defaulted_isMap inside taken trivial

/-- **The environment of settings that were read** stands in key order. -/
theorem Agent.Settings.env_isMap {text : String} {s : Agent.Settings}
    (read : Json.decode Agent.Settings text = some s) : s.env.IsMap := by
  obtain ⟨slots, inside, built⟩ := Slots.built_inRange (fun _ _ => rfl) read
  obtain ⟨agentId, -, built⟩ := Option.bind_eq_some_iff.mp built
  obtain ⟨machine, -, built⟩ := Option.bind_eq_some_iff.mp built
  obtain ⟨mbus, -, built⟩ := Option.bind_eq_some_iff.mp built
  obtain ⟨blobstore, -, built⟩ := Option.bind_eq_some_iff.mp built
  obtain ⟨ntp, -, built⟩ := Option.bind_eq_some_iff.mp built
  obtain ⟨disks, -, built⟩ := Option.bind_eq_some_iff.mp built
  obtain ⟨networks, -, built⟩ := Option.bind_eq_some_iff.mp built
  obtain ⟨env, taken, built⟩ := Option.bind_eq_some_iff.mp built
  cases built
  exact Slots.required_isMap inside taken

section Reread

variable {text : String} {r : Request} (read : Json.decode Request text = some r) (whole : r.env.Whole)

include read whole

/-- **A request that was read** is read back from what it is written as. -/
theorem Request.reread (shallow : (encode r).depth ≤ Json.depthLimit) :
    Json.decode Request (encode r).render = some r :=
  (Request.faithful (Json.faithful_json (Request.env_isMap read) whole)).decode shallow

/-- **The settings that are made for a request that was read** are read back. -/
theorem Agent.settings_reread (i : Instance) (selected : Networks) (endpoints : Agent.Endpoints)
    (options : Agent.Options)
    (shallow : (encode (Agent.settings i r selected endpoints options)).depth ≤ Json.depthLimit) :
    Json.decode Agent.Settings (encode (Agent.settings i r selected endpoints options)).render =
      some (Agent.settings i r selected endpoints options) := by
  have ordered : (Agent.settings i r selected endpoints options).env.IsMap := Request.env_isMap read
  exact (Agent.Settings.faithful (Json.faithful_json ordered whole)).decode shallow

end Reread

end InstancePool
