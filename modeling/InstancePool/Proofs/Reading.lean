import InstancePool.Proofs.Numerals

/-!
# Values read back from their text

A value whose numbers are whole is written as a text, and what is read from that text is the value: every
string with the same characters, every list and object with the same parts in the same order.

* `Json.Whole`: a value whose numbers are words and signed words;
* `scanPieces_escape`, `parseString_quote`: a string is read back, however it was escaped;
* `parseValue_render`: a value is read back, where what follows it ends it;
* `parse?_render`: the text of a value is read as the value.
-/

namespace InstancePool.Json

/-! ## 1. Whole values -/

mutual

/-- Every number in the value is whole, and a word or a signed word. -/
def Whole : Json → Prop
  | .int n => -2 ^ 63 ≤ n ∧ n < 2 ^ 64
  | .float _ => False
  | .arr items => WholeItems items
  | .obj fields => WholeFields fields
  | _ => True

/-- `Whole` of every item. -/
def WholeItems : List Json → Prop
  | [] => True
  | item :: rest => Whole item ∧ WholeItems rest

/-- `Whole` of every field. -/
def WholeFields : List (String × Json) → Prop
  | [] => True
  | (_, value) :: rest => Whole value ∧ WholeFields rest

end

namespace Document

/-! ## 2. Strings -/

/-- A piece of a string that is one character. -/
def Piece.Spells (c : Char) : Piece → Prop
  | .char d => d = c
  | .unit n => n < 0xD800 ∧ Char.ofNat n = c

section Pieces

variable {c : Char} (tail : List Char)

theorem scanPieces_plain (quote : c ≠ '"') (slash : c ≠ '\\') (visible : 0x20 ≤ c.toNat) :
    scanPieces (c :: tail) = (scanPieces tail).map fun r => (.char c :: r.1, r.2) := by
  rw [scanPieces]
  · have passes : ¬(c == '\\' || decide (c.toNat < 0x20)) = true := by
      simp [slash]
      omega
    rw [if_neg passes]
    cases scanPieces tail <;> rfl
  all_goals simp [quote, slash]

theorem scanPieces_letter {letter : Char} (short : letter ≠ 'u') (stands : escaped letter = some c) :
    scanPieces ('\\' :: letter :: tail) = (scanPieces tail).map fun r => (.char c :: r.1, r.2) := by
  rw [scanPieces, stands]
  · cases scanPieces tail <;> rfl
  · rintro _ _ _ _ _ rfl
    exact absurd rfl short

theorem scanPieces_unit {x y z u : Char} {n : Nat} (value : unitValue x y z u = some n) :
    scanPieces ('\\' :: 'u' :: x :: y :: z :: u :: tail) =
      (scanPieces tail).map fun r => (.unit n :: r.1, r.2) := by
  rw [scanPieces, value]
  cases scanPieces tail <;> rfl

end Pieces

theorem unitValue_hexDigit : ∀ n < 32, unitValue '0' '0' (hexDigit (n / 16)) (hexDigit n) = some n := by
  decide

/-- **A character is one piece**, however it is escaped. -/
theorem scanPieces_escape (c : Char) : ∃ piece : Piece, piece.Spells c ∧ ∀ tail,
    scanPieces (escape c ++ tail) = (scanPieces tail).map fun r => (piece :: r.1, r.2) := by
  unfold escape
  split
  · rename_i quote
    exact ⟨.char c, rfl, fun tail => scanPieces_letter tail (by decide) (by rw [beq_iff_eq.mp quote]; rfl)⟩
  split
  · rename_i slash
    exact ⟨.char c, rfl, fun tail => scanPieces_letter tail (by decide) (by rw [beq_iff_eq.mp slash]; rfl)⟩
  split
  · rename_i quote slash visible
    exact ⟨.char c, rfl, fun tail =>
      scanPieces_plain tail (by simpa using quote) (by simpa using slash) visible⟩
  split
  · rename_i same
    exact ⟨.char c, rfl, fun tail => scanPieces_letter tail (by decide) (by rw [beq_iff_eq.mp same]; rfl)⟩
  split
  · rename_i same
    exact ⟨.char c, rfl, fun tail => scanPieces_letter tail (by decide) (by rw [beq_iff_eq.mp same]; rfl)⟩
  split
  · rename_i same
    exact ⟨.char c, rfl, fun tail => scanPieces_letter tail (by decide) (by rw [beq_iff_eq.mp same]; rfl)⟩
  have named : ∀ {n : Nat} {letter : Char}, (c.toNat == n) = true → escaped letter = some (Char.ofNat n) →
      escaped letter = some c := by
    intro n letter same stands
    rw [stands, ← beq_iff_eq.mp same, Char.ofNat_toNat]
  split
  · rename_i same
    exact ⟨.char c, rfl, fun tail => scanPieces_letter tail (by decide) (named same rfl)⟩
  split
  · rename_i same
    exact ⟨.char c, rfl, fun tail => scanPieces_letter tail (by decide) (named same rfl)⟩
  · rename_i control _ _ _ _ _
    have low : c.toNat < 32 := by omega
    exact ⟨.unit c.toNat, ⟨by omega, Char.ofNat_toNat c⟩, fun tail =>
      scanPieces_unit tail (unitValue_hexDigit c.toNat low)⟩

/-- A piece that is a character is joined as that character. -/
theorem joinPieces_spells {piece : Piece} {c : Char} (spells : piece.Spells c) (pieces : List Piece) :
    joinPieces (piece :: pieces) = (joinPieces pieces).map (c :: ·) := by
  cases piece with
  | char d =>
    cases spells
    rfl
  | unit n =>
    obtain ⟨low, rfl⟩ := spells
    have leading : isLeading n = false := by simp [isLeading]; omega
    have trailing : isTrailing n = false := by simp [isTrailing]; omega
    match pieces with
    | [] => simp [joinPieces, leading, trailing]
    | .char d :: rest => simp [joinPieces, leading, trailing]
    | .unit m :: rest => rw [joinPieces, leading, trailing]; rfl

/-- **A string is read back.** -/
theorem parseString_quote (s : String) (rest : List Char) :
    parseString (s.toList.flatMap escape ++ '"' :: rest) = some (some s, rest) := by
  have scanned : ∀ cs : List Char, ∃ pieces,
      scanPieces (cs.flatMap escape ++ '"' :: rest) = some (pieces, rest) ∧
        joinPieces pieces = some cs := by
    intro cs
    induction cs with
    | nil => exact ⟨[], by simp [scanPieces], rfl⟩
    | cons c cs ih =>
      obtain ⟨pieces, scans, joins⟩ := ih
      obtain ⟨piece, spells, scan⟩ := scanPieces_escape c
      refine ⟨piece :: pieces, ?_, ?_⟩
      · rw [List.flatMap_cons, List.append_assoc, scan, scans]
        rfl
      · rw [joinPieces_spells spells, joins]
        rfl
  obtain ⟨pieces, scans, joins⟩ := scanned s.toList
  unfold parseString
  rw [scans]
  dsimp only [bind, Option.bind]
  rw [joins, Option.map_some, String.ofList_toList]
  rfl

/-! ## 3. Values -/

/-- A character with which a number begins is none with another meaning. -/
theorem ne_of_starts {c d : Char} (starts : c.isDigit = true ∨ c = '-') (nondigit : d.isDigit = false)
    (plus : d ≠ '-') : c ≠ d := by
  rintro rfl
  rcases starts with digit | minus
  · cases nondigit.symm.trans digit
  · exact plus minus

theorem isSpace_of_starts {c : Char} (starts : c.isDigit = true ∨ c = '-') : isSpace c = false := by
  simp only [isSpace, Bool.or_eq_false_iff, beq_eq_false_iff_ne]
  exact ⟨⟨⟨ne_of_starts starts rfl (by decide), ne_of_starts starts rfl (by decide)⟩,
    ne_of_starts starts rfl (by decide)⟩, ne_of_starts starts rfl (by decide)⟩

theorem renderInt_begins (n : Int) :
    ∃ c cs, renderInt n = c :: cs ∧ (c.isDigit = true ∨ c = '-') := by
  cases n with
  | negSucc n => exact ⟨_, _, rfl, .inr rfl⟩
  | ofNat n =>
    cases digits : Nat.toDigits 10 n with
    | nil => exact absurd digits Nat.toDigits_ne_nil
    | cons c cs => exact ⟨c, cs, digits, .inl (isDigit_toDigits n c (digits ▸ List.mem_cons_self))⟩

/-- What a value's text begins with: no space, and nothing that closes a list. -/
theorem renderChars_begins {j : Json} (whole : j.Whole) :
    ∃ c cs, j.renderChars = c :: cs ∧ isSpace c = false ∧ c ≠ ']' := by
  cases j with
  | null => exact ⟨_, _, rfl, rfl, by decide⟩
  | bool b => cases b <;> exact ⟨_, _, rfl, rfl, by decide⟩
  | int n =>
    obtain ⟨c, cs, begins, starts⟩ := renderInt_begins n
    exact ⟨c, cs, begins, isSpace_of_starts starts, ne_of_starts starts rfl (by decide)⟩
  | float x => cases whole
  | str s => exact ⟨_, _, rfl, rfl, by decide⟩
  | arr items => exact ⟨_, _, rfl, rfl, by decide⟩
  | obj fields => exact ⟨_, _, rfl, rfl, by decide⟩

theorem skipSpace_cons {c : Char} (solid : isSpace c = false) (cs : List Char) :
    skipSpace (c :: cs) = c :: cs :=
  List.dropWhile_cons_of_neg (by simp [solid])

/-- A number is read where a digit or a minus begins. -/
theorem parseValue_number {c : Char} (starts : c.isDigit = true ∨ c = '-') (fuel : Nat) (cs : List Char) :
    parseValue (fuel + 1) (c :: cs) =
      (parseNumber (c :: cs)).map fun (n, rest) => (.number n, rest) := by
  rw [parseValue, skipSpace_cons (isSpace_of_starts starts)]
  split
  case h_7 => rfl
  all_goals
    rename_i same
    exact absurd (List.cons.inj same).1 (ne_of_starts starts rfl (by decide))

/-- A list that is not empty is read item by item. -/
theorem parseValue_items {c : Char} (solid : isSpace c = false) (more : c ≠ ']') (fuel : Nat)
    (cs : List Char) : parseValue (fuel + 1) ('[' :: c :: cs) =
      (parseItems fuel (c :: cs)).map fun (items, rest) => (.array items, rest) := by
  rw [parseValue, skipSpace_cons rfl]
  simp [skipSpace_cons solid, more]

/-- An object that is not empty is read field by field. -/
theorem parseValue_fields (fuel : Nat) (cs : List Char) : parseValue (fuel + 1) ('\x7b' :: '"' :: cs) =
      (parseFields fuel ('"' :: cs)).map fun (fields, rest) => (.object fields, rest) := by
  rw [parseValue, skipSpace_cons rfl]
  rfl

section Steps

variable {fuel : Nat} {cs more rest : List Char} {d : Document}

/-- The last item is followed by the bracket. -/
theorem parseItems_last (value : parseValue fuel cs = some (d, ']' :: rest)) :
    parseItems (fuel + 1) cs = some ([d], rest) := by
  rw [parseItems, value]
  rfl

/-- Another item is followed by a comma. -/
theorem parseItems_more {items : List Document} (value : parseValue fuel cs = some (d, ',' :: more))
    (others : parseItems fuel more = some (items, rest)) :
    parseItems (fuel + 1) cs = some (d :: items, rest) := by
  rw [parseItems, value]
  show (parseItems fuel more >>= _) = _
  rw [others]
  rfl

variable (name : String)

/-- A field begins with its name and a colon. -/
theorem parseFields_named (cs : List Char) : parseFields (fuel + 1) (quote name ++ ':' :: cs) = (do
    let (value, rest) ← parseValue fuel cs
    match skipSpace rest with
    | ',' :: rest =>
      let (fields, rest) ← parseFields fuel rest
      return ((some name, value) :: fields, rest)
    | '\x7d' :: rest => return ([(some name, value)], rest)
    | _ => none) := by
  have opened : quote name ++ ':' :: cs = '"' :: (name.toList.flatMap escape ++ '"' :: ':' :: cs) := by
    simp [quote]
  rw [opened, parseFields, skipSpace_cons rfl]
  show (parseString _ >>= _) = _
  rw [parseString_quote]
  rfl

/-- The last field is followed by the brace. -/
theorem parseFields_last (value : parseValue fuel cs = some (d, '\x7d' :: rest)) :
    parseFields (fuel + 1) (quote name ++ ':' :: cs) = some ([(some name, d)], rest) := by
  rw [parseFields_named, value]
  rfl

/-- Another field is followed by a comma. -/
theorem parseFields_more {fields : List (Option String × Document)}
    (value : parseValue fuel cs = some (d, ',' :: more))
    (others : parseFields fuel more = some (fields, rest)) :
    parseFields (fuel + 1) (quote name ++ ':' :: cs) = some ((some name, d) :: fields, rest) := by
  rw [parseFields_named, value]
  show (parseFields fuel more >>= _) = _
  rw [others]
  rfl

end Steps

theorem closed_cons {c : Char} (closes : c = ',' ∨ c = ']' ∨ c = '\x7d') (rest : List Char) :
    Closed (c :: rest) := by
  rintro _ ⟨⟩
  exact closes

mutual

/-- **A value is read back.** Twice the length of its text is fuel enough. -/
theorem parseValue_render : ∀ (j : Json) (fuel : Nat) (rest : List Char), j.Whole →
    2 * j.renderChars.length ≤ fuel → Closed rest →
    parseValue fuel (j.renderChars ++ rest) = some (ofJson j, rest)
  | _, 0, _, whole, fuel, _ => by
    obtain ⟨c, cs, begins, -⟩ := renderChars_begins whole
    rw [begins, List.length_cons] at fuel
    omega
  | .null, _ + 1, _, _, _, _ => rfl
  | .bool true, _ + 1, _, _, _, _ => rfl
  | .bool false, _ + 1, _, _, _, _ => rfl
  | .int n, fuel + 1, rest, whole, _, closed => by
    have read := parseNumber_renderInt whole.1 whole.2 closed
    obtain ⟨c, cs, begins, starts⟩ := renderInt_begins n
    show parseValue (fuel + 1) (renderInt n ++ rest) = _
    rw [begins, List.cons_append] at read ⊢
    rw [parseValue_number starts, read]
    rfl
  | .float x, _ + 1, _, whole, _, _ => whole.elim
  | .str s, fuel + 1, rest, _, _, _ => by
    have opened : parseValue (fuel + 1) ((Json.str s).renderChars ++ rest) =
        (parseString (s.toList.flatMap escape ++ ['"'] ++ rest)).map
          fun (content, rest) => (.string content, rest) := rfl
    rw [opened, List.append_assoc, List.singleton_append, parseString_quote]
    rfl
  | .arr [], _ + 1, _, _, _, _ => rfl
  | .arr (item :: items), fuel + 1, rest, whole, enough, _ => by
    obtain ⟨c, cs, begins, solid, more⟩ := renderChars_begins whole.1
    have read := parseItems_render (item :: items) fuel rest whole (by simp)
      (by rw [renderChars, List.length_cons] at enough; omega)
    rw [renderItems, begins, List.cons_append, List.cons_append] at read
    have opened := parseValue_items solid more fuel (cs ++ renderMoreItems items ++ rest)
    rw [read] at opened
    rw [renderChars, renderItems, begins]
    exact opened
  | .obj [], _ + 1, _, _, _, _ => rfl
  | .obj ((name, value) :: fields), fuel + 1, rest, whole, enough, _ => by
    have read := parseFields_render ((name, value) :: fields) fuel rest whole (by simp)
      (by rw [renderChars, List.length_cons] at enough; omega)
    rw [renderFields, quote, List.cons_append, List.cons_append, List.cons_append, List.cons_append] at read
    have opened := parseValue_fields fuel
      (name.toList.flatMap escape ++ ['"'] ++ ':' :: value.renderChars ++ renderMoreFields fields ++ rest)
    rw [read] at opened
    rw [renderChars, renderFields, quote]
    exact opened

/-- Items are read back with the bracket that closes them. -/
theorem parseItems_render : ∀ (items : List Json) (fuel : Nat) (rest : List Char), WholeItems items →
    items ≠ [] → 2 * (renderItems items).length + 1 ≤ fuel →
    parseItems fuel (renderItems items ++ rest) = some (ofItems items, rest)
  | [], _, _, _, filled, _ => absurd rfl filled
  | _, 0, _, _, _, fuel => by omega
  | [item], fuel + 1, rest, whole, _, enough => by
    rw [renderItems, renderMoreItems] at enough ⊢
    rw [List.length_append] at enough
    rw [List.append_assoc]
    exact parseItems_last
      (parseValue_render item fuel (']' :: rest) whole.1 (by omega) (closed_cons (by decide) rest))
  | item :: next :: items, fuel + 1, rest, whole, _, enough => by
    have split : renderItems (item :: next :: items) =
        item.renderChars ++ ',' :: renderItems (next :: items) := rfl
    rw [split] at enough ⊢
    rw [List.length_append, List.length_cons] at enough
    rw [List.append_assoc]
    exact parseItems_more
      (parseValue_render item fuel _ whole.1 (by omega) (closed_cons (by decide) _))
      (parseItems_render (next :: items) fuel rest whole.2 (by simp) (by omega))

/-- Fields are read back with the brace that closes them. -/
theorem parseFields_render : ∀ (fields : List (String × Json)) (fuel : Nat) (rest : List Char),
    WholeFields fields → fields ≠ [] → 2 * (renderFields fields).length + 1 ≤ fuel →
    parseFields fuel (renderFields fields ++ rest) = some (ofFields fields, rest)
  | [], _, _, _, filled, _ => absurd rfl filled
  | _, 0, _, _, _, fuel => by omega
  | [(name, value)], fuel + 1, rest, whole, _, enough => by
    have split : renderFields [(name, value)] = quote name ++ ':' :: (value.renderChars ++ ['\x7d']) := by
      simp [renderFields, renderMoreFields]
    rw [split] at enough ⊢
    rw [List.length_append, List.length_cons, List.length_append] at enough
    rw [List.append_assoc, List.cons_append, List.append_assoc]
    exact parseFields_last name
      (parseValue_render value fuel ('\x7d' :: rest) whole.1 (by omega) (closed_cons (by decide) rest))
  | (name, value) :: next :: fields, fuel + 1, rest, whole, _, enough => by
    have split : renderFields ((name, value) :: next :: fields) =
        quote name ++ ':' :: (value.renderChars ++ ',' :: renderFields (next :: fields)) := by
      simp [renderFields, renderMoreFields]
    rw [split] at enough ⊢
    rw [List.length_append, List.length_cons, List.length_append, List.length_cons] at enough
    rw [List.append_assoc, List.cons_append, List.append_assoc]
    exact parseFields_more name
      (parseValue_render value fuel _ whole.1 (by omega) (closed_cons (by decide) _))
      (parseFields_render (next :: fields) fuel rest whole.2 (by simp) (by omega))

end

/-- **The text of a value** is read as the value. -/
theorem parse?_render {j : Json} (whole : j.Whole) : parse? j.render = some (ofJson j) := by
  have read := parseValue_render j (2 * j.renderChars.length + 2) [] whole (by omega) closed_nil
  rw [List.append_nil] at read
  unfold parse? parseChars render
  rw [String.toList_ofList, read]
  rfl

end Document

end InstancePool.Json
