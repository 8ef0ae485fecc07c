import InstancePool.Proofs.Addressing
import InstancePool.Proofs.Reading

/-!
# Values that are read back

A value that is written as JSON should be the value that is read from the text. Here this is traced from
the plain values through options, lists and dictionaries to records, whose fields are found again by their
names. An arbitrary JSON value is read back if its objects stand in key order, as they do in every value
that a text was read as.

* `Faithful`: a value that is read back, and `Exact`: a type all of whose values are;
* `Dict.ofList_entries`: a dictionary is the one of its entries;
* `faithful_json`: an arbitrary value is read back;
* `Slots.read_obj`, `Slots.required_of`, `Slots.defaulted_of`, `Slots.optional_of`: the fields of a record
  are found again;
* `Faithful.record`: a record is read back;
* `Faithful.decode`: what is read back from its document is read back from its text.
-/

namespace InstancePool

/-! ## 1. Dictionaries -/

namespace Dict

variable {κ α : Type} [LT κ] [DecidableEq κ] [DecidableLT κ] [Key κ]

/-- A key after all others goes to the end. -/
theorem insertInto_last {key : κ} {value : α} {entries : List (κ × α)}
    (last : ∀ p ∈ entries, p.1 < key) : insertInto key value entries = entries ++ [(key, value)] := by
  induction entries with
  | nil => rfl
  | cons p rest ih =>
    have before := last p List.mem_cons_self
    have after : ¬key < p.1 := fun swapped => Key.irrefl _ (Key.trans before swapped)
    have other : key ≠ p.1 := fun same => Key.irrefl p.1 (by rw [same] at before; exact before)
    rw [insertInto, if_neg after, if_neg other, ih fun q member => last q (List.mem_cons_of_mem _ member)]
    rfl

theorem entries_foldl (entries : List (κ × α)) (d : Dict κ α) (ascending : Ascending (d.entries ++ entries)) :
    (entries.foldl (fun d p => d.insert p.1 p.2) d).entries = d.entries ++ entries := by
  induction entries generalizing d with
  | nil => exact (List.append_nil _).symm
  | cons p rest ih =>
    have last : ∀ q ∈ d.entries, q.1 < p.1 := fun q member =>
      (List.pairwise_append.mp ascending).2.2 q member p List.mem_cons_self
    have inserted : (d.insert p.1 p.2).entries = d.entries ++ [p] := insertInto_last last
    rw [List.foldl_cons, ih]
    · rw [inserted, List.append_assoc]
      rfl
    · rw [inserted, List.append_assoc]
      exact ascending

/-- **A dictionary is the one of its entries.** -/
theorem ofList_entries (d : Dict κ α) : ofList d.entries = d :=
  ext_entries (entries_foldl d.entries empty d.ascending)

end Dict

/-! ## 2. Values that are read back -/

namespace Json

/-- A value that loses nothing: what it is written as has whole numbers only, and it is read back wherever
    there is room for it. -/
structure Faithful {α : Type} [Wire α] (a : α) : Prop where
  whole : (encode a).Whole
  reads : ∀ room, (encode a).depth ≤ room → Wire.read room (Document.ofJson (encode a)) = some a

/-- A type whose values are all read back. -/
class Exact (α : Type) [Wire α] : Prop where
  faithful : ∀ a : α, Faithful a

/-- A type whose values are never written as `null`. -/
class Filled (α : Type) [Wire α] : Prop where
  ne_null : ∀ a : α, encode a ≠ .null

/-- **What is read back from its document** is read back from its text. -/
theorem Faithful.decode {α : Type} [Wire α] {a : α} (h : Faithful a)
    (shallow : (encode a).depth ≤ depthLimit) : Json.decode α (encode a).render = some a := by
  unfold Json.decode Reader.run
  rw [Document.parse?_render h.whole]
  exact h.reads depthLimit shallow

section Plain

instance : Exact String := ⟨fun _ => ⟨trivial, fun _ _ => rfl⟩⟩

instance : Filled String := ⟨fun _ => nofun⟩

instance : Exact Bool := ⟨fun _ => ⟨trivial, fun _ _ => rfl⟩⟩

theorem below_nat {bound n room : Nat} (small : n < bound) :
    Reader.below bound room (.number (.int n)) = some n := by
  unfold Reader.below
  dsimp only
  rw [if_pos ⟨Int.natCast_nonneg n, Int.ofNat_lt.mpr small⟩, Int.toNat_natCast]

instance : Exact UInt32 where
  faithful n :=
    { whole := ⟨by omega, by have := n.toNat_lt; omega⟩
      reads := fun room _ => by
        show (Reader.below UInt32.size room (.number (.int n.toNat))).map UInt32.ofNat = some n
        rw [below_nat n.toNat_lt, Option.map_some, UInt32.ofNat_toNat] }

instance : Exact UInt64 where
  faithful n :=
    { whole := ⟨by omega, by have := n.toNat_lt; omega⟩
      reads := fun room _ => by
        show (Reader.below UInt64.size room (.number (.int n.toNat))).map UInt64.ofNat = some n
        rw [below_nat n.toNat_lt, Option.map_some, UInt64.ofNat_toNat] }

instance : Filled UInt64 := ⟨fun _ => nofun⟩

instance : Exact Address where
  faithful ip := ⟨trivial, fun _ _ => Address.parse?_render ip⟩

instance : Filled Address := ⟨fun _ => nofun⟩

end Plain

section Compound

variable {α : Type} [Wire α]

theorem ofJson_ne_null {j : Json} (filled : j ≠ .null) : Document.ofJson j ≠ .null := by
  cases j with
  | null => exact absurd rfl filled
  | _ => nofun

/-- A value that may be missing is told apart from `null`. -/
theorem option_some {a : α} (filled : encode a ≠ .null) (room : Nat) :
    Reader.option (Wire.read : Reader α) room (Document.ofJson (encode a)) =
      (Wire.read room (Document.ofJson (encode a))).map some := by
  have other := ofJson_ne_null filled
  unfold Reader.option
  split
  · rename_i null
    exact absurd null other
  · rfl

instance [Exact α] [Filled α] : Exact (Option α) where
  faithful
    | none => ⟨trivial, fun _ _ => rfl⟩
    | some a =>
      { whole := (Exact.faithful a).whole
        reads := fun room deep =>
          (option_some (Filled.ne_null a) room).trans
            (congrArg (Option.map some) ((Exact.faithful a).reads room deep)) }

theorem wholeItems_map {l : List α} (whole : ∀ a ∈ l, (encode a).Whole) : WholeItems (l.map encode) := by
  induction l with
  | nil => trivial
  | cons a l ih => exact ⟨whole a List.mem_cons_self, ih fun b member => whole b (List.mem_cons_of_mem _ member)⟩

theorem mapM_items {l : List α} (faithful : ∀ a ∈ l, Faithful a) {room : Nat}
    (deep : depthItems (l.map encode) ≤ room) :
    (Document.ofItems (l.map encode)).mapM (Wire.read room) = some l := by
  induction l with
  | nil => rfl
  | cons a l ih =>
    have deep' : max (encode a).depth (depthItems (l.map encode)) ≤ room := deep
    have first := (faithful a List.mem_cons_self).reads room (by omega)
    have rest := ih (fun b member => faithful b (List.mem_cons_of_mem _ member)) (by omega)
    rw [List.map_cons, Document.ofItems, List.mapM_cons, first, rest]
    rfl

theorem Faithful.list {l : List α} (faithful : ∀ a ∈ l, Faithful a) : Faithful l where
  whole := wholeItems_map fun a member => (faithful a member).whole
  reads room deep := by
    cases room with
    | zero => exact absurd deep (Nat.not_succ_le_zero _)
    | succ room => exact mapM_items faithful (Nat.le_of_succ_le_succ deep)

instance [Exact α] : Exact (List α) := ⟨fun _ => .list fun a _ => Exact.faithful a⟩

theorem mapM_entries {entries : List (String × α)} (faithful : ∀ p ∈ entries, Faithful p.2) {room : Nat}
    (deep : depthFields (entries.map fun p => (p.1, encode p.2)) ≤ room) :
    (Document.ofFields (entries.map fun p => (p.1, encode p.2))).mapM
      (Reader.entry (Wire.read : Reader α) room) = some entries := by
  induction entries with
  | nil => rfl
  | cons p entries ih =>
    have deep' : max (encode p.2).depth (depthFields (entries.map fun p => (p.1, encode p.2))) ≤ room := deep
    have first := (faithful p List.mem_cons_self).reads room (by omega)
    have rest := ih (fun q member => faithful q (List.mem_cons_of_mem _ member)) (by omega)
    rw [List.map_cons, Document.ofFields, List.mapM_cons, Reader.entry, first, rest]
    rfl

theorem wholeFields_map {entries : List (String × α)} (whole : ∀ p ∈ entries, (encode p.2).Whole) :
    WholeFields (entries.map fun p => (p.1, encode p.2)) := by
  induction entries with
  | nil => trivial
  | cons p entries ih =>
    exact ⟨whole p List.mem_cons_self, ih fun q member => whole q (List.mem_cons_of_mem _ member)⟩

theorem Faithful.dict {d : Dict String α} (faithful : ∀ p ∈ d.entries, Faithful p.2) : Faithful d where
  whole := wholeFields_map fun p member => (faithful p member).whole
  reads room deep := by
    cases room with
    | zero => exact absurd deep (Nat.not_succ_le_zero _)
    | succ room =>
      have entries := mapM_entries faithful (Nat.le_of_succ_le_succ deep)
      exact (congrArg (Option.map Dict.ofList) entries).trans (congrArg some d.ofList_entries)

instance [Exact α] : Exact (Dict String α) := ⟨fun _ => .dict fun p _ => Exact.faithful p.2⟩

end Compound

/-! ## 3. Arbitrary values -/

mutual

/-- A value in key order is read back as it is. -/
theorem json_ofJson : ∀ (j : Json) (room : Nat), j.IsMap → j.depth ≤ room →
    Reader.json room (Document.ofJson j) = some j
  | .null, _, _, _ => by simp [Document.ofJson, Reader.json]
  | .bool b, _, _, _ => by simp [Document.ofJson, Reader.json]
  | .int n, _, _, _ => by simp [Document.ofJson, Reader.json]
  | .float x, _, _, _ => by simp [Document.ofJson, Reader.json]
  | .str s, _, _, _ => by simp [Document.ofJson, Reader.json]
  | .arr items, 0, _, deep => absurd deep (Nat.not_succ_le_zero _)
  | .arr items, room + 1, ordered, deep => by
    rw [Document.ofJson, Reader.json, jsonItems_ofItems items room ordered (Nat.le_of_succ_le_succ deep)]
    rfl
  | .obj fields, 0, _, deep => absurd deep (Nat.not_succ_le_zero _)
  | .obj fields, room + 1, ordered, deep => by
    rw [Document.ofJson, Reader.json, jsonFields_ofFields fields room ordered.2 (Nat.le_of_succ_le_succ deep)]
    exact congrArg (fun d => some (Json.ofDict d)) (Dict.ofList_entries ⟨fields, ordered.1⟩)

theorem jsonItems_ofItems : ∀ (items : List Json) (room : Nat), IsMapItems items →
    depthItems items ≤ room → Reader.jsonItems room (Document.ofItems items) = some items
  | [], _, _, _ => by simp [Document.ofItems, Reader.jsonItems]
  | item :: rest, room, ordered, deep => by
    have deep' : max item.depth (depthItems rest) ≤ room := deep
    rw [Document.ofItems, Reader.jsonItems, json_ofJson item room ordered.1 (by omega),
      jsonItems_ofItems rest room ordered.2 (by omega)]
    rfl

theorem jsonFields_ofFields : ∀ (fields : List (String × Json)) (room : Nat), IsMapFields fields →
    depthFields fields ≤ room → Reader.jsonFields room (Document.ofFields fields) = some fields
  | [], _, _, _ => by simp [Document.ofFields, Reader.jsonFields]
  | (name, value) :: rest, room, ordered, deep => by
    have deep' : max value.depth (depthFields rest) ≤ room := deep
    rw [Document.ofFields, Reader.jsonFields, json_ofJson value room ordered.1 (by omega),
      jsonFields_ofFields rest room ordered.2 (by omega)]
    rfl

end

theorem faithful_json {j : Json} (ordered : j.IsMap) (whole : j.Whole) : Faithful j :=
  ⟨whole, fun room deep => json_ofJson j room ordered deep⟩

/-! ## 4. Records -/

theorem depth_le_depthFields {field : String × Json} {fields : List (String × Json)}
    (member : field ∈ fields) : field.2.depth ≤ depthFields fields := by
  induction fields with
  | nil => cases member
  | cons other rest ih =>
    have both : depthFields (other :: rest) = max other.2.depth (depthFields rest) := rfl
    rcases List.mem_cons.mp member with rfl | member
    · omega
    · have := ih member
      omega

namespace Slots

/-- What is found in a record that was written with the given fields. -/
def of (room : Nat) (fields : List (String × Json)) : Slots :=
  ⟨false, room, fields.map fun field => (field.1, Document.ofJson field.2)⟩

theorem collect_ofFields {names : List String} {fields : List (String × Json)}
    (known : ∀ field ∈ fields, field.1 ∈ names) (distinct : (fields.map (·.1)).Nodup) :
    collect names (Document.ofFields fields) =
      some (fields.map fun field => (field.1, Document.ofJson field.2)) := by
  induction fields with
  | nil => rfl
  | cons field rest ih =>
    obtain ⟨name, value⟩ := field
    obtain ⟨fresh, distinct⟩ := List.nodup_cons.mp distinct
    have later := ih (fun field member => known field (List.mem_cons_of_mem _ member)) distinct
    have named : names.contains name = true := List.contains_iff_mem.mpr (known _ List.mem_cons_self)
    have once : ((rest.map fun field => (field.1, Document.ofJson field.2)).any (·.1 == name)) = false := by
      rw [List.any_map, List.any_eq_false]
      intro field member same
      exact fresh (beq_iff_eq.mp same ▸ List.mem_map_of_mem (f := (·.1)) member)
    rw [Document.ofFields, collect, later]
    simp only [Option.bind_eq_bind, Option.bind_some, named, once]
    rfl

/-- **A record that was written** is read with all its fields. -/
theorem read_obj {names : List String} {fields : List (String × Json)} (known : fields.map (·.1) = names)
    (distinct : names.Nodup) (room : Nat) :
    read names (room + 1) (Document.ofJson (.obj fields)) = some (of room fields) := by
  subst known
  have found := collect_ofFields (fun field member => List.mem_map_of_mem (f := (·.1)) member) distinct
  rw [Document.ofJson, read, found]
  rfl

section Fields

variable {α : Type} [Wire α] {a : α} {room : Nat} {fields : List (String × Json)}

theorem get?_of (name : String) : (of room fields).get? name =
    (fields.find? (·.1 == name)).map fun field => Document.ofJson field.2 := by
  unfold get? of
  dsimp only
  rw [List.find?_map, Option.map_map]
  rfl

/-- **A field that was written** is found again, -/
theorem required_of (name : String) (faithful : Faithful a)
    (deep : ∀ field ∈ fields, field.2.depth ≤ room)
    (written : fields.find? (·.1 == name) = some (name, encode a)) :
    (of room fields).required name = some a := by
  unfold required requiredBy
  rw [get?_of, written]
  exact faithful.reads room (deep _ (List.mem_of_find?_eq_some written))

/-- whatever it would be if it were absent. -/
theorem defaulted_of (name : String) (faithful : Faithful a)
    (deep : ∀ field ∈ fields, field.2.depth ≤ room)
    (written : fields.find? (·.1 == name) = some (name, encode a)) (default : α) :
    (of room fields).defaulted name default = some a := by
  unfold defaulted defaultedBy
  rw [get?_of, written]
  exact faithful.reads room (deep _ (List.mem_of_find?_eq_some written))

theorem optional_of {a : Option α} (name : String) (faithful : Faithful a)
    (deep : ∀ field ∈ fields, field.2.depth ≤ room)
    (written : fields.find? (·.1 == name) = some (name, encode a)) :
    (of room fields).optional name = some a := by
  unfold optional optionalBy
  rw [get?_of, written]
  exact faithful.reads room (deep _ (List.mem_of_find?_eq_some written))

end Fields

end Slots

theorem Exact.whole {α : Type} [Wire α] [Exact α] (a : α) : (encode a).Whole := (Exact.faithful a).whole

theorem Exact.reads {α : Type} [Wire α] [Exact α] (a : α) {room : Nat} (deep : (encode a).depth ≤ room) :
    Wire.read room (Document.ofJson (encode a)) = some a :=
  (Exact.faithful a).reads room deep

theorem wholeFields_iff {fields : List (String × Json)} :
    WholeFields fields ↔ ∀ field ∈ fields, field.2.Whole := by
  induction fields with
  | nil => simp [WholeFields]
  | cons field rest ih => rw [List.forall_mem_cons, ← ih]; rfl

/-- **A record** is read back if it is made from the fields that it is written with. -/
theorem Faithful.record {α : Type} [Wire α] {a : α} {names : List String} {fields : List (String × Json)}
    {build : Slots → Option α} (written : encode a = .obj fields)
    (read : ∀ room document, Wire.read room document = Slots.read names room document >>= build)
    (known : fields.map (·.1) = names) (distinct : names.Nodup)
    (whole : ∀ field ∈ fields, field.2.Whole)
    (builds : ∀ room, (∀ field ∈ fields, field.2.depth ≤ room) → build (Slots.of room fields) = some a) :
    Faithful a where
  whole := by
    rw [written]
    exact wholeFields_iff.mpr whole
  reads room deep := by
    rw [written] at deep ⊢
    cases room with
    | zero => exact absurd deep (Nat.not_succ_le_zero _)
    | succ room =>
      rw [read, Slots.read_obj known distinct]
      exact builds room fun field member =>
        Nat.le_trans (depth_le_depthFields member) (Nat.le_of_succ_le_succ deep)

end Json

end InstancePool
