/-!
# Dictionaries

Networks by name, addresses by host name, instances by number: wherever a key has one value and the
entries are shown in key order. A `Dict` is the list of its entries with the proof that the keys
ascend, so a key stands in it once and the list is the one way to write it.

* `Key`: what an order of keys has to satisfy; texts are ordered character by character, numbers by
  size;
* `get?`, `insert`, `ofList`, `keys`, `map`: the operations;
* `get?_insert_self`, `get?_insert_of_ne`: what an insertion changes and what it leaves alone.
-/

namespace InstancePool

/-! ## 1. Keys -/

/-- A strict order in which any two different keys are comparable. -/
class Key (κ : Type) [LT κ] : Prop where
  irrefl : ∀ a : κ, ¬a < a
  trans : ∀ {a b c : κ}, a < b → b < c → a < c
  tri : ∀ {a b : κ}, ¬a < b → a ≠ b → b < a

instance : Key Nat where
  irrefl := Nat.lt_irrefl
  trans := Nat.lt_trans
  tri := fun h hne => by omega

instance : Key UInt64 where
  irrefl := fun _ => UInt64.lt_irrefl _
  trans := UInt64.lt_trans
  tri := fun h hne => (UInt64.lt_or_lt_of_ne hne).resolve_left h

instance : Key String where
  irrefl := String.lt_irrefl
  trans := String.lt_trans
  tri := fun {a b} h hne => by
    refine Decidable.byContradiction fun hba => hne (String.le_antisymm ?_ ?_)
    · exact hba
    · exact h

/-! ## 2. Entries in ascending order -/

namespace Dict

variable {κ α : Type} [LT κ] [DecidableEq κ] [DecidableLT κ]

/-- Entries whose keys ascend. -/
def Ascending (entries : List (κ × α)) : Prop := entries.Pairwise (fun p q => p.1 < q.1)

/-- The entries with one more, at its place; an entry of the same key gives way. -/
def insertInto (key : κ) (value : α) : List (κ × α) → List (κ × α)
  | [] => [(key, value)]
  | (k, v) :: rest =>
    if key < k then (key, value) :: (k, v) :: rest
    else if key = k then (key, value) :: rest
    else (k, v) :: insertInto key value rest

theorem mem_insertInto {key : κ} {value : α} :
    ∀ {entries : List (κ × α)} {p : κ × α}, p ∈ insertInto key value entries →
      p = (key, value) ∨ p ∈ entries
  | [], p, h => by simpa [insertInto] using h
  | (k, v) :: rest, p, h => by
    unfold insertInto at h
    split at h
    · simpa using h
    · split at h
      · rcases List.mem_cons.1 h with h | h
        · exact .inl h
        · exact .inr (List.mem_cons_of_mem _ h)
      · rcases List.mem_cons.1 h with h | h
        · exact .inr (by simp [h])
        · rcases mem_insertInto h with h | h
          · exact .inl h
          · exact .inr (List.mem_cons_of_mem _ h)

theorem ascending_insertInto [Key κ] (key : κ) (value : α) :
    ∀ {entries : List (κ × α)}, Ascending entries → Ascending (insertInto key value entries)
  | [], _ => by simp [insertInto, Ascending]
  | (k, v) :: rest, h => by
    have hk := List.pairwise_cons.1 h
    unfold insertInto
    split
    · rename_i hlt
      refine List.pairwise_cons.2 ⟨fun p hp => ?_, h⟩
      rcases List.mem_cons.1 hp with rfl | hp
      · exact hlt
      · exact Key.trans hlt (hk.1 p hp)
    · split
      · rename_i heq
        subst heq
        exact List.pairwise_cons.2 ⟨hk.1, hk.2⟩
      · rename_i hlt hne
        refine List.pairwise_cons.2 ⟨fun p hp => ?_, ascending_insertInto key value hk.2⟩
        rcases mem_insertInto hp with rfl | hp
        · exact Key.tri hlt hne
        · exact hk.1 p hp

end Dict

/-! ## 3. The dictionary -/

/-- A finite map, as the list of its entries in ascending order of their keys. -/
structure Dict (κ α : Type) [LT κ] where
  entries : List (κ × α)
  ascending : Dict.Ascending entries

namespace Dict

/-- Two dictionaries with the same entries are the same. -/
theorem ext_entries {κ α : Type} [LT κ] {d e : Dict κ α} (h : d.entries = e.entries) : d = e := by
  cases d; cases e; cases h; rfl

/-- The dictionary without entries. -/
def empty {κ α : Type} [LT κ] : Dict κ α := ⟨[], .nil⟩

variable {κ α β : Type} [LT κ] [DecidableEq κ] [DecidableLT κ]

instance : EmptyCollection (Dict κ α) := ⟨empty⟩
instance : Inhabited (Dict κ α) := ⟨empty⟩

/-- The value of a key. -/
def get? (d : Dict κ α) (key : κ) : Option α := (d.entries.find? (fun p => p.1 = key)).map (·.2)

/-- The keys, ascending. -/
def keys (d : Dict κ α) : List κ := d.entries.map (·.1)

/-- The values, in the order of their keys. -/
def values (d : Dict κ α) : List α := d.entries.map (·.2)

/-- The dictionary in which the key has the value. -/
def insert [Key κ] (d : Dict κ α) (key : κ) (value : α) : Dict κ α :=
  ⟨insertInto key value d.entries, ascending_insertInto key value d.ascending⟩

/-- The dictionary of a list of entries, of which the last one for a key counts. -/
def ofList [Key κ] (entries : List (κ × α)) : Dict κ α :=
  entries.foldl (fun d p => d.insert p.1 p.2) empty

/-- The dictionary with every value replaced by its image. -/
def map (f : α → β) (d : Dict κ α) : Dict κ β where
  entries := d.entries.map fun p => (p.1, f p.2)
  ascending := by simpa [Ascending, List.pairwise_map] using d.ascending

instance [DecidableEq α] : DecidableEq (Dict κ α) := fun d e =>
  if h : d.entries = e.entries then isTrue (ext_entries h)
  else isFalse fun he => h (he ▸ rfl)

theorem get?_insert_self [Key κ] (d : Dict κ α) (key : κ) (value : α) :
    (d.insert key value).get? key = some value := by
  suffices h : ∀ entries : List (κ × α),
      ((insertInto key value entries).find? (fun p => p.1 = key)).map (·.2) = some value from
    h d.entries
  intro entries
  induction entries with
  | nil => simp [insertInto]
  | cons p rest ih =>
    obtain ⟨k, v⟩ := p
    unfold insertInto
    split
    · simp
    · split
      · simp
      · rename_i hne
        simp [Ne.symm hne, ih]

theorem get?_insert_of_ne [Key κ] (d : Dict κ α) {key other : κ} (value : α) (h : other ≠ key) :
    (d.insert key value).get? other = d.get? other := by
  suffices hs : ∀ entries : List (κ × α),
      (insertInto key value entries).find? (fun p => p.1 = other)
        = entries.find? (fun p => p.1 = other) by
    unfold get? insert
    rw [hs]
  intro entries
  induction entries with
  | nil => simp [insertInto, Ne.symm h]
  | cons p rest ih =>
    obtain ⟨k, v⟩ := p
    unfold insertInto
    split
    · simp [Ne.symm h]
    · split
      · rename_i heq
        subst heq
        simp [Ne.symm h]
      · simp [List.find?_cons, ih]

end Dict

end InstancePool
