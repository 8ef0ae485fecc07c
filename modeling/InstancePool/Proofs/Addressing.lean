import InstancePool.Proofs.Cutting
import InstancePool.Proofs.Numerals
import InstancePool.Proofs.Rendering

/-!
# Addresses read back from their text

An address has one text that is written, and that text is read as the address: octets in decimal, groups in
hexadecimal with the longest run of zeros left out, and an IPv4 address inside an IPv6 one.

* `octets_renderOctets`, `groupsIn_renderGroups`: octets and groups are read back;
* `cutDouble_renderGroups`: where `::` stands in a text;
* `longestRun_split`: what is left out is zeros;
* `parse?_render`: an address is read back.
-/

namespace InstancePool.Address

open Json.Document (decimal_toDigits head_toDigits isDigit_toDigits)

/-! ## 1. Octets -/

theorem octet_toDigits (n : UInt8) : octet (Nat.toDigits 10 n.toNat) = some n := by
  have small : n.toNat < 256 := n.toNat_lt
  have short : (Nat.toDigits 10 n.toNat).length ≤ 3 :=
    (Nat.length_toDigits_le_iff (by decide) (by decide)).mpr (by omega)
  have digits : (Nat.toDigits 10 n.toNat).all Char.isDigit = true :=
    List.all_eq_true.mpr (isDigit_toDigits n.toNat)
  have plain : ¬((Nat.toDigits 10 n.toNat).isEmpty = true ∨ 3 < (Nat.toDigits 10 n.toNat).length ∨
      (!(Nat.toDigits 10 n.toNat).all Char.isDigit) = true) := by
    rintro (empty | long | other)
    · exact Nat.toDigits_ne_nil (List.isEmpty_iff.mp empty)
    · omega
    · simp [digits] at other
  have leading : ¬((Nat.toDigits 10 n.toNat).head? = some '0' ∧ 1 < (Nat.toDigits 10 n.toNat).length) := by
    rintro ⟨zero, long⟩
    by_cases none : n.toNat = 0
    · rw [none] at long
      exact absurd long (by decide)
    · exact head_toDigits (by omega) zero
  unfold octet
  rw [if_neg plain, if_neg leading, decimal_toDigits]
  dsimp only
  rw [if_pos small, UInt8.ofNat_toNat]

theorem no_dot {base : Nat} (many : 1 < base) (n : Nat) : ∀ c ∈ Nat.toDigits base n, (c == '.') = false := by
  intro c member
  refine beq_false_of_ne fun same => ?_
  exact not_mem_toDigits (fun _ => Nat.digitChar_ne '.' rfl) many n (same ▸ member)

/-- **Four octets are read back.** -/
theorem octets_renderOctets (a b c d : UInt8) : octets (renderOctets a b c d) = some (a, b, c, d) := by
  have text := fun n : UInt8 => Text.pieces_single (no_dot (by decide : 1 < 10) n.toNat)
  have cut := @Text.pieces_join (· == '.') '.' rfl
  unfold octets renderOctets
  dsimp only
  rw [cut, cut, cut, text, text, text, text]
  simp only [List.cons_append, List.nil_append, octet_toDigits]
  rfl

/-! ## 2. Groups -/

theorem hexValue_digitChar : ∀ n < 16, Json.Document.hexValue (Nat.digitChar n) = some n := by
  decide

theorem foldlM_toDigits (n : Nat) :
    (Nat.toDigits 16 n).foldlM (fun n c => (Json.Document.hexValue c).map (n * 16 + ·)) 0 = some n := by
  induction n using Nat.strongRecOn with
  | ind n ih =>
    by_cases small : n < 16
    · rw [Nat.toDigits_of_lt_base small]
      simp [hexValue_digitChar n small]
    · have smaller : n / 16 < n := Nat.div_lt_self (by omega) (by decide)
      have last : n % 16 < 16 := Nat.mod_lt n (by decide)
      rw [Nat.toDigits_of_base_le (by decide) (by omega), List.foldlM_append, ih _ smaller]
      simp [hexValue_digitChar _ last]
      omega

theorem group_toDigits (g : UInt16) : group (Nat.toDigits 16 g.toNat) = some g := by
  have short : (Nat.toDigits 16 g.toNat).length ≤ 4 :=
    (Nat.length_toDigits_le_iff (by decide) (by decide)).mpr g.toNat_lt
  have plain : ¬((Nat.toDigits 16 g.toNat).isEmpty = true ∨ 4 < (Nat.toDigits 16 g.toNat).length) := by
    rintro (empty | long)
    · exact Nat.toDigits_ne_nil (List.isEmpty_iff.mp empty)
    · omega
  unfold group
  rw [if_neg plain, foldlM_toDigits, Option.map_some, UInt16.ofNat_toNat]

/-- What has no point is no IPv4 address. -/
theorem octets_of_no_dot {cs : List Char} (absent : ∀ c ∈ cs, (c == '.') = false) : octets cs = none := by
  unfold octets
  rw [Text.pieces_single absent]

theorem groupsOf_map (dotted : Bool) (groups : List UInt16) :
    groupsOf dotted (groups.map fun g => Nat.toDigits 16 g.toNat) = some groups := by
  induction groups with
  | nil => rfl
  | cons g rest ih =>
    cases rest with
    | nil =>
      have undotted : (if dotted then octets (Nat.toDigits 16 g.toNat) else none) = none := by
        rw [octets_of_no_dot (no_dot (by decide) g.toNat), ite_self]
      rw [List.map_singleton, groupsOf, undotted]
      simp only [group_toDigits]
      rfl
    | cons next rest =>
      rw [List.map_cons, List.map_cons] at *
      rw [groupsOf, group_toDigits]
      · rw [ih]
        rfl
      · simp

theorem no_colon {base : Nat} (many : 1 < base) (n : Nat) : ':' ∉ Nat.toDigits base n :=
  not_mem_toDigits (fun _ => Nat.digitChar_ne ':' rfl) many n

theorem pieces_renderGroups {groups : List UInt16} (filled : groups ≠ []) :
    Text.pieces (· == ':') (renderGroups groups) = groups.map fun g => Nat.toDigits 16 g.toNat := by
  have text : ∀ g : UInt16, Text.pieces (· == ':') (Nat.toDigits 16 g.toNat) = [Nat.toDigits 16 g.toNat] :=
    fun g => Text.pieces_single fun c member =>
      beq_false_of_ne fun same => no_colon (by decide : 1 < 16) g.toNat (same ▸ member)
  induction groups using renderGroups.induct with
  | case1 => exact absurd rfl filled
  | case2 g => exact text g
  | case3 g rest more ih =>
    rw [renderGroups]
    · rw [@Text.pieces_join (· == ':') ':' rfl, text, ih fun none => more (none ▸ rfl)]
      rfl
    · exact more

theorem renderGroups_begins {groups : List UInt16} (filled : groups ≠ []) :
    ∃ c cs, renderGroups groups = c :: cs ∧ c ≠ ':' := by
  have text : ∀ g : UInt16, ∃ c cs, Nat.toDigits 16 g.toNat = c :: cs ∧ c ≠ ':' := by
    intro g
    have absent := no_colon (by decide : 1 < 16) g.toNat
    cases digits : Nat.toDigits 16 g.toNat with
    | nil => exact absurd digits Nat.toDigits_ne_nil
    | cons c cs => exact ⟨c, cs, rfl, fun same => absent (digits ▸ same ▸ List.mem_cons_self)⟩
  cases groups with
  | nil => exact absurd rfl filled
  | cons g rest =>
    obtain ⟨c, cs, begins, other⟩ := text g
    cases rest with
    | nil => exact ⟨c, cs, begins, other⟩
    | cons next rest => exact ⟨c, _, congrArg (· ++ ':' :: renderGroups (next :: rest)) begins, other⟩

/-- **Groups are read back**, also where there are none. -/
theorem groupsIn_renderGroups (dotted : Bool) (groups : List UInt16) :
    groupsIn dotted (renderGroups groups) = some groups := by
  unfold groupsIn
  by_cases filled : groups = []
  · subst filled
    rfl
  · obtain ⟨c, cs, begins, -⟩ := renderGroups_begins filled
    rw [if_neg (by simp [begins]), pieces_renderGroups filled, groupsOf_map]

/-! ## 3. Where groups are left out -/

theorem cutDouble_append {text : List Char} (absent : ':' ∉ text) (rest : List Char) :
    cutDouble (text ++ rest) = (cutDouble rest).map fun cut => (text ++ cut.1, cut.2) := by
  induction text with
  | nil =>
    show cutDouble rest = _
    cases cutDouble rest <;> rfl
  | cons c text ih =>
    have other : c ≠ ':' := fun same => absent (same ▸ List.mem_cons_self)
    rw [List.cons_append, cutDouble]
    · rw [ih fun member => absent (List.mem_cons_of_mem _ member)]
      cases cutDouble rest <;> rfl
    · rintro _ rfl
      exact absurd rfl other

theorem cutDouble_colon {c : Char} (other : c ≠ ':') (rest : List Char) :
    cutDouble (':' :: c :: rest) = (cutDouble (c :: rest)).map fun cut => (':' :: cut.1, cut.2) := by
  rw [cutDouble]
  rintro _ _ same
  exact other (List.cons.inj same).1

/-- **Groups hold no `::`**, and end in no colon, so a text is cut after them where it would be cut without
    them. -/
theorem cutDouble_renderGroups (groups : List UInt16) (rest : List Char) :
    cutDouble (renderGroups groups ++ rest) =
      (cutDouble rest).map fun cut => (renderGroups groups ++ cut.1, cut.2) := by
  induction groups using renderGroups.induct with
  | case1 =>
    show cutDouble rest = _
    cases cutDouble rest <;> rfl
  | case2 g => exact cutDouble_append (no_colon (by decide) _) rest
  | case3 g more filled ih =>
    obtain ⟨c, cs, begins, other⟩ := renderGroups_begins fun none => filled (none ▸ rfl)
    rw [renderGroups]
    · rw [List.append_assoc, cutDouble_append (no_colon (by decide) _), List.cons_append, begins,
        List.cons_append, cutDouble_colon other, ← List.cons_append, ← begins, ih]
      cases cutDouble rest <;> simp
    · exact filled

/-- **What is left out is zeros.** -/
theorem longestRun_split (groups : List UInt16) (start : Nat) : ∃ front back,
    groups = front ++ List.replicate (longestRun start groups).2 0 ++ back ∧
      (longestRun start groups).1 = start + front.length := by
  induction groups generalizing start with
  | nil => exact ⟨[], [], rfl, rfl⟩
  | cons g rest ih =>
    unfold longestRun
    dsimp only
    split
    · obtain ⟨front, back, parts, place⟩ := ih (start + 1)
      refine ⟨g :: front, back, congrArg (g :: ·) parts, ?_⟩
      rw [place, List.length_cons]
      omega
    · have zeros : ((g :: rest).takeWhile (· == 0)) =
          List.replicate ((g :: rest).takeWhile (· == 0)).length 0 := by
        refine List.eq_replicate_iff.mpr ⟨rfl, fun b member => ?_⟩
        simpa using List.mem_takeWhile_imp member
      refine ⟨[], (g :: rest).dropWhile (· == 0), ?_, rfl⟩
      rw [List.nil_append, ← zeros]
      exact List.takeWhile_append_dropWhile.symm

/-! ## 4. Addresses -/

theorem ofGroups_eq {groups : List UInt16} (eight : groups.length = 8) :
    ofGroups groups = some (.v6 groups eight) := by
  unfold ofGroups
  rw [dif_pos eight]

/-- Groups around `::` are read back with the zeros between them. -/
theorem parseV6_compressed {groups front back : List UInt16} (eight : groups.length = 8) {length : Nat}
    (run : 1 < length) (parts : groups = front ++ List.replicate length 0 ++ back) :
    parseV6 (renderGroups front ++ ':' :: ':' :: renderGroups back) = some (.v6 groups eight) := by
  have cut : cutDouble (renderGroups front ++ ':' :: ':' :: renderGroups back) =
      some (renderGroups front, renderGroups back) := by
    rw [cutDouble_renderGroups, cutDouble, Option.map_some, List.append_nil]
  have counted : front.length + length + back.length = 8 := by
    rw [← eight, parts]
    simp [Nat.add_assoc]
  have zeros : 8 - front.length - back.length = length := by omega
  unfold parseV6
  rw [cut]
  dsimp only
  rw [groupsIn_renderGroups, groupsIn_renderGroups]
  dsimp only [bind, Option.bind]
  rw [if_pos (by omega), zeros, ← parts, ofGroups_eq eight]

theorem parseV6_renderCompressed {groups : List UInt16} (eight : groups.length = 8) :
    parseV6 (renderCompressed groups) = some (.v6 groups eight) := by
  obtain ⟨front, back, parts, place⟩ := longestRun_split groups 0
  unfold renderCompressed
  generalize longestRun 0 groups = found at parts place ⊢
  obtain ⟨start, length⟩ := found
  dsimp only at parts place ⊢
  split
  · rename_i run
    have taken : groups.take start = front := by
      rw [place, parts]
      simp
    have dropped : groups.drop (start + length) = back := by
      rw [place, parts, Nat.zero_add]
      exact List.drop_left' (by simp)
    rw [taken, dropped]
    exact parseV6_compressed eight run parts
  · have whole := cutDouble_renderGroups groups []
    rw [List.append_nil] at whole
    unfold parseV6
    rw [whole]
    dsimp only [cutDouble, Option.map]
    rw [groupsIn_renderGroups]
    exact ofGroups_eq eight

theorem pair_bytes (g : UInt16) : pair (g >>> 8).toUInt8 g.toUInt8 = g := by
  have small := g.toNat_lt
  apply UInt16.toNat_inj.mp
  simp [pair, Nat.shiftRight_eq_div_pow]
  omega

/-- The text of an IPv4 address inside an IPv6 one. -/
theorem octets_mapped (a b c d : UInt8) :
    octets ([':', ':', 'f', 'f', 'f', 'f', ':'] ++ renderOctets a b c d) = none := by
  have text := fun n : UInt8 => Text.pieces_single (no_dot (by decide : 1 < 10) n.toNat)
  have cut := @Text.pieces_join (· == '.') '.' rfl
  have first : ∀ x ∈ [':', ':', 'f', 'f', 'f', 'f', ':'] ++ Nat.toDigits 10 a.toNat, (x == '.') = false := by
    intro x member
    rcases List.mem_append.mp member with member | member
    · simp only [List.mem_cons, List.not_mem_nil, or_false] at member
      rcases member with rfl | rfl | rfl | rfl | rfl | rfl | rfl <;> rfl
    · exact no_dot (by decide) _ x member
  have long : octet ([':', ':', 'f', 'f', 'f', 'f', ':'] ++ Nat.toDigits 10 a.toNat) = none :=
    if_pos (.inr (.inl (by simp)))
  unfold octets renderOctets
  dsimp only
  rw [← List.append_assoc, ← List.append_assoc, ← List.append_assoc, cut, cut, cut,
    Text.pieces_single first, text, text, text]
  simp only [List.cons_append, List.nil_append] at long ⊢
  rw [long]
  rfl

/-- **An IPv4 address inside an IPv6 one** is read back. -/
theorem parseV6_mapped (a b c d : UInt8) :
    parseV6 ([':', ':', 'f', 'f', 'f', 'f', ':'] ++ renderOctets a b c d) =
      ofGroups [0, 0, 0, 0, 0, 0xFFFF, pair a b, pair c d] := by
  have absent : ∀ x ∈ renderOctets a b c d, (x == ':') = false := fun x member =>
    beq_false_of_ne fun same =>
      not_mem_renderOctets (fun _ => Nat.digitChar_ne ':' rfl) (by decide) a b c d (same ▸ member)
  have pieces : Text.pieces (· == ':') ('f' :: 'f' :: 'f' :: 'f' :: ':' :: renderOctets a b c d) =
      [['f', 'f', 'f', 'f'], renderOctets a b c d] := by
    have cut := @Text.pieces_join (· == ':') ':' rfl ['f', 'f', 'f', 'f'] (renderOctets a b c d)
    rw [Text.pieces_single absent] at cut
    exact cut
  have back : groupsIn true ('f' :: 'f' :: 'f' :: 'f' :: ':' :: renderOctets a b c d) =
      some [0xFFFF, pair a b, pair c d] := by
    unfold groupsIn
    rw [if_neg (by simp), pieces]
    simp only [groupsOf, octets_renderOctets, if_true]
    rfl
  show (groupsIn false [] >>= fun front =>
    groupsIn true ('f' :: 'f' :: 'f' :: 'f' :: ':' :: renderOctets a b c d) >>= fun back => _) = _
  rw [back]
  rfl

theorem renderCompressed_dotless (groups : List UInt16) :
    ∀ x ∈ renderCompressed groups, (x == '.') = false := by
  have text := not_mem_renderGroups (c := '.') (fun _ => Nat.digitChar_ne '.' rfl) (by decide)
  have absent : '.' ∉ renderCompressed groups := by
    unfold renderCompressed
    dsimp only
    split
    · simp [text]
    · exact text groups
  exact fun x member => beq_false_of_ne fun same => absent (same ▸ member)

/-- The text of an IPv6 address is that of no IPv4 address, and is read back. -/
theorem parseV6_renderChars {groups : List UInt16} (eight : groups.length = 8) :
    octets (renderChars (.v6 groups eight)) = none ∧
      parseV6 (renderChars (.v6 groups eight)) = some (.v6 groups eight) := by
  unfold renderChars
  dsimp only
  split
  · refine ⟨octets_mapped _ _ _ _, ?_⟩
    rw [parseV6_mapped, pair_bytes, pair_bytes]
    rfl
  · exact ⟨octets_of_no_dot (renderCompressed_dotless _), parseV6_renderCompressed _⟩

/-- **An address is read back** from the text that it is written as. -/
theorem parse?_render (ip : Address) : parse? ip.render = some ip := by
  unfold parse? render
  rw [String.toList_ofList]
  cases ip with
  | v4 a b c d =>
    unfold renderChars
    dsimp only
    rw [octets_renderOctets]
  | v6 groups eight =>
    obtain ⟨other, read⟩ := parseV6_renderChars eight
    rw [other]
    exact read

end InstancePool.Address
