import InstancePool.Text.Blank

/-!
# Texts cut where they were joined

A text that is put together from parts with separators between them falls into the same parts again, as
long as no part holds a separator.

* `pieces_join`, `pieces_single`: the pieces of two texts with a separator between them, and of a text
  without one;
* `words_single`, `words_append_blank`, `words_join`: the same for words, where blanks at an end are
  nothing;
* `lines_flatMap`: lines that end in line feeds;
* `not_mem_lines`, `lines_subset`: what stands in a line.
-/

namespace InstancePool.Text

section Pieces

variable {separates : Char → Bool}

/-- **A separator** cuts a text in two. -/
theorem pieces_join {c : Char} (separator : separates c = true) (front back : List Char) :
    pieces separates (front ++ c :: back) = pieces separates front ++ pieces separates back := by
  induction front with
  | nil => simp [pieces, separator]
  | cons d front ih =>
    rw [List.cons_append, pieces, pieces, ih]
    cases apart : separates d with
    | true => rfl
    | false =>
      cases parts : pieces separates front with
      | nil => exact absurd parts (pieces_ne_nil separates front)
      | cons part parts => rfl

/-- A text without separators is one piece. -/
theorem pieces_single {cs : List Char} (whole : ∀ c ∈ cs, separates c = false) :
    pieces separates cs = [cs] := by
  induction cs with
  | nil => rfl
  | cons c cs ih =>
    rw [pieces, ih fun d hd => whole d (List.mem_cons_of_mem _ hd), whole c List.mem_cons_self]
    rfl

/-- What stands in a piece of a text stands in the text. -/
theorem subset_of_mem_pieces {cs piece : List Char}
    (member : piece ∈ pieces separates cs) : piece ⊆ cs := by
  induction cs generalizing piece with
  | nil =>
    have empty : piece = [] := List.mem_singleton.mp member
    rw [empty]
    exact List.nil_subset _
  | cons c cs ih =>
    unfold pieces at member
    split at member
    · rcases List.mem_cons.mp member with rfl | member
      · exact List.nil_subset _
      · exact List.subset_cons_of_subset c (ih member)
    · split at member
      · rename_i none
        exact absurd none (pieces_ne_nil separates cs)
      · rename_i first rest cut
        rw [cut] at ih
        rcases List.mem_cons.mp member with rfl | member
        · exact List.cons_subset_cons c (ih List.mem_cons_self)
        · exact List.subset_cons_of_subset c (ih (List.mem_cons_of_mem _ member))

end Pieces

/-! ## Words -/

/-- A text without blanks is one word. -/
theorem words_single {cs : List Char} (whole : ∀ c ∈ cs, isBlank c = false) (filled : cs ≠ []) :
    words cs = [cs] := by
  rw [words, pieces_single whole]
  cases cs with
  | nil => exact absurd rfl filled
  | cons c cs => rfl

/-- A blank cuts the words of a text in two. -/
theorem words_join {c : Char} (blank : isBlank c = true) (front back : List Char) :
    words (front ++ c :: back) = words front ++ words back := by
  rw [words, pieces_join blank, List.filter_append]
  rfl

/-- A blank at the end of a text is part of no word. -/
theorem words_append_blank {c : Char} (blank : isBlank c = true) (cs : List Char) :
    words (cs ++ [c]) = words cs :=
  (words_join blank cs []).trans (List.append_nil _)

theorem words_dropReturn (cs : List Char) : words (dropReturn cs) = words cs := by
  unfold dropReturn
  split
  · rename_i last
    obtain ⟨front, rfl⟩ := List.getLast?_eq_some_iff.mp last
    rw [List.dropLast_concat, words_append_blank (by decide)]
  · rfl

/-! ## Lines -/

/-- Lines that end in line feeds are cut after each of them. -/
theorem pieces_flatMap {texts : List (List Char)} (plain : ∀ text ∈ texts, '\n' ∉ text) :
    pieces (· == '\n') (texts.flatMap (· ++ ['\n'])) = texts ++ [[]] := by
  induction texts with
  | nil => rfl
  | cons text texts ih =>
    have whole : ∀ c ∈ text, (c == '\n') = false := fun c hc =>
      beq_false_of_ne fun same => plain text List.mem_cons_self (same ▸ hc)
    rw [List.flatMap_cons, List.append_assoc, List.singleton_append,
      @pieces_join (· == '\n') '\n' rfl,
      ih fun other member => plain other (List.mem_cons_of_mem _ member), pieces_single whole]
    rfl

/-- **Lines that end in line feeds** are read back, without carriage returns at their ends. -/
theorem lines_flatMap {texts : List (List Char)} (plain : ∀ text ∈ texts, '\n' ∉ text) :
    lines (texts.flatMap (· ++ ['\n'])) = texts.map dropReturn := by
  unfold lines
  rw [pieces_flatMap plain]
  simp

theorem dropReturn_subset (cs : List Char) : dropReturn cs ⊆ cs := by
  unfold dropReturn
  split
  · exact List.dropLast_subset cs
  · exact fun _ member => member

/-- There is nothing to take away from a line without carriage returns. -/
theorem dropReturn_eq_self {cs : List Char} (plain : '\r' ∉ cs) : dropReturn cs = cs := by
  unfold dropReturn
  split
  · rename_i last
    exact absurd (List.mem_of_getLast? last) plain
  · rfl

/-- A line is a piece of its text, or what is left of one. -/
theorem piece_of_mem_lines {cs line : List Char} (member : line ∈ lines cs) :
    ∃ piece ∈ pieces (· == '\n') cs, line ⊆ piece := by
  unfold lines at member
  rcases List.mem_append.mp member with member | member
  · obtain ⟨piece, part, rfl⟩ := List.mem_map.mp member
    exact ⟨piece, List.dropLast_subset _ part, dropReturn_subset piece⟩
  · split at member
    · cases member
    · rw [List.mem_singleton.mp member]
      cases last : (pieces (· == '\n') cs).getLast? with
      | none => exact absurd (List.getLast?_eq_none_iff.mp last) (pieces_ne_nil _ cs)
      | some piece => exact ⟨piece, List.mem_of_getLast? last, fun _ inside => inside⟩

/-- No line holds a line feed, -/
theorem not_mem_lines {cs line : List Char} (member : line ∈ lines cs) : '\n' ∉ line := by
  obtain ⟨piece, part, included⟩ := piece_of_mem_lines member
  exact fun inside => absurd (not_separates_of_mem_pieces _ cs piece part '\n' (included inside)) (by decide)

/-- or anything else than its text. -/
theorem lines_subset {cs line : List Char} (member : line ∈ lines cs) : line ⊆ cs := by
  obtain ⟨piece, part, included⟩ := piece_of_mem_lines member
  exact List.Subset.trans included (subset_of_mem_pieces part)

end InstancePool.Text
