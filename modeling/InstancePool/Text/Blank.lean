/-!
# Blanks: what counts as space in a text, and how texts fall into fields and lines

Settings, hosts files and remote answers are written by hand and by other programs, so space around
and between their parts is never counted on. This file fixes what a blank is and every cut that is
made at one:

* `isBlank`: the 25 characters with the Unicode property `White_Space`;
* `trim`, `trimStart`, `trimEnd`: a text without the blanks at its ends;
* `pieces`: a text cut at every separator, from which `words` (cut at blanks, nothing empty kept)
  and `lines` (cut at line feeds) are made.
-/

namespace InstancePool.Text

/-! ## 1. Blanks and trimming -/

/-- The 25 characters with the Unicode property `White_Space`. -/
def isBlank (c : Char) : Bool :=
  let n := c.toNat
  (9 ≤ n && n ≤ 13) || n == 0x20 || n == 0x85 || n == 0xA0 || n == 0x1680 ||
    (0x2000 ≤ n && n ≤ 0x200A) || n == 0x2028 || n == 0x2029 || n == 0x202F || n == 0x205F ||
    n == 0x3000

/-- The characters from the first one that is no blank. -/
def trimStart (cs : List Char) : List Char := cs.dropWhile isBlank

/-- The characters up to the last one that is no blank. -/
def trimEnd (cs : List Char) : List Char := (cs.reverse.dropWhile isBlank).reverse

/-- A text without the blanks at its two ends. -/
def trim (s : String) : String := String.ofList (trimEnd (trimStart s.toList))

/-- A text without the given character at its end, however often it stands there. -/
def trimEndOf (c : Char) (s : String) : String :=
  String.ofList (s.toList.reverse.dropWhile (· == c)).reverse

/-- A text that has something beside blanks, without the blanks at its ends. -/
def filled (s : String) : Option String :=
  let t := trim s
  if t.isEmpty then none else some t

/-! ## 2. Cutting at separators -/

/-- A text cut at every separator. There is always at least one piece. -/
def pieces (separates : Char → Bool) : List Char → List (List Char)
  | [] => [[]]
  | c :: cs =>
    if separates c then [] :: pieces separates cs
    else
      match pieces separates cs with
      | [] => [[c]]
      | piece :: rest => (c :: piece) :: rest

/-- The words of a text: its longest parts without a blank. -/
def words (cs : List Char) : List (List Char) :=
  (pieces isBlank cs).filter (fun piece => !piece.isEmpty)

/-- A line that ended in a line feed, without a carriage return right before it. -/
def dropReturn (cs : List Char) : List Char :=
  match cs.getLast? with
  | some '\r' => cs.dropLast
  | _ => cs

/-- The lines of a text. A line feed ends a line and takes one carriage return before it along; the
    text after the last line feed is a line if there is any, and keeps its carriage returns. -/
def lines (cs : List Char) : List (List Char) :=
  let all := pieces (· == '\n') cs
  let last := all.getLast?.getD []
  all.dropLast.map dropReturn ++ (if last.isEmpty then [] else [last])

theorem pieces_ne_nil (separates : Char → Bool) (cs : List Char) : pieces separates cs ≠ [] := by
  cases cs with
  | nil => simp [pieces]
  | cons c cs =>
    unfold pieces
    split
    · simp
    · split <;> simp

/-- No piece holds a separator. -/
theorem not_separates_of_mem_pieces (separates : Char → Bool) :
    ∀ (cs piece : List Char), piece ∈ pieces separates cs → ∀ c ∈ piece, separates c = false
  | [], piece, h, c, hc => by simp [pieces] at h; simp [h] at hc
  | d :: cs, piece, h, c, hc => by
    unfold pieces at h
    split at h
    · rcases List.mem_cons.1 h with rfl | h
      · simp at hc
      · exact not_separates_of_mem_pieces separates cs piece h c hc
    · rename_i hd
      split at h
      · rename_i hp; exact absurd hp (pieces_ne_nil separates cs)
      · rename_i first rest hp
        have hfirst : first ∈ pieces separates cs := by simp [hp]
        rcases List.mem_cons.1 h with rfl | h
        · rcases List.mem_cons.1 hc with rfl | hc
          · simpa using hd
          · exact not_separates_of_mem_pieces separates cs first hfirst c hc
        · exact not_separates_of_mem_pieces separates cs piece (by simp [hp, h]) c hc

end InstancePool.Text
