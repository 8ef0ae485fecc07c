import Mathlib.Algebra.Group.Nat.Defs
import Mathlib.Algebra.Ring.Int.Defs
import InstancePool.Json.Document

/-!
# Whole numbers as text

A whole number is written in decimal, without a sign that says nothing and without zeros that do, and
what was written is read as the same number as long as it is a word or a signed word.

* `decimal_toDigits`, `head_toDigits`: the digits of a number have its value, and no zero before it;
* `Closed`: what may follow a value, which ends a number;
* `parseNumber_renderInt`: a number is read back.
-/

namespace InstancePool.Json.Document

/-! ## 1. Digits -/

theorem decimal_toDigits (n : Nat) : decimal (Nat.toDigits 10 n) = n := by
  have value := Nat.ofDigitChars_ten_toDigits (n := n)
  rw [Nat.ofDigitChars_eq_foldl] at value
  simp only [Nat.mul_comm 10] at value
  exact value

/-- The digits of a number that is not zero do not begin with a zero. -/
theorem head_toDigits {n : Nat} (positive : 0 < n) : (Nat.toDigits 10 n).head? ≠ some '0' := by
  induction n using Nat.strongRecOn with
  | ind n ih =>
    by_cases small : n < 10
    · rw [Nat.toDigits_of_lt_base small]
      exact fun zero => absurd (Nat.digitChar_eq_zero.mp (Option.some.inj zero)) (by omega)
    · have smaller : n / 10 < n := Nat.div_lt_self positive (by decide)
      have front := ih _ smaller (by omega)
      rw [Nat.toDigits_of_base_le (by decide) (by omega)]
      cases digits : Nat.toDigits 10 (n / 10) with
      | nil => exact absurd digits Nat.toDigits_ne_nil
      | cons c more =>
        rw [digits] at front
        exact front

theorem isDigit_toDigits (n : Nat) : ∀ c ∈ Nat.toDigits 10 n, c.isDigit = true := fun _ member =>
  Nat.isDigit_of_mem_toDigits (by decide) (by decide) member

theorem le_foldl (cs : List Char) (word : Nat) : word ≤ cs.foldl (fun n c => n * 10 + digit c) word := by
  induction cs generalizing word with
  | nil => exact Nat.le_refl word
  | cons c cs ih => exact Nat.le_trans (by omega) (ih (word * 10 + digit c))

/-- Digits whose value is a word are read to their end. -/
theorem extendWord_of_lt {word : Nat} {cs : List Char}
    (fits : cs.foldl (fun n c => n * 10 + digit c) word < UInt64.size) :
    extendWord word cs = (cs.foldl (fun n c => n * 10 + digit c) word, []) := by
  induction cs generalizing word with
  | nil => rfl
  | cons c cs ih =>
    have first : word * 10 + digit c < UInt64.size := Nat.lt_of_le_of_lt (le_foldl cs _) fits
    rw [extendWord, if_pos first]
    exact ih fits

/-! ## 2. Numbers -/

/-- What may follow a value: nothing, or a character after which it is over. -/
def Closed (rest : List Char) : Prop :=
  ∀ c ∈ rest.head?, c = ',' ∨ c = ']' ∨ c = '\x7d'

theorem closed_nil : Closed [] := nofun

section Numbers

variable {rest : List Char} (closed : Closed rest)

include closed

theorem spanDigits_append {digits : List Char} (all : ∀ c ∈ digits, c.isDigit = true) :
    spanDigits (digits ++ rest) = (digits, rest) := by
  have ended : rest.takeWhile Char.isDigit = [] ∧ rest.dropWhile Char.isDigit = rest := by
    cases rest with
    | nil => exact ⟨rfl, rfl⟩
    | cons c cs =>
      have nondigit : ¬c.isDigit = true := by
        rcases closed c rfl with rfl | rfl | rfl <;> decide
      exact ⟨List.takeWhile_cons_of_neg nondigit, List.dropWhile_cons_of_neg nondigit⟩
  rw [spanDigits, List.takeWhile_append_of_pos all, List.dropWhile_append_of_pos all, ended.1, ended.2,
    List.append_nil]

theorem parseFraction_closed : parseFraction rest = some (none, rest) := by
  cases rest with
  | nil => rfl
  | cons c cs => rcases closed c rfl with rfl | rfl | rfl <;> rfl

theorem parseExponent_closed : parseExponent rest = some (none, rest) := by
  cases rest with
  | nil => rfl
  | cons c cs => rcases closed c rfl with rfl | rfl | rfl <;> rfl

/-- The digits of a number are taken as a whole. -/
theorem parseMagnitude_toDigits (negative : Bool) (n : Nat) :
    parseMagnitude negative (Nat.toDigits 10 n ++ rest) =
      some (numberOf negative (Nat.toDigits 10 n) none none, rest) := by
  have plain : ¬((Nat.toDigits 10 n).isEmpty = true ∨
      (Nat.toDigits 10 n).head? = some '0' ∧ 1 < (Nat.toDigits 10 n).length) := by
    rintro (empty | ⟨zero, long⟩)
    · exact Nat.toDigits_ne_nil (List.isEmpty_iff.mp empty)
    · cases n with
      | zero => exact absurd long (by decide)
      | succ n => exact head_toDigits (Nat.succ_pos n) zero
  unfold parseMagnitude
  rw [spanDigits_append closed (isDigit_toDigits n)]
  dsimp only
  rw [if_neg plain, parseFraction_closed closed]
  dsimp only [bind, Option.bind]
  rw [parseExponent_closed closed]
  rfl

end Numbers

theorem numberOf_word {n : Nat} (word : n < UInt64.size) :
    numberOf false (Nat.toDigits 10 n) none none = .int n := by
  have value : (Nat.toDigits 10 n).foldl (fun n c => n * 10 + digit c) 0 = n := decimal_toDigits n
  unfold numberOf
  rw [extendWord_of_lt (value.symm ▸ word), value]
  rfl

theorem numberOf_negative {n : Nat} (positive : 0 < n) (word : n ≤ 2 ^ 63) :
    numberOf true (Nat.toDigits 10 n) none none = .int (-n) := by
  have value : (Nat.toDigits 10 n).foldl (fun n c => n * 10 + digit c) 0 = n := decimal_toDigits n
  have fits : n < UInt64.size := Nat.lt_of_le_of_lt word (by decide)
  have signed : ¬(n = 0 ∨ Nat.pow 2 63 < n) := by
    rintro (zero | large)
    · omega
    · exact Nat.not_lt.mpr word large
  unfold numberOf
  rw [extendWord_of_lt (value.symm ▸ fits), value]
  exact if_neg signed

/-- **A whole number is read back**, if it is a word or a signed word. -/
theorem parseNumber_renderInt {n : Int} (low : -2 ^ 63 ≤ n) (high : n < 2 ^ 64) {rest : List Char}
    (closed : Closed rest) : parseNumber (renderInt n ++ rest) = some (.int n, rest) := by
  cases n with
  | ofNat n =>
    have word : n < UInt64.size := Int.ofNat_lt.mp high
    have unsigned : parseNumber (Nat.toDigits 10 n ++ rest) =
        parseMagnitude false (Nat.toDigits 10 n ++ rest) := by
      unfold parseNumber
      split
      · rename_i cs begins
        cases digits : Nat.toDigits 10 n with
        | nil => exact absurd digits Nat.toDigits_ne_nil
        | cons c more =>
          rw [digits] at begins
          have minus : c = '-' := (List.cons.inj begins).1
          have digit := isDigit_toDigits n c (digits ▸ List.mem_cons_self)
          rw [minus] at digit
          cases digit
      · rfl
    show parseNumber (Nat.toDigits 10 n ++ rest) = _
    rw [unsigned, parseMagnitude_toDigits closed, numberOf_word word]
    rfl
  | negSucc n =>
    have word : n + 1 ≤ 2 ^ 63 := by omega
    show parseMagnitude true (Nat.toDigits 10 (n + 1) ++ rest) = _
    rw [parseMagnitude_toDigits closed, numberOf_negative (Nat.succ_pos n) word]
    rfl

end InstancePool.Json.Document
