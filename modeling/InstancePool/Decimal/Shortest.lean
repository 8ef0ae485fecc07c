import InstancePool.Decimal.Binary64

/-!
# The shortest decimal of a binary number

A number that came in as text goes out as text: with the fewest decimal digits that read back as the
same number, and of those the ones nearest to it. Selecting the digits (`shortest`) is exact
arithmetic on the mantissa; how they are laid out (`render`) is the decision of the JSON format:
positional from five zeros behind the point up to sixteen digits before it, else with an exponent.
-/

namespace InstancePool.Decimal

namespace Binary64

/-! ## 1. Selecting the digits -/

/-- `digits · 10 ^ exponent`. -/
structure Digits where
  digits : Nat
  exponent : Int
deriving DecidableEq, Repr

/-- Compares `a · 10 ^ i` with `n · 2 ^ j`. -/
def compareScaled (a : Nat) (i : Int) (n : Nat) (j : Int) : Ordering :=
  compare (a * Nat.pow 10 i.toNat * Nat.pow 2 (-j).toNat)
    (n * Nat.pow 2 j.toNat * Nat.pow 10 (-i).toNat)

/-- Whether a decimal lies among the numbers that round to the magnitude: from halfway to the
    neighbour below to halfway to the neighbour above, the ends included where the mantissa is even.
    Right below a power of two the neighbours are half as far apart. -/
def readsBack (x : Binary64) (d : Digits) : Bool :=
  let narrow := x.mantissa == Nat.pow 2 52 && x.exponent != -1074
  let low := 4 * x.mantissa - (if narrow then 1 else 2)
  let high := 4 * x.mantissa + 2
  let even := x.mantissa % 2 == 0
  let below := compareScaled d.digits d.exponent low (x.exponent - 2)
  let above := compareScaled d.digits d.exponent high (x.exponent - 2)
  (below == .gt || (even && below == .eq)) && (above == .lt || (even && above == .eq))

/-- The least power of ten above the magnitude, from an estimate that errs by one at most. -/
def scaleOf (x : Binary64) : Int :=
  let bits : Int := (x.mantissa.log2 : Int) + x.exponent
  let guess := (bits * 30103).fdiv 100000
  let above (k : Int) : Bool := compareScaled 1 k x.mantissa x.exponent == .gt
  if above guess then guess else if above (guess + 1) then guess + 1 else guess + 2

/-- The decimals next to the magnitude on the grid `10 ^ exponent`, at it or below, and above. -/
def neighbours (x : Binary64) (exponent : Int) : Digits × Digits :=
  let num := x.ratio.1 * Nat.pow 10 (-exponent).toNat
  let den := x.ratio.2 * Nat.pow 10 exponent.toNat
  (⟨num / den, exponent⟩, ⟨num / den + 1, exponent⟩)

/-- The decimal on a grid that reads back, the nearer one of two, an even one on a tie. -/
def onGrid (x : Binary64) (exponent : Int) : Option Digits :=
  let (low, high) := x.neighbours exponent
  match x.readsBack low, x.readsBack high with
  | true, true =>
    match compareScaled (low.digits + high.digits) exponent (2 * x.mantissa) x.exponent with
    | .gt => some low
    | .lt => some high
    | .eq => some (if low.digits % 2 == 0 then low else high)
  | true, false => some low
  | false, true => some high
  | false, false => none

/-- The first grid, from coarse to fine, with a decimal that reads back. -/
def searchGrids (x : Binary64) : (count : Nat) → (exponent : Int) → Option Digits
  | 0, _ => none
  | count + 1, exponent =>
    match x.onGrid exponent with
    | some d => some d
    | none => searchGrids x count (exponent - 1)

/-- Digits without zeros at the end. -/
def stripZeros : (fuel : Nat) → Digits → Digits
  | 0, d => d
  | fuel + 1, d =>
    if d.digits != 0 && d.digits % 10 == 0 then stripZeros fuel ⟨d.digits / 10, d.exponent + 1⟩
    else d

/-- The fewest digits that read back as a magnitude other than zero. Seventeen always do; where none
    were found, the exact value. -/
def shortest (x : Binary64) : Digits :=
  match x.searchGrids 17 (x.scaleOf - 1) with
  | some d => stripZeros 20 d
  | none => ⟨x.ratio.1 * Nat.pow 5 (-x.exponent).toNat, min x.exponent 0⟩

/-! ## 2. Laying them out -/

/-- The text of a number in JSON. Digits stand positionally while the point falls at most five
    places before the first digit and at most sixteen after it; `1e16` and `1.5e-7` are beyond. -/
def render (x : Binary64) : List Char :=
  let sign := if x.negative then ['-'] else []
  if x.mantissa = 0 then sign ++ ['0', '.', '0']
  else
    let d := x.shortest
    let text := Nat.toDigits 10 d.digits
    let point : Int := text.length + d.exponent
    let body :=
      if 0 ≤ d.exponent && point ≤ 16 then
        text ++ List.replicate d.exponent.toNat '0' ++ ['.', '0']
      else if 0 < point && point ≤ 16 then
        text.take point.toNat ++ '.' :: text.drop point.toNat
      else if -5 < point && point ≤ 0 then
        '0' :: '.' :: List.replicate (-point).toNat '0' ++ text
      else
        let scale := point - 1
        let exponent := (if scale < 0 then '-' else '+') :: Nat.toDigits 10 scale.natAbs
        match text with
        | [digit] => digit :: 'e' :: exponent
        | digit :: rest => digit :: '.' :: rest ++ 'e' :: exponent
        | [] => []
    sign ++ body

end Binary64

end InstancePool.Decimal
