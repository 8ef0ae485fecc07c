/-!
# Binary floating-point numbers

A request may carry numbers with a fraction for the agent's environment, and prices quote a
capacity as one. They are binary numbers of 53 digits. This file holds such a number exactly, as
`± mantissa · 2 ^ exponent`, and the roundings that produce one:

* `ofRatio`: the number nearest to a ratio, an even mantissa winning a tie;
* `mul`, `div`: products and quotients, rounded once;
* `scaled`: a whole number times a power of ten, rounded at each of the steps a JSON reader takes;
* `toWord`: the whole part, held to what an unsigned 64-bit word can hold.
-/

namespace InstancePool.Decimal

/-- A finite binary number of 53 digits. The mantissa is below `2 ^ 53`, and at least `2 ^ 52`
    unless the exponent is the least one, `-1074`; zero has the least exponent. -/
structure Binary64 where
  negative : Bool
  mantissa : Nat
  exponent : Int
deriving DecidableEq, Repr

namespace Binary64

/-- Zero, with a sign. -/
def zero (negative : Bool) : Binary64 := ⟨negative, 0, -1074⟩

/-- The same number with the given sign. -/
def withSign (negative : Bool) (x : Binary64) : Binary64 := { x with negative }

/-! ## 1. Rounding -/

/-- A quotient to the nearest whole number, the even one of two equally near. -/
def roundDiv (num den : Nat) : Nat :=
  let whole := num / den
  let rest := num % den
  if 2 * rest < den then whole
  else if den < 2 * rest then whole + 1
  else whole + whole % 2

/-- A ratio divided by a power of two, as a numerator and a denominator. -/
def shift (num den : Nat) (exponent : Int) : Nat × Nat :=
  (num * Nat.pow 2 (-exponent).toNat, den * Nat.pow 2 exponent.toNat)

/-- The exponent at which a positive ratio has a mantissa of 53 digits: the difference of the binary
    lengths gives it up to one. -/
def exponentOf (num den : Nat) : Int :=
  let guess : Int := (num.log2 : Int) - den.log2 - 52
  let scaled := shift num den guess
  if scaled.1 < scaled.2 * Nat.pow 2 52 then guess - 1 else guess

/-- The number nearest to a ratio, if it is not beyond the largest finite one. -/
def ofRatio (negative : Bool) (num den : Nat) : Option Binary64 :=
  if num = 0 then some (zero negative)
  else
    let exponent := max (exponentOf num den) (-1074)
    let scaled := shift num den exponent
    let mantissa := roundDiv scaled.1 scaled.2
    let rounded : Binary64 :=
      if mantissa = Nat.pow 2 53 then ⟨negative, Nat.pow 2 52, exponent + 1⟩
      else ⟨negative, mantissa, exponent⟩
    if rounded.exponent ≤ 971 then some rounded else none

/-- The magnitude as a ratio. -/
def ratio (x : Binary64) : Nat × Nat :=
  (x.mantissa * Nat.pow 2 x.exponent.toNat, Nat.pow 2 (-x.exponent).toNat)

/-- The product of two magnitudes. -/
def mul (x y : Binary64) : Option Binary64 :=
  ofRatio false (x.ratio.1 * y.ratio.1) (x.ratio.2 * y.ratio.2)

/-- The quotient of two magnitudes, the second not zero. -/
def div (x y : Binary64) : Option Binary64 :=
  ofRatio false (x.ratio.1 * y.ratio.2) (x.ratio.2 * y.ratio.1)

/-! ## 2. Numbers written in decimal -/

/-- The number nearest to a power of ten up to the 308th. -/
def powerOfTen (n : Nat) : Option Binary64 := ofRatio false (Nat.pow 10 n) 1

/-- A magnitude divided by the 308th power of ten, again and again, until the power that is left is
    no lower than the inverse of that one. -/
def lower : (fuel : Nat) → Binary64 → (exponent : Int) → Option (Binary64 × Int)
  | 0, x, exponent => some (x, exponent)
  | fuel + 1, x, exponent =>
    if -308 ≤ exponent then some (x, exponent)
    else if x.mantissa = 0 then some (x, 0)
    else do
      let next ← x.div (← powerOfTen 308)
      lower fuel next (exponent + 308)

/-- A whole number times a power of ten, as a reader of JSON computes it: the whole number and the
    power are rounded, and then the product or quotient. `none` where it is too large. -/
def scaled (negative : Bool) (whole : Nat) (exponent : Int) : Option Binary64 := do
  let start ← ofRatio false whole 1
  if start.mantissa = 0 then return zero negative
  if 308 < exponent then none
  else
    -- after three divisions nothing is left of a word, so four steps reach the end
    let (x, exponent) ← lower 4 start exponent
    let power ← powerOfTen exponent.natAbs
    let result ← if 0 ≤ exponent then x.mul power else x.div power
    return result.withSign negative

/-! ## 3. Words -/

/-- The whole part as an unsigned word: nothing below zero, and at most the largest word. -/
def toWord (x : Binary64) : UInt64 :=
  if x.negative then 0
  else UInt64.ofNat (min (x.ratio.1 / x.ratio.2) (UInt64.size - 1))

end Binary64

end InstancePool.Decimal
