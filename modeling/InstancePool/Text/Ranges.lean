/-!
# Sets of characters as ranges

A property of characters is written down as the list of its ranges, each with its first and its last
character by number. `inRanges` asks whether a character has it.
-/

namespace InstancePool.Text

/-- Whether a character lies in one of the ranges. -/
def inRanges (ranges : List (Nat × Nat)) (c : Char) : Bool :=
  ranges.any fun (first, last) => first ≤ c.toNat && c.toNat ≤ last

end InstancePool.Text
