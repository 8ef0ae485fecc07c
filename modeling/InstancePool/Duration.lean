/-!
# Durations

Deadlines, pauses and the virtual clock count nanoseconds. A duration is their number; as text it is
written in the largest of seconds, milliseconds, microseconds and nanoseconds of which it holds one,
with as many decimals as it needs.
-/

namespace InstancePool

/-- A span of time, or an instant as the span since the clock started, in nanoseconds. -/
abbrev Duration := Nat

namespace Duration

/-- So many milliseconds. -/
def ofMillis (n : Nat) : Duration := n * 1000000

/-- So many seconds. -/
def ofSeconds (n : Nat) : Duration := n * 1000000000

/-- The whole milliseconds in a duration. -/
def toMillis (d : Duration) : Nat := d / 1000000

/-- The whole seconds in a duration. -/
def toSeconds (d : Duration) : Nat := d / 1000000000

/-- The last `places` decimal digits of a number, without the zeros at the end, after a point. -/
def decimals (places n : Nat) : List Char :=
  let digits := Nat.toDigits 10 n
  let padded := List.replicate (places - digits.length) '0' ++ digits
  if n = 0 then [] else '.' :: (padded.reverse.dropWhile (· == '0')).reverse

/-- A duration in a unit of `10 ^ places` nanoseconds. -/
def inUnit (places : Nat) (unit : String) (d : Duration) : String :=
  let scale := Nat.pow 10 places
  String.ofList (Nat.toDigits 10 (d / scale) ++ decimals places (d % scale)) ++ unit

/-- The text of a duration. -/
def render (d : Duration) : String :=
  if ofSeconds 1 ≤ d then inUnit 9 "s" d
  else if ofMillis 1 ≤ d then inUnit 6 "ms" d
  else if 1000 ≤ d then inUnit 3 "µs" d
  else inUnit 0 "ns" d

end Duration

end InstancePool
