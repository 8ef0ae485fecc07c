import InstancePool.Json.Reader
import InstancePool.Text.Blank

/-!
# Timestamps

The cloud dates its transactions. A `Timestamp` is an instant in universal time, counted in days,
seconds and nanoseconds, and this file fixes its two texts:

* `parse?` reads a date, a time and an offset. Blanks may stand between the parts, the separator of
  date and time is one `T`, `t` or blank, and the offset is `Z`, `UTC` in any case or hours and minutes;
* `render` writes it with `Z` and the fewest of zero, three, six or nine decimals that are exact.

A leap second keeps its name: it is the second 59 with more than a thousand million nanoseconds.
-/

namespace InstancePool

/-- An instant: the day since the first of January 1970, the second of the day, and nanoseconds,
    from a thousand million on those of a leap second. -/
structure Timestamp where
  day : Int
  second : Nat
  nano : Nat
deriving DecidableEq, Repr, Inhabited

namespace Timestamp

/-! ## 1. The calendar -/

/-- Whether a year has a 29th of February. -/
def isLeapYear (year : Int) : Bool := year % 4 == 0 && (year % 100 != 0 || year % 400 == 0)

/-- The length of a month. -/
def daysInMonth (year : Int) (month : Nat) : Nat :=
  match month with
  | 2 => if isLeapYear year then 29 else 28
  | 4 | 6 | 9 | 11 => 30
  | _ => 31

/-- The day of a date. Years are counted from March, so that the leap day ends them. -/
def dayOfDate (year : Int) (month day : Nat) : Int :=
  let shifted := if month ≤ 2 then year - 1 else year
  let era := shifted.fdiv 400
  let yearOfEra := shifted - era * 400
  let monthOfYear : Int := if 2 < month then month - 3 else month + 9
  let dayOfYear := (153 * monthOfYear + 2) / 5 + day - 1
  let dayOfEra := yearOfEra * 365 + yearOfEra / 4 - yearOfEra / 100 + dayOfYear
  era * 146097 + dayOfEra - 719468

/-- The date of a day. -/
def dateOfDay (day : Int) : Int × Nat × Nat :=
  let shifted := day + 719468
  let era := shifted.fdiv 146097
  let dayOfEra := shifted - era * 146097
  let yearOfEra :=
    (dayOfEra - dayOfEra / 1460 + dayOfEra / 36524 - dayOfEra / 146096) / 365
  let dayOfYear := dayOfEra - (365 * yearOfEra + yearOfEra / 4 - yearOfEra / 100)
  let monthOfYear := (5 * dayOfYear + 2) / 153
  let dayOfMonth := dayOfYear - (153 * monthOfYear + 2) / 5 + 1
  let month := if monthOfYear < 10 then monthOfYear + 3 else monthOfYear - 9
  let year := yearOfEra + era * 400 + (if month ≤ 2 then 1 else 0)
  (year, month.toNat, dayOfMonth.toNat)

/-! ## 2. Reading -/

/-- At least one and at most so many digits at the front of a text, as a number. -/
def number (most : Nat) (cs : List Char) : Option (Nat × List Char) :=
  let digits := (cs.take most).takeWhile Char.isDigit
  if digits.isEmpty then none else some (Json.Document.decimal digits, cs.drop digits.length)

/-- A number of at most two digits in a range, after any blanks. -/
def twoDigits (low high : Nat) (cs : List Char) : Option (Nat × List Char) := do
  let (n, rest) ← number 2 (Text.trimStart cs)
  if low ≤ n ∧ n ≤ high then some (n, rest) else none

/-- The rest of a text after the given character, before which blanks may stand. -/
def expect (c : Char) (cs : List Char) : Option (List Char) :=
  match Text.trimStart cs with
  | d :: rest => if d == c then some rest else none
  | [] => none

/-- The first and the last year that a text can name. -/
def firstYear : Int := -262143

/-- See `firstYear`. -/
def lastYear : Int := 262142

/-- A year: up to four digits, or a sign and any number of them. -/
def parseYear (cs : List Char) : Option (Int × List Char) := do
  let (year, rest) ←
    match Text.trimStart cs with
    | '-' :: cs => (number cs.length cs).map fun (n, rest) => (-(n : Int), rest)
    | '+' :: cs => (number cs.length cs).map fun (n, rest) => ((n : Int), rest)
    | cs => (number 4 cs).map fun (n, rest) => ((n : Int), rest)
  if firstYear ≤ year ∧ year ≤ lastYear then some (year, rest) else none

/-- The nanoseconds after a point, if there is one. Digits beyond the ninth are dropped. -/
def parseNanos : List Char → Option (Nat × List Char)
  | '.' :: cs => do
    let (n, rest) ← number 9 cs
    let used := cs.length - rest.length
    some (n * Nat.pow 10 (9 - used), rest.dropWhile Char.isDigit)
  | cs => some (0, cs)

/-- The offset from universal time in minutes, less than a day. -/
def parseOffset (cs : List Char) : Option (Int × List Char) := do
  let signed (negative : Bool) (cs : List Char) : Option (Int × List Char) := do
    let (hours, rest) ← number 2 cs
    if cs.length - rest.length ≠ 2 then none
    else
      let rest := rest.dropWhile fun c => c == ':' || Text.isBlank c
      let (minutes, after) ← number 2 rest
      if rest.length - after.length ≠ 2 ∨ 59 < minutes ∨ 24 ≤ hours then none
      else
        let offset : Int := hours * 60 + minutes
        some (if negative then -offset else offset, after)
  match Text.trimStart cs with
  | 'z' :: rest => some (0, rest)
  | 'Z' :: rest => some (0, rest)
  | '+' :: rest => signed false rest
  | '-' :: rest => signed true rest
  | '−' :: rest => signed true rest
  | u :: t :: c :: rest =>
    if u.toLower == 'u' && t.toLower == 't' && c.toLower == 'c' then some (0, rest) else none
  | _ => none

/-- The instant that a text names. In universal time as well, its year has to be one that a text can
    name. -/
def parseChars (cs : List Char) : Option Timestamp := do
  let (year, cs) ← parseYear cs
  let (month, cs) ← twoDigits 1 12 (← expect '-' cs)
  let (day, cs) ← twoDigits 1 31 (← expect '-' cs)
  let cs ←
    match cs with
    | 'T' :: rest => some rest
    | 't' :: rest => some rest
    | ' ' :: rest => some rest
    | _ => none
  let (hour, cs) ← twoDigits 0 23 cs
  let (minute, cs) ← twoDigits 0 59 (← expect ':' cs)
  let (second, cs) ← twoDigits 0 60 (← expect ':' cs)
  let (nanos, cs) ← parseNanos cs
  let (offset, cs) ← parseOffset cs
  if !(Text.trimStart cs).isEmpty ∨ daysInMonth year month < day then none
  else
    let minutes := dayOfDate year month day * 1440 + hour * 60 + minute - offset
    let day := minutes.fdiv 1440
    if day < dayOfDate firstYear 1 1 ∨ dayOfDate lastYear 12 31 < day then failure
    let leap := second == 60
    return {
      day
      second := (minutes.fmod 1440).toNat * 60 + (if leap then 59 else second)
      nano := if leap then nanos + 1000000000 else nanos }

/-- The instant that a text names. -/
def parse? (s : String) : Option Timestamp := parseChars s.toList

/-! ## 3. Writing -/

/-- A number with zeros before it up to a width. -/
def padded (width n : Nat) : List Char :=
  let digits := Nat.toDigits 10 n
  List.replicate (width - digits.length) '0' ++ digits

/-- The year of a text: four digits, and a sign where that is not enough. -/
def renderYear (year : Int) : List Char :=
  if 0 ≤ year ∧ year ≤ 9999 then padded 4 year.toNat
  else (if year < 0 then '-' else '+') :: padded 4 year.natAbs

/-- The fraction of a second, in the fewest groups of three digits that are exact. -/
def renderNanos (nano : Nat) : List Char :=
  if nano = 0 then []
  else if nano % 1000000 = 0 then '.' :: padded 3 (nano / 1000000)
  else if nano % 1000 = 0 then '.' :: padded 6 (nano / 1000)
  else '.' :: padded 9 nano

/-- The date and time of an instant, without a mark of the offset. -/
def renderLocal (t : Timestamp) : List Char :=
  let (year, month, day) := dateOfDay t.day
  let leap := 1000000000 ≤ t.nano
  let second := if leap then 60 else t.second % 60
  renderYear year ++ '-' :: padded 2 month ++ '-' :: padded 2 day ++ 'T' ::
    padded 2 (t.second / 3600) ++ ':' :: padded 2 (t.second / 60 % 60) ++ ':' ::
    padded 2 second ++ renderNanos (if leap then t.nano - 1000000000 else t.nano)

/-- The text of an instant. -/
def render (t : Timestamp) : String := String.ofList (t.renderLocal ++ ['Z'])

/-- The text of an instant with its offset in numbers, as orders name their time. -/
def renderOffset (t : Timestamp) : String :=
  String.ofList (t.renderLocal ++ ['+', '0', '0', ':', '0', '0'])

instance : Json.Wire Timestamp where
  encode t := .str t.render
  read := Json.Reader.text parse?

end Timestamp

end InstancePool
