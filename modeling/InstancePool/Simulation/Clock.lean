import InstancePool.Duration

/-!
# The virtual clock

Time passes where somebody waits for it and nowhere else: a pause costs nothing and moves the clock
exactly, unless the caller cancels before its end.
-/

namespace InstancePool.Simulation

/-- The time, and when the caller cancels. -/
structure Clock where
  time : Duration := 0
  cancelsAt : Option Duration := none
deriving DecidableEq, Repr

namespace Clock

/-- Whether the caller has cancelled. -/
def cancelled (c : Clock) : Bool := c.cancelsAt.any (· ≤ c.time)

/-- The clock some time later. -/
def pass (c : Clock) (span : Duration) : Clock := { c with time := c.time + span }

/-- Lets a pause pass, up to the moment at which the caller cancels, and says whether that came. -/
def nap (c : Clock) (span : Duration) : Bool × Clock :=
  match c.cancelsAt with
  | none => (false, c.pass span)
  | some moment =>
    if c.time + span ≤ moment ∧ c.time < moment then (false, c.pass span)
    else (true, { c with time := max c.time moment })

end Clock

end InstancePool.Simulation
