import InstancePool.Program.Timed

/-!
# Waits

Nothing that is ordered from the cloud happens at once, so workflows poll. `Waits` fixes how long and
how often, and `Wait.await` is the one loop that does it:

* the first poll is made at once, the last one no later than the deadline;
* between polls there is a pause, which never reaches beyond the deadline;
* a poll that fails ends the wait, and so does the caller, before a poll or in a pause.

The clock never runs backwards and a pause lasts at least as long as it should. The loop relies on no
more than that for its end: what a reading may be is bounded below by what has already passed.
-/

namespace InstancePool

/-- Deadlines and the cadence of polls. -/
structure Waits where
  timeout : Duration := Duration.ofSeconds 3600
  interval : Duration := Duration.ofSeconds 5
  /-- Reinstalling a system is slow, so the wait for its end has a deadline of its own. -/
  reloadTimeout : Duration := Duration.ofSeconds 10800
deriving DecidableEq, Repr

namespace Wait

/-- How many pauses without any length a wait makes at most. With an interval of zero a wait polls on up to
    its deadline and counts its polls in a word of 32 bits: the bound stands for the end of that count. -/
def idlePauses : Nat := UInt32.size

variable {I : Interface}

/-- Going on after a pause, either the deadline is nearer or there are fewer pauses without any length
    left. -/
theorem pause_lt {interval deadline earliest now idle : Nat} (reached : earliest ≤ now)
    (going : ¬(deadline ≤ now ∨ idle = 0)) :
    Prod.Lex (· < ·) (· < ·)
      (deadline - (now + min interval (deadline - now)),
        if min interval (deadline - now) = 0 then idle - 1 else idle)
      (deadline - earliest, idle) := by
  simp only [Prod.lex_def]
  split <;> omega

/-- Polls from an instant on. The clock has at least reached `earliest`, and `idle` is how many
    pauses without any length are left. -/
def pollFrom (interval : Duration) (cid : UInt64) (condition : String) (started deadline : Duration)
    (poll : Program (Timed I) Bool) (earliest : Duration) (idle : Nat) :
    Program (Timed I) Unit := do
  if ← Timed.cancelled then
    .fail (.cancelled cid condition)
  else if ← poll.inContext s!"waiting for instance {cid} condition '{condition}'" then
    return ()
  else
    let now := max earliest (← Timed.now)
    if deadline ≤ now ∨ idle = 0 then
      .fail (.timeout cid condition (now - started))
    else
      let pause := min interval (deadline - now)
      if ← Timed.nap pause then
        .fail (.cancelled cid condition)
      else
        pollFrom interval cid condition started deadline poll (now + pause)
          (if pause = 0 then idle - 1 else idle)
termination_by (deadline - earliest, idle)
decreasing_by exact pause_lt (Nat.le_max_left ..) ‹_›

/-- Polls until the answer is yes, for as long as `timeout` says. -/
def await (interval : Duration) (cid : UInt64) (condition : String) (timeout : Duration)
    (poll : Program (Timed I) Bool) : Program (Timed I) Unit := do
  let started ← Timed.now
  pollFrom interval cid condition started (started + timeout) poll started idlePauses

end Wait

end InstancePool
