import InstancePool.Program

/-!
# Programs that tell the time

Waiting needs a clock, pauses, and a way to be told to stop. `Timed I` adds these questions to those
of any interface, so a program that waits does not depend on what it waits for.
-/

namespace InstancePool

/-- A question about time, or one of another kind. -/
inductive Timed.Query (Q : Type) where
  /-- How long the clock has been running. -/
  | now
  /-- Whether the caller has cancelled. -/
  | cancelled
  /-- A pause. It ends early, and says so, when the caller cancels. -/
  | nap (span : Duration)
  | other (q : Q)

/-- An interface with the questions about time. -/
@[reducible] def Timed (I : Interface) : Interface where
  Query := Timed.Query I.Query
  Reply
    | .now => Duration
    | .cancelled => Bool
    | .nap _ => Bool
    | .other q => I.Reply q

namespace Timed

variable {I : Interface}

/-- How long the clock has been running. -/
def now : Program (Timed I) Duration := .ask .now .done

/-- Whether the caller has cancelled. -/
def cancelled : Program (Timed I) Bool := .ask .cancelled .done

/-- A pause. The answer is whether the caller cancelled meanwhile. -/
def nap (span : Duration) : Program (Timed I) Bool := .ask (.nap span) .done

end Timed

end InstancePool
