import InstancePool.Simulation.Clock
import InstancePool.Wait

/-!
# A wait by itself

A wait can be looked at apart from what is waited for: its polls are then one question, `Probe`, and
the answers are given in advance together with the time that each of them takes.
-/

namespace InstancePool.Simulation

/-- One question, whose answer is yes, no or a fault. -/
def Probe : Interface where
  Query := Unit
  Reply _ := Except Fault Bool

/-- A poll of the question. -/
def Probe.poll : Program (Timed Probe) Bool := .ask (.other ()) .ofExcept

/-- An answer, and the time it takes. -/
structure Probed where
  takes : Duration := 0
  answer : Except Fault Bool

/-- A clock, and the answers to come. The last one is given again and again. -/
structure Probes where
  clock : Clock := {}
  coming : List Probed
  /-- When the polls were made, the latest one first. -/
  polled : List Duration := []

namespace Probes

/-- Makes a poll. -/
def poll (p : Probes) : Except Fault Bool × Probes :=
  let start := p.clock.time
  let (now, coming) : Probed × List Probed :=
    match p.coming with
    | [] => ({ answer := .ok false }, [])
    | [last] => (last, [last])
    | first :: rest => (first, rest)
  (now.answer, { clock := p.clock.pass now.takes, coming, polled := start :: p.polled })

/-- What a question is answered with. -/
def answer : (q : (Timed Probe).Query) → StateM Probes ((Timed Probe).Reply q)
  | .now => fun p => (p.clock.time, p)
  | .cancelled => fun p => (p.clock.cancelled, p)
  | .nap span => fun p =>
    let (stopped, clock) := p.clock.nap span
    (stopped, { p with clock })
  | .other () => poll

/-- What a wait ends with, and what is left. -/
def run (waits : Waits) (cid : UInt64) (condition : String) (p : Probes) :
    Except Fault Unit × Probes :=
  ((Wait.await waits.interval cid condition waits.timeout Probe.poll).run answer).run p

end Probes

end InstancePool.Simulation
