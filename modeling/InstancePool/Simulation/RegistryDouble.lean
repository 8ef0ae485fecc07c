import InstancePool.Services

/-!
# A registry in memory

A double of the registry of the pool. Its entries stand in the order in which they were added, and a
change of state is refused where the present state is not the expected one. Every call is counted,
and any operation, or a change of one entry into one state, can be made to fail.
-/

namespace InstancePool.Simulation

open Pool (Entry State)

/-- The state of the double. -/
structure RegistryDouble where
  entries : List Entry := []
  failures : Operation → Option Fault := fun _ => none
  updateFailures : UInt64 → State → Option Fault := fun _ _ => none
  /-- The calls so far, the latest one first. -/
  journal : List Registry.Call := []

namespace RegistryDouble

/-- The double in which an operation fails from now on. -/
def failing (d : RegistryDouble) (op : Operation) (f : Fault) : RegistryDouble :=
  { d with failures := fun other => if other = op then some f else d.failures other }

/-- The double in which a change of one entry into one state fails from now on. -/
def failingUpdate (d : RegistryDouble) (cid : UInt64) (next : State) (f : Fault) : RegistryDouble :=
  { d with updateFailures := fun otherCid other =>
      if otherCid = cid ∧ other = next then some f else d.updateFailures otherCid other }

/-- The entry of an instance. -/
def find? (d : RegistryDouble) (cid : UInt64) : Option Entry := d.entries.find? (·.cid == cid)

/-- The entries with the first one of an instance in another state. -/
def setState (cid : UInt64) (next : State) : List Entry → List Entry
  | [] => []
  | e :: rest => if e.cid = cid then { e with state := next } :: rest else e :: setState cid next rest

/-- The double with an entry in another state, as if somebody else had changed it. -/
def force (d : RegistryDouble) (cid : UInt64) (next : State) : RegistryDouble :=
  { d with entries := setState cid next d.entries }

/-- Adds an entry for an instance that has none. -/
def add (d : RegistryDouble) (entry : Entry) : Except Fault Unit × RegistryDouble :=
  if d.entries.any (·.cid == entry.cid) then
    (.error (.cloud s!"pool entry {entry.cid} already exists"), d)
  else (.ok (), { d with entries := d.entries ++ [entry] })

/-- Changes a state, if the present one is as expected. -/
def update (d : RegistryDouble) (cid : UInt64) (expected : Option State) (next : State) :
    Except Fault Unit × RegistryDouble :=
  match d.updateFailures cid next, d.find? cid with
  | some fault, _ => (.error fault, d)
  | none, none => (.error (.notFound s!"pool entry {cid} not found"), d)
  | none, some entry =>
    match expected.filter (· ≠ entry.state) with
    | some expected =>
      (.error (.new .poolConflict s!"pool entry {cid} is {entry.state}, expected {expected}"), d)
    | none => (.ok (), d.force cid next)

/-- What a call does where it is not made to fail. -/
def perform (d : RegistryDouble) : (call : Registry.Call) → call.Answer × RegistryDouble
  | .findEntries filter => (.ok (d.entries.filter filter.accepts), d)
  | .addEntry entry => d.add entry
  | .updateState cid expected next => d.update cid expected next
  | .getEntry cid => (.ok (d.find? cid), d)

/-- What a call is answered with. It is journaled in any case. -/
def answer (d : RegistryDouble) (call : Registry.Call) : call.Answer × RegistryDouble :=
  let d := { d with journal := call :: d.journal }
  match d.failures call.operation with
  | some fault => (.error fault, d)
  | none => d.perform call

end RegistryDouble

end InstancePool.Simulation
