import InstancePool.Configuration
import InstancePool.HostsFile
import InstancePool.Http.Target
import InstancePool.Simulation.Clock
import InstancePool.Simulation.CloudDouble
import InstancePool.Simulation.RegistryDouble

/-!
# A world to run workflows in

A workflow can be run without any real service, and without any time passing. The `World` holds the
virtual clock, the doubles of the services, a file system and a transport; calls go to one or the
other as a `Wiring` says.

Every call of a workflow is journaled, with the time at which it was made, and then takes what a
`Script` holds for its operation: some time, an answer or a fault in place of the service's, or a
fault after it.

* `Script`, `Outcome`: what is scripted;
* `Transport`: what becomes of requests;
* `World.answer`: what a question is answered with, and `World.run`: a whole workflow.
-/

namespace InstancePool.Simulation

/-! ## 1. Scripts -/

/-- What a scripted call ends with. -/
inductive Outcome (α : Type) where
  /-- The service is not asked. -/
  | answers (value : α)
  /-- The service is not asked. -/
  | fails (f : Fault)
  /-- The service is asked, and its answer is lost. -/
  | failsAfter (f : Fault)
  | delegates

/-- A scripted call: the time it takes, and what it ends with. -/
structure Scripted (α : Type) where
  takes : Duration := 0
  outcome : Outcome α := .delegates

/-- What the next calls of an operation end with, in order, operations among each other as they come. -/
abbrev Script := List ((op : Operation) × Scripted op.Result)

/-- The next item for an operation, and the script without it. -/
def Script.next? (op : Operation) : Script → Option (Scripted op.Result × Script)
  | [] => none
  | ⟨other, item⟩ :: rest =>
    if h : other = op then some (h ▸ item, rest)
    else (next? op rest).map fun (found, rest) => (found, ⟨other, item⟩ :: rest)

/-! ## 2. Transports -/

/-- What becomes of requests over HTTP. -/
inductive Transport where
  /-- Nothing listens: no request arrives. -/
  | unreachable
  /-- Each request gets the next response, or is lost. -/
  | playback (responses : List (Option (Nat × Http.Body)))

namespace Transport

/-- What is said of a request that does not arrive. -/
def lost (target : Http.Target) : String := s!"error sending request for url ({target})"

/-- What is said of a body that breaks off. -/
def bodyFailed : String := "error decoding response body"

/-- The reply once there are no more. -/
def exhausted : Http.Reply := .response 599 (.complete "no response scripted")

/-- The reply to a request, the target at which it arrived if it did, and what follows. -/
def send (request : Http.Request) (transport : Transport) :
    Http.Reply × Option Http.Target × Transport :=
  match Http.Target.ofRequest request with
  | .error fault => (.lost fault.text, none, transport)
  | .ok target =>
    match transport with
    | unreachable => (.lost (lost target), none, unreachable)
    | playback [] => (exhausted, some target, playback [])
    | playback (none :: rest) => (.lost (lost target), some target, playback rest)
    | playback (some (status, body) :: rest) =>
      (.response status body, some target, playback rest)

end Transport

/-! ## 3. The world -/

/-- All that workflows find around them. -/
structure World where
  clock : Clock := {}
  /-- How many marks were given out. -/
  marks : Nat := 0
  /-- The calls and when they were made, the latest one first. -/
  journal : List (Duration × Call) := []
  script : Script := []
  cloud : CloudDouble := {}
  registry : RegistryDouble := {}
  aliases : Dict String Address := ∅
  files : Files.Tree := {}
  transport : Transport := .unreachable
  /-- The requests that arrived, the latest one first. -/
  requests : List (Http.Target × Http.Request) := []

namespace World

/-- The time of day, in a world that began at the start of 1970. -/
def timeOfDay (w : World) : Timestamp where
  day := w.clock.time.toSeconds / 86400
  second := w.clock.time.toSeconds % 86400
  nano := w.clock.time % 1000000000

/-- What a question of a program over HTTP is answered with. -/
def answerHttp : (q : Http.Query) → StateM World (Interface.Reply Http q)
  | .send request => fun w =>
    let (reply, arrived, transport) := w.transport.send request
    (reply, { w with
      transport
      requests := (arrived.map (·, request)).toList ++ w.requests })
  | .timeOfDay => fun w => (w.timeOfDay, w)

/-- What a question to the file system is answered with. -/
def answerFiles (q : Files.Query) : StateM World (Files.Reply q) := fun w =>
  let (reply, files) := Files.Tree.answer q w.files
  (reply, { w with files })

/-- What a service answers to a call. -/
def serve (wiring : Wiring) : (call : Call) → StateM World call.Answer
  | .cloud call =>
    match wiring.cloud with
    | .account account => (Rest.CloudApi.answer account call).run answerHttp
    | .memory => fun w =>
      let (answer, cloud) := w.cloud.answer call
      (answer, { w with cloud })
  | .registry call =>
    match wiring.registry with
    | .url base => (Rest.RegistryApi.answer base call).run answerHttp
    | .memory => fun w =>
      let (answer, registry) := w.registry.answer call
      (answer, { w with registry })
  | .hostAlias hostname ip =>
    match wiring.aliases with
    | .file path => (HostsFile.upsert path hostname ip).run answerFiles
    | .memory => fun w => (.ok (), { w with aliases := w.aliases.insert hostname ip })

/-- What a call ends with, according to the script. -/
def answerCall (wiring : Wiring) (call : Call) : StateM World call.Answer := do
  let w ← get
  let w := { w with journal := (w.clock.time, call) :: w.journal }
  match w.script.next? call.operation with
  | none => do
    set w
    serve wiring call
  | some (item, script) => do
    set { w with script, clock := w.clock.pass item.takes }
    match item.outcome with
    | .answers value => return .ok value
    | .fails f => return .error f
    | .failsAfter f => do
      let _ ← serve wiring call
      return .error f
    | .delegates => serve wiring call

/-- The next mark: its number in twelve digits. -/
def markOf (n : Nat) : String :=
  let digits := Nat.toDigits 10 n
  String.ofList (List.replicate (12 - digits.length) '0' ++ digits)

/-- What a question is answered with. -/
def answer (wiring : Wiring) :
    (q : (Timed Services).Query) → StateM World ((Timed Services).Reply q)
  | .now => fun w => (w.clock.time, w)
  | .cancelled => fun w => (w.clock.cancelled, w)
  | .nap span => fun w =>
    let (stopped, clock) := w.clock.nap span
    (stopped, { w with clock })
  | .other (.call call) => answerCall wiring call
  | .other .mark => fun w => (markOf (w.marks + 1), { w with marks := w.marks + 1 })

/-- What a workflow ends with, and the world after it. -/
def run {α : Type} (wiring : Wiring) (workflow : Workflow α) (w : World) :
    Except Fault α × World :=
  (workflow.run (answer wiring)).run w

end World

end InstancePool.Simulation
