import InstancePool.Proofs.Interleaving
import InstancePool.Simulation.World

/-!
# Where a password goes

The password of the login that an instance is given is told to the cloud when the login is set, and to
nobody else: not in a setting, an alias or a fault, and not by what an allocation does or when. So two
allocations that differ in the password alone cannot be told apart by anyone who does not see that one
call.

* `Call.veiled`, `World.veiled`: a call, and a world, without the passwords that were told;
* `InStep`: two workflows that ask the same and go on alike, passwords apart;
* `allocation_inStep`: allocations for sites that differ in the password;
* `Agree`: two ways to be answered that agree wherever worlds differ in nothing but passwords;
  `answer_agree`: the world's own answers do;
* `password_is_kept`: the two allocations end alike and leave the same world behind.
-/

namespace InstancePool

open Simulation (World CloudDouble RegistryDouble Scripted Script)

/-! ## 1. Workflows in step -/

/-- The call with the password of its login left out. -/
def Cloud.Call.veiled : Cloud.Call → Cloud.Call
  | setCredential cid credential => setCredential cid { credential with password := "" }
  | call => call

/-- The call with the password of its login left out. -/
def Call.veiled : Call → Call
  | cloud call => cloud call.veiled
  | call => call

/-- The site whose agents are given another password. -/
def Site.withPassword (site : Site) (password : String) : Site :=
  { site with agent := { site.agent with
      credential := site.agent.credential.map ({ · with password }) } }

/-- Two workflows in step: they ask the same, passwords apart, and whatever they are both answered they
    go on in step. -/
inductive InStep {α : Type} : Workflow α → Workflow α → Prop where
  | done (a : α) : InStep (.done a) (.done a)
  | fail (f : Fault) : InStep (.fail f) (.fail f)
  | ask {q : (Timed Services).Query} {k k' : (Timed Services).Reply q → Workflow α}
      (h : ∀ reply, InStep (k reply) (k' reply)) : InStep (.ask q k) (.ask q k')
  | login {cid : UInt64} {c : Credential} {password : String} {k k' : Except Fault Unit → Workflow α}
      (h : ∀ reply, InStep (k reply) (k' reply)) :
      InStep (.ask (.other (.call (.cloud (.setCredential cid c)))) k)
        (.ask (.other (.call (.cloud (.setCredential cid { c with password })))) k')

namespace InStep

variable {α β : Type} {p p' : Workflow α}

theorem refl (p : Workflow α) : InStep p p := by
  induction p with
  | done a => exact .done a
  | fail f => exact .fail f
  | ask q k ih => exact .ask ih

theorem bind {next next' : α → Workflow β} (h : InStep p p')
    (rest : ∀ a, InStep (next a) (next' a)) : InStep (p.bind next) (p'.bind next') := by
  induction h with
  | done a => exact rest a
  | fail f => exact .fail f
  | ask _ ih => exact .ask ih
  | login _ ih => exact .login ih

/-- What comes before a difference is the same in both. -/
theorem after {p : Workflow α} {next next' : α → Workflow β}
    (rest : ∀ a, InStep (next a) (next' a)) : InStep (p.bind next) (p.bind next') :=
  (refl p).bind rest

theorem mapFault {change : Fault → Fault} (h : InStep p p') :
    InStep (p.mapFault change) (p'.mapFault change) := by
  induction h with
  | done a => exact .done a
  | fail f => exact .fail (change f)
  | ask _ ih => exact .ask ih
  | login _ ih => exact .login ih

theorem inContext {frame : String} (h : InStep p p') :
    InStep (p.inContext frame) (p'.inContext frame) :=
  h.mapFault

theorem attempt (h : InStep p p') : InStep p.attempt p'.attempt := by
  induction h with
  | done a => exact .done (Except.ok a)
  | fail f => exact .done (Except.error f)
  | ask _ ih => exact .ask ih
  | login _ ih => exact .login ih

end InStep

section Allocations

variable {site : Site} {password : String}

/-- Every password in use is allowed, the one in the site's login and the one that takes its place. -/
def Site.Allows (site : Site) (password : String) : Prop :=
  ∀ c, site.agent.credential = some c →
    c.validate = .ok () ∧ ({ c with password } : Credential).validate = .ok ()

/-- **A login that is allowed** is set, or fails to be, whatever its password. -/
theorem applyCredential_inStep (allows : site.Allows password) (cid : UInt64) :
    InStep (Agent.applyCredential site.agent cid)
      (Agent.applyCredential (site.withPassword password).agent cid) := by
  unfold Agent.applyCredential Site.withPassword
  cases chosen : site.agent.credential with
  | none => exact .refl _
  | some c =>
    obtain ⟨allowed, allowed'⟩ := allows c chosen
    dsimp only [Option.map_some]
    rw [allowed, allowed']
    have set : InStep (Workflow.cloud (.setCredential cid c))
        (Workflow.cloud (.setCredential cid { c with password })) := .login fun _ => .refl _
    exact set.inContext

/-- Only the login depends on the password, and it is set last. -/
theorem reclaim_inStep (allows : site.Allows password) (target : Reclaim.Target) (request : Request)
    (selected : Networks) :
    InStep (Reclaim.run site target request selected)
      (Reclaim.run (site.withPassword password) target request selected) :=
  .after fun _ => .after fun _ => .after fun _ => .after fun _ => .after fun _ => .after fun _ =>
    (applyCredential_inStep allows _).bind fun _ => .refl _

theorem build_inStep (allows : site.Allows password) (request : Request) (selected : Networks) :
    InStep (Provision.run site request selected)
      (Provision.run (site.withPassword password) request selected) :=
  .after fun _ => .after fun _ => .after fun _ => .after fun _ => .after fun _ => .after fun _ =>
    (applyCredential_inStep allows _).mapFault.bind fun _ => .refl _

theorem reuse_inStep (allows : site.Allows password) (cid : UInt64) (request : Request)
    (selected : Networks) :
    InStep (Allocation.reuse site cid request selected)
      (Allocation.reuse (site.withPassword password) cid request selected) :=
  .after fun _ => (reclaim_inStep allows (.cid cid) request selected).attempt.bind fun _ => .refl _

/-- **Allocations for sites that differ in the password** are in step. -/
theorem allocation_inStep (allows : site.Allows password) (request : Request) :
    InStep (Allocation.run site request) (Allocation.run (site.withPassword password) request) := by
  refine .after fun selected => ?_
  cases selected.fixedIp with
  | some ip => exact (reclaim_inStep allows (.ip ip) request selected).inContext
  | none =>
    refine .after fun candidates => ?_
    cases candidates with
    | nil => exact (build_inStep allows request selected).bind fun _ => .refl _
    | cons entry _ => exact reuse_inStep allows entry.cid request selected

end Allocations

/-! ## 2. Worlds that differ in passwords -/

namespace Simulation

/-- The double with another journal. -/
def CloudDouble.rejournal (d : CloudDouble) (journal : List Cloud.Call) : CloudDouble :=
  { d with journal }

/-- The double without the passwords that were told. -/
def CloudDouble.veiled (d : CloudDouble) : CloudDouble :=
  d.rejournal (d.journal.map Cloud.Call.veiled)

/-- The world without the passwords that were told. All that it holds beside its two journals is as it
    is. -/
def World.veiled (w : World) : World :=
  { w with
    journal := w.journal.map fun made => (made.1, made.2.veiled)
    cloud := w.cloud.veiled }

namespace CloudDouble

variable {d d' : CloudDouble}

theorem eq_rejournal (same : d.veiled = d'.veiled) : d' = d.rejournal d'.journal :=
  congrArg (·.rejournal d'.journal) same.symm

theorem veiled_journal (same : d.veiled = d'.veiled) :
    d.journal.map Cloud.Call.veiled = d'.journal.map Cloud.Call.veiled :=
  congrArg journal same

section Rejournal

variable {α : Type} (d : CloudDouble) (j : List Cloud.Call) (cid : UInt64)

theorem ask_rejournal (answer : Machine → α) :
    (d.rejournal j).ask cid answer = ((d.ask cid answer).1, (d.ask cid answer).2.rejournal j) := by
  unfold ask
  rw [show (d.rejournal j).machines = d.machines from rfl]
  cases d.machines.get? cid <;> rfl

theorem change_rejournal (act : Machine → α × Machine) :
    (d.rejournal j).change cid act = ((d.change cid act).1, (d.change cid act).2.rejournal j) := by
  unfold change
  rw [show (d.rejournal j).machines = d.machines from rfl]
  cases d.machines.get? cid <;> rfl

theorem enqueue_rejournal (group : String) :
    (d.rejournal j).enqueue cid group = ((d.enqueue cid group).1, (d.enqueue cid group).2.rejournal j) :=
  change_rejournal { d with nextTransaction := d.nextTransaction + 1 } j cid fun m =>
    ((), { m with queued := some (pending d.nextTransaction group), observed := false })

theorem withAddress_rejournal (field : Instance → Option Address) (ip : Address) :
    (d.rejournal j).withAddress field ip =
      ((d.withAddress field ip).1, (d.withAddress field ip).2.rejournal j) := by
  unfold withAddress
  rw [show (d.rejournal j).machines = d.machines from rfl]
  cases (d.machines.values.map Machine.report).find? fun i => field i = some ip <;> rfl

theorem orderDisk_rejournal :
    (d.rejournal j).orderDisk cid = ((d.orderDisk cid).1, (d.orderDisk cid).2.rejournal j) := by
  unfold orderDisk
  dsimp only
  rw [enqueue_rejournal, show (d.rejournal j).orderId = d.orderId from rfl]
  split
  · rfl
  · cases d.enqueue cid Transaction.instanceUpgrade with
    | mk placed d₁ =>
      cases placed with
      | error fault => rfl
      | ok _ =>
        dsimp only
        rw [show (d₁.rejournal j).orderFault = d₁.orderFault from rfl]
        cases d₁.orderFault <;> rfl

theorem reinstall_rejournal :
    (d.rejournal j).reinstall cid = ((d.reinstall cid).1, (d.reinstall cid).2.rejournal j) := by
  unfold reinstall
  rw [enqueue_rejournal]
  cases d.enqueue cid Transaction.serviceSetup with
  | mk placed d =>
    cases placed with
    | error fault => rfl
    | ok _ => exact change_rejournal d j cid _

theorem keepSettings_rejournal (s : Agent.Settings) :
    (d.rejournal j).keepSettings cid s =
      ((d.keepSettings cid s).1, (d.keepSettings cid s).2.rejournal j) := by
  unfold keepSettings
  rw [ask_rejournal]
  cases d.ask cid fun _ => () with
  | mk known d => cases known <;> rfl

/-- **A call neither reads the journal nor writes in it**, once it is journaled. -/
theorem perform_rejournal (call : Cloud.Call) :
    (d.rejournal j).perform call = ((d.perform call).1, (d.perform call).2.rejournal j) := by
  cases call with
  | createInstance template => rfl
  | getInstance cid => exact ask_rejournal d j cid _
  | activeTransactions cid => exact change_rejournal d j cid _
  | lastTransaction cid => exact ask_rejournal d j cid _
  | powerState cid => exact ask_rejournal d j cid _
  | pingable cid => exact change_rejournal d j cid probe
  | attachDisk cid sizeGb => exact orderDisk_rejournal d j cid
  | blockDevices cid => exact ask_rejournal d j cid _
  | instanceByPrivateIp ip => exact withAddress_rejournal d j _ ip
  | instanceByPublicIp ip => exact withAddress_rejournal d j _ ip
  | reloadOs cid stemcell => exact reinstall_rejournal d j cid
  | pushSettings cid settings => exact keepSettings_rejournal d j cid settings
  | setCredential cid credential => exact ask_rejournal d j cid _
  | reboot cid => exact change_rejournal d j cid fun m => ((), { m with unreachable := 1 })

end Rejournal

/-- What a call is answered with and what it does, before it is journaled. -/
def told (d : CloudDouble) (call : Cloud.Call) : call.Answer × CloudDouble :=
  match d.failures call.operation with
  | some fault => (.error fault, d)
  | none => d.perform call

theorem told_rejournal (d : CloudDouble) (j : List Cloud.Call) (call : Cloud.Call) :
    (d.rejournal j).told call = ((d.told call).1, (d.told call).2.rejournal j) := by
  unfold told
  show (match d.failures call.operation with | some fault => _ | none => _) = _
  cases d.failures call.operation with
  | some fault => rfl
  | none => exact perform_rejournal d j call

theorem answer_eq (d : CloudDouble) (call : Cloud.Call) :
    d.answer call = ((d.told call).1, (d.told call).2.rejournal (call :: d.journal)) :=
  told_rejournal d (call :: d.journal) call

/-- Doubles that differ in passwords answer alike, and differ in passwords afterwards. -/
theorem veiled_answer (same : d.veiled = d'.veiled) (call : Cloud.Call) :
    (d.answer call).1 = (d'.answer call).1 ∧
      (d.answer call).2.veiled = (d'.answer call).2.veiled := by
  have journals := veiled_journal same
  rw [eq_rejournal same, answer_eq, answer_eq, told_rejournal]
  refine ⟨rfl, congrArg (CloudDouble.rejournal _) ?_⟩
  exact congrArg (call.veiled :: ·) journals

/-- **Two logins** that differ in the password are answered alike. -/
theorem veiled_login (same : d.veiled = d'.veiled) (cid : UInt64) (c : Credential)
    (password : String) :
    (d.answer (.setCredential cid c)).1 = (d'.answer (.setCredential cid { c with password })).1 ∧
      (d.answer (.setCredential cid c)).2.veiled =
        (d'.answer (.setCredential cid { c with password })).2.veiled := by
  have journals := veiled_journal same
  have alike : d.told (.setCredential cid { c with password }) = d.told (.setCredential cid c) := rfl
  rw [eq_rejournal same, answer_eq, answer_eq, told_rejournal, alike]
  refine ⟨rfl, congrArg (CloudDouble.rejournal _) ?_⟩
  exact congrArg (Cloud.Call.veiled (.setCredential cid c) :: ·) journals

end CloudDouble

/-! ## 3. Answers that agree -/

/-- Two ways to be answered that agree: where worlds differ in passwords, the answers are the same, and
    the worlds differ in passwords afterwards. -/
def Agree {α : Type} (first second : StateM World α) : Prop :=
  ∀ ⦃w w' : World⦄, w.veiled = w'.veiled →
    (first w).1 = (second w').1 ∧ (first w).2.veiled = (second w').2.veiled

namespace Agree

variable {α β : Type} {first second : StateM World α}

theorem pure (a : α) : Agree (Pure.pure a) (Pure.pure a) := fun _ _ same => ⟨rfl, same⟩

theorem bind {next next' : α → StateM World β} (h : Agree first second)
    (rest : ∀ a, Agree (next a) (next' a)) : Agree (first >>= next) (second >>= next') := by
  intro w w' same
  obtain ⟨answers, worlds⟩ := h same
  have on := rest (first w).1 worlds
  rw [show (next' (first w).1) = next' (second w').1 from congrArg next' answers] at on
  exact on

/-- A program agrees with itself where every answer to it does. -/
theorem run {I : Interface} {answer : (q : I.Query) → StateM World (I.Reply q)}
    (answers : ∀ q, Agree (answer q) (answer q)) (p : Program I α) :
    Agree (p.run answer) (p.run answer) := by
  induction p with
  | done a => exact .pure _
  | fail f => exact .pure _
  | ask q k ih => exact (answers q).bind ih

/-- What does as much in a veiled world, and no more, agrees with itself. -/
theorem of_veiled {act : StateM World α} (blind : ∀ w, act w.veiled = ((act w).1, (act w).2.veiled)) :
    Agree act act := by
  intro w w' same
  have acts : act w.veiled = act w'.veiled := congrArg act same
  rw [blind, blind] at acts
  exact Prod.mk.inj acts

end Agree

theorem answerHttp_agree (q : Http.Query) : Agree (World.answerHttp q) (World.answerHttp q) := by
  cases q with
  | send request =>
    refine .of_veiled fun w => ?_
    unfold World.answerHttp World.veiled
    dsimp only
  | timeOfDay => exact .of_veiled fun _ => rfl

theorem answerFiles_agree (q : Files.Query) : Agree (World.answerFiles q) (World.answerFiles q) :=
  .of_veiled fun _ => rfl

section Calls

variable {wiring : Wiring}

/-- Where the cloud is a double, a call to it is answered and changes it as the double says. -/
theorem serve_cloud (inMemory : wiring.cloud = .memory) (call : Cloud.Call) (w : World) :
    World.serve wiring (.cloud call) w =
      ((w.cloud.answer call).1, { w with cloud := (w.cloud.answer call).2 }) := by
  simp only [World.serve, inMemory]

theorem World.veiled_withCloud {w w' : World} (same : w.veiled = w'.veiled) {d d' : CloudDouble}
    (doubles : d.veiled = d'.veiled) :
    { w with cloud := d }.veiled = { w' with cloud := d' }.veiled := by
  have worlds := congrArg (fun v : World => { v with cloud := d.veiled }) same
  rw [show ({ w' with cloud := d' } : World).veiled = { w'.veiled with cloud := d'.veiled } from rfl,
    ← doubles]
  exact worlds

theorem serve_agree (inMemory : wiring.cloud = .memory) (call : Call) :
    Agree (World.serve wiring call) (World.serve wiring call) := by
  cases call with
  | cloud call =>
    intro w w' same
    obtain ⟨answers, doubles⟩ := CloudDouble.veiled_answer (congrArg World.cloud same) call
    rw [serve_cloud inMemory, serve_cloud inMemory]
    exact ⟨answers, World.veiled_withCloud same doubles⟩
  | registry call =>
    unfold World.serve
    cases wiring.registry with
    | url base => exact .run answerHttp_agree _
    | memory => exact .of_veiled fun _ => rfl
  | hostAlias hostname ip =>
    unfold World.serve
    cases wiring.aliases with
    | file path => exact .run answerFiles_agree _
    | memory => exact .of_veiled fun _ => rfl

theorem serve_login_agree (inMemory : wiring.cloud = .memory) (cid : UInt64) (c : Credential)
    (password : String) :
    Agree (World.serve wiring (.cloud (.setCredential cid c)))
      (World.serve wiring (.cloud (.setCredential cid { c with password }))) := by
  intro w w' same
  obtain ⟨answers, doubles⟩ :=
    CloudDouble.veiled_login (congrArg World.cloud same) cid c password
  rw [serve_cloud inMemory, serve_cloud inMemory]
  exact ⟨answers, World.veiled_withCloud same doubles⟩

/-- What a call of an operation ends with, according to the script, when the service would answer it
    so. -/
def scripted (op : Operation) (served : StateM World (Except Fault op.Result)) :
    StateM World (Except Fault op.Result) := fun w =>
  match w.script.next? op with
  | none => served w
  | some (item, script) =>
    let w := { w with script, clock := w.clock.pass item.takes }
    match item.outcome with
    | .answers value => (.ok value, w)
    | .fails f => (.error f, w)
    | .failsAfter f => (.error f, (served w).2)
    | .delegates => served w

theorem answerCall_eq (wiring : Wiring) (call : Call) (w : World) :
    World.answerCall wiring call w =
      scripted call.operation (World.serve wiring call)
        { w with journal := (w.clock.time, call) :: w.journal } := by
  unfold scripted World.answerCall
  simp only [bind, StateT.bind, get, getThe, MonadStateOf.get, StateT.get, pure]
  cases w.script.next? call.operation with
  | none => rfl
  | some found =>
    obtain ⟨⟨takes, outcome⟩, script⟩ := found
    cases outcome <;> rfl

/-- **What is scripted** does not depend on passwords. -/
theorem scripted_agree {op : Operation} {served served' : StateM World (Except Fault op.Result)}
    (h : Agree served served') : Agree (scripted op served) (scripted op served') := by
  intro w w' same
  have scripts : w.veiled.script = w'.veiled.script := congrArg World.script same
  unfold scripted
  rw [show w.script = w'.script from scripts]
  cases w'.script.next? op with
  | none => exact h same
  | some found =>
    obtain ⟨⟨takes, outcome⟩, script⟩ := found
    have later : ({ w with script, clock := w.clock.pass takes } : World).veiled =
        ({ w' with script, clock := w'.clock.pass takes } : World).veiled :=
      congrArg (fun v : World => { v with script, clock := v.clock.pass takes }) same
    cases outcome with
    | answers value => exact ⟨rfl, later⟩
    | fails f => exact ⟨rfl, later⟩
    | failsAfter f => exact ⟨rfl, (h later).2⟩
    | delegates => exact h later

/-- Calls that differ in the password are journaled at the same time. -/
theorem World.veiled_journaled {w w' : World} (same : w.veiled = w'.veiled) {call call' : Call}
    (calls : call.veiled = call'.veiled) :
    ({ w with journal := (w.clock.time, call) :: w.journal } : World).veiled =
      ({ w' with journal := (w'.clock.time, call') :: w'.journal } : World).veiled := by
  have worlds := congrArg
    (fun v : World => { v with journal := (v.clock.time, call.veiled) :: v.journal }) same
  refine worlds.trans ?_
  rw [calls]
  rfl

theorem answerCall_agree (inMemory : wiring.cloud = .memory) (call : Call) :
    Agree (World.answerCall wiring call) (World.answerCall wiring call) := by
  intro w w' same
  rw [answerCall_eq, answerCall_eq]
  exact scripted_agree (serve_agree inMemory call) (World.veiled_journaled same rfl)

theorem answerCall_login_agree (inMemory : wiring.cloud = .memory) (cid : UInt64) (c : Credential)
    (password : String) :
    Agree (World.answerCall wiring (.cloud (.setCredential cid c)))
      (World.answerCall wiring (.cloud (.setCredential cid { c with password }))) := by
  intro w w' same
  rw [answerCall_eq, answerCall_eq]
  exact scripted_agree (serve_login_agree inMemory cid c password)
    (World.veiled_journaled same rfl)

/-- **The world's answers** do not depend on passwords. -/
theorem answer_agree (inMemory : wiring.cloud = .memory) (q : (Timed Services).Query) :
    Agree (World.answer wiring q) (World.answer wiring q) := by
  match q with
  | .now => exact .of_veiled fun _ => rfl
  | .cancelled => exact .of_veiled fun _ => rfl
  | .nap span => exact .of_veiled fun _ => rfl
  | .other (.call call) => exact answerCall_agree inMemory call
  | .other .mark => exact .of_veiled fun _ => rfl

/-! ## 4. Runs -/

/-- **Workflows in step** are answered alike all along. -/
theorem run_agree (inMemory : wiring.cloud = .memory) {α : Type} {p p' : Workflow α}
    (h : InStep p p') : Agree (World.run wiring p) (World.run wiring p') := by
  induction h with
  | done a => exact .pure _
  | fail f => exact .pure _
  | @ask q _ _ _ ih => exact (answer_agree inMemory q).bind ih
  | @login cid c password _ _ _ ih => exact (answerCall_login_agree inMemory cid c password).bind ih

end Calls

/-- **A password is kept.** Two allocations whose sites differ in the password alone, both passwords
    being allowed, end with the same instance or the same fault, and leave the same world behind: the
    same calls at the same times in the journal, the passwords of the logins left out, and the same
    registry, instances, settings and aliases. -/
theorem password_is_kept (wiring : Wiring) (site : Site) (password : String)
    (allows : site.Allows password) (request : Request) (w : World) :
    let first := World.run { wiring with cloud := .memory } (Allocation.run site request) w
    let second := World.run { wiring with cloud := .memory }
      (Allocation.run (site.withPassword password) request) w
    first.1 = second.1 ∧ first.2.veiled = second.2.veiled :=
  run_agree rfl (allocation_inStep allows request) rfl

namespace Sample

/-- A site with a login. -/
def guarded : Site := { agent := { mbus := "nats", credential := some ⟨"root", "opensesame"⟩ } }

/-- A world in which the answer to the login is lost and the caller cancels after a minute. -/
def unsteady : World where
  clock := { cancelsAt := some (.ofSeconds 60) }
  script := [⟨.setCredential, { outcome := .failsAfter (.cloud "connection reset") }⟩]

end Sample

theorem guarded_password_is_kept :
    Sample.guarded.Allows "correct horse" ∧
      (World.run {} (Allocation.run Sample.guarded Sample.request) Sample.unsteady).1 =
        (World.run {} (Allocation.run (Sample.guarded.withPassword "correct horse") Sample.request)
          Sample.unsteady).1 := by
  have allows : Sample.guarded.Allows "correct horse" := by
    rintro c ⟨⟩
    exact ⟨rfl, rfl⟩
  exact ⟨allows,
    (password_is_kept {} Sample.guarded "correct horse" allows Sample.request Sample.unsteady).1⟩

end Simulation

end InstancePool
