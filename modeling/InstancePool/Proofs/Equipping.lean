import InstancePool.Proofs.Courses
import InstancePool.Proofs.Upgrading

/-!
# Which disks an agent is told of

An agent is told of an extra disk where the request asks for one. It is there if the order for it was
placed, since the instance is not settled then before enough disks are listed. Where the cloud answers that
nothing was ordered, though, the instance is settled without one, and its agent is told of it all the same.

* `Program.Yields`: workflows by what they have heard at a good end; `Program.StaysAside`: those that ask
  nothing about disks and tell agents nothing;
* `Disk.Verified`, `Disk.Declined`: a disk that is there, and an order for nothing;
* `Settled`, `settle_yields`: what is heard until an instance is settled;
* `Equipped`, `allocation_yields`: what is heard in every allocation that ends well;
* `ToldOnce`, `disk_is_told_iff`: when an agent is told of a disk;
* `disk_is_told_unverified`: a run in which it is told of one that is not there.
-/

namespace InstancePool

open Program

variable {σ : Type}

/-! ## 1. What is heard at a good end -/

namespace Program

variable {α β : Type}

/-- Whenever a workflow ends well, what it has heard is as `fact` says of its value. -/
def Yields (answer : Answering (Timed Services) σ) (p : Workflow α) (fact : α → List Heard → Prop) : Prop :=
  ∀ s a, (p.trace answer s).result = .ok a → fact a ((p.trace answer s).exchanges.map Exchange.heard)

variable {answer : Answering (Timed Services) σ} {p : Workflow α} {fact : α → List Heard → Prop}

theorem Yields.mono {fact' : α → List Heard → Prop} (h : p.Yields answer fact)
    (weaker : ∀ a heard, fact a heard → fact' a heard) : p.Yields answer fact' :=
  fun s a ok => weaker a _ (h s a ok)

theorem Yields.and {fact' : α → List Heard → Prop} (h : p.Yields answer fact) (h' : p.Yields answer fact') :
    p.Yields answer fun a heard => fact a heard ∧ fact' a heard :=
  fun s a ok => ⟨h s a ok, h' s a ok⟩

theorem yields_done {a : α} (holds : fact a []) : (done a : Workflow α).Yields answer fact := by
  intro s b ok
  cases ok
  exact holds

theorem yields_fail {f : Fault} : (fail f : Workflow α).Yields answer fact := fun _ _ ok => nomatch ok

/-- **One workflow after another**: what both have heard, one after the other. -/
theorem Yields.bind {next : α → Workflow β} {goal : β → List Heard → Prop} (first : p.Yields answer fact)
    (rest : ∀ a heard, fact a heard → (next a).Yields answer fun b later => goal b (heard ++ later)) :
    (p.bind next).Yields answer goal := by
  intro s b ok
  obtain ⟨a, done, ok⟩ := trace_bind_eq_ok.mp ok
  have both := rest a _ (first s a done) _ b ok
  rw [trace_bind_ok done, Trace.precededBy_exchanges, List.map_append]
  exact both

/-- Whatever was heard first, where it makes no difference. -/
theorem yields_bind_of_closed {next : α → Workflow β} {goal : β → List Heard → Prop}
    (closed : ∀ b heard later, goal b later → goal b (heard ++ later))
    (rest : ∀ a, (next a).Yields answer goal) : (p.bind next).Yields answer goal := by
  have first : p.Yields answer fun _ _ => True := fun _ _ _ => trivial
  exact first.bind fun a heard _ => (rest a).mono fun b later => closed b heard later

theorem Yields.mapFault {change : Fault → Fault} (h : p.Yields answer fact) :
    (p.mapFault change).Yields answer fact := by
  intro s a ok
  rw [trace_mapFault] at ok ⊢
  exact h s a (Trace.mapFault_eq_ok.mp ok)

theorem Yields.inContext {frame : String} (h : p.Yields answer fact) :
    (p.inContext frame).Yields answer fact :=
  h.mapFault

/-- A workflow that may fail, before another one that then fails as well. -/
theorem Yields.attempt_bind {next : Except Fault α → Workflow β} {goal : β → List Heard → Prop}
    (h : p.Yields answer fact)
    (ok : ∀ a heard, fact a heard → (next (.ok a)).Yields answer fun b later => goal b (heard ++ later))
    (fault : ∀ f, (next (.error f)).Yields answer fun _ _ => False) :
    (p.attempt.bind next).Yields answer goal := by
  intro s b ended
  rw [trace_attempt_bind] at ended ⊢
  cases first : (p.trace answer s).result with
  | ok a =>
    rw [first] at ended
    rw [Trace.precededBy_exchanges, List.map_append]
    exact ok a _ (h s a first) _ b ended
  | error f =>
    rw [first] at ended
    exact (fault f _ b ended).elim

theorem yields_call (c : Call) :
    (Workflow.call c).Yields answer fun a heard => heard = [⟨.other (.call c), .ok a⟩] := by
  intro s a ok
  rw [trace_call] at ok ⊢
  exact congrArg (fun reply => [Heard.mk (.other (.call c)) reply]) ok

/-- A workflow that only asks some questions has heard nothing else. -/
theorem yields_of_stays {allowed : (Timed Services).Query → Prop} {good : α → Prop}
    (h : p.Stays (.only allowed) () good) :
    p.Yields answer fun _ heard => ∀ e ∈ heard, allowed e.query := by
  intro s a _ e member
  obtain ⟨e, asked, rfl⟩ := List.mem_map.mp member
  exact h.asks e asked

end Program

/-! ## 2. Disks -/

/-- The operation that a question asks for. -/
def operationOf? (q : (Timed Services).Query) : Option Operation := (callOf? q).map Call.operation

/-- A question that neither orders a disk nor tells an agent anything. -/
def Aside (q : (Timed Services).Query) : Prop :=
  operationOf? q ≠ some .attachDisk ∧ operationOf? q ≠ some .pushSettings

namespace Program

variable {α β : Type} {answer : Answering (Timed Services) σ} {p : Workflow α}

/-- Nothing that a workflow asks has to do with disks and agents. -/
def StaysAside (answer : Answering (Timed Services) σ) (p : Workflow α) : Prop :=
  p.Yields answer fun _ heard => ∀ h ∈ heard, Aside h.query

theorem aside_done (a : α) : (done a : Workflow α).StaysAside answer := yields_done (List.forall_mem_nil _)

theorem aside_call {c : Call} (disk : c.operation ≠ .attachDisk) (settings : c.operation ≠ .pushSettings) :
    (Workflow.call c).StaysAside answer := by
  refine (yields_call c).mono fun a heard same => ?_
  rw [same]
  exact List.forall_mem_singleton.mpr
    ⟨fun asks => disk (Option.some.inj asks), fun asks => settings (Option.some.inj asks)⟩

theorem aside_ofExcept (r : Except Fault α) : (ofExcept r : Workflow α).StaysAside answer := by
  cases r with
  | ok a => exact aside_done a
  | error f => exact yields_fail

theorem StaysAside.mapFault {change : Fault → Fault} (h : p.StaysAside answer) :
    (p.mapFault change).StaysAside answer :=
  Yields.mapFault h

theorem StaysAside.inContext {frame : String} (h : p.StaysAside answer) :
    (p.inContext frame).StaysAside answer :=
  h.mapFault

theorem StaysAside.bind {next : α → Workflow β} (h : p.StaysAside answer)
    (rest : ∀ a, (next a).StaysAside answer) : (p.bind next).StaysAside answer :=
  Yields.bind h fun a _ first => (rest a).mono fun _ _ last => List.forall_mem_append.mpr ⟨first, last⟩

end Program

namespace Disk

/-- A disk was ordered for an instance, the order was placed, and after it enough disks were listed. -/
def Verified (cid : UInt64) (heard : List Heard) : Prop :=
  ∃ (first middle last : List Heard) (sizeGb : UInt64) (reply : Except Fault UInt64)
    (devices : List BlockDevice),
    heard = first ++ ⟨(Cloud.Call.attachDisk cid sizeGb).query, reply⟩ ::
      (middle ++ ⟨(Cloud.Call.blockDevices cid).query, .ok devices⟩ :: last) ∧
    Placed reply ∧ 3 ≤ devices.length

/-- An order for a disk was answered so that nothing was ordered. -/
def Declined (cid : UInt64) (heard : List Heard) : Prop :=
  ∃ sizeGb, (⟨(Cloud.Call.attachDisk cid sizeGb).query, .ok 0⟩ : Heard) ∈ heard

/-- In the end enough disks are listed. -/
def Listed (cid : UInt64) (heard : List Heard) : Prop :=
  ∃ (first : List Heard) (devices : List BlockDevice),
    heard = first ++ [⟨(Cloud.Call.blockDevices cid).query, .ok devices⟩] ∧ 3 ≤ devices.length

section Pad

variable {cid : UInt64} {heard : List Heard}

theorem Verified.pad (verified : Verified cid heard) (before after : List Heard) :
    Verified cid (before ++ heard ++ after) := by
  obtain ⟨first, middle, last, sizeGb, reply, devices, rfl, placed, enough⟩ := verified
  exact ⟨before ++ first, middle, last ++ after, sizeGb, reply, devices, by simp, placed, enough⟩

theorem Declined.pad (declined : Declined cid heard) (before after : List Heard) :
    Declined cid (before ++ heard ++ after) := by
  obtain ⟨sizeGb, member⟩ := declined
  exact ⟨sizeGb, List.mem_append_left _ (List.mem_append_right _ member)⟩

end Pad

section Attachment

variable {answer : Answering (Timed Services) σ} {waits : Waits} {cid sizeGb : UInt64}

/-- What is heard after some waits is heard last. -/
theorem awaitEach_yields {α : Type} {rest : Workflow α} {goal : α → List Heard → Prop}
    (closed : ∀ a heard later, goal a later → goal a (heard ++ later)) (h : rest.Yields answer goal)
    (stages : List (Condition × String)) : (awaitEach waits cid rest stages).Yields answer goal := by
  induction stages with
  | nil => exact h
  | cons stage stages ih => exact yields_bind_of_closed closed fun _ => ih

theorem order_yields : (order cid sizeGb).Yields answer fun placed heard => ∃ reply,
    heard = [⟨(Cloud.Call.attachDisk cid sizeGb).query, reply⟩] ∧
      verdict cid sizeGb reply = .ok placed := by
  intro s placed ok
  rw [trace_order] at ok ⊢
  exact ⟨_, rfl, ok⟩

theorem count_yields : (count cid).Yields answer fun _ => Listed cid := by
  intro s a ok
  rw [trace_count] at ok ⊢
  obtain ⟨devices, answered, enough⟩ := counted_ok.mp ok
  refine ⟨[], devices, ?_, enough⟩
  exact congrArg (fun reply => [Heard.mk (Cloud.Call.blockDevices cid).query reply]) answered

theorem finish_yields : (finish waits cid).Yields answer fun _ => Listed cid := by
  rw [finish_eq]
  refine awaitEach_yields (fun _ heard later listed => ?_) count_yields _
  obtain ⟨first, devices, rfl, enough⟩ := listed
  exact ⟨heard ++ first, devices, (List.append_assoc ..).symm, enough⟩

/-- An order is placed, or nothing was ordered. -/
theorem verdict_ok {reply : Except Fault UInt64} {placed : Bool}
    (told : verdict cid sizeGb reply = .ok placed) : if placed then Placed reply else reply = .ok 0 := by
  by_cases here : Placed reply
  · rw [verdict_placed cid sizeGb here] at told
    cases told
    exact here
  · cases reply with
    | ok number =>
      have zero : number = 0 := not_not.mp here
      subst zero
      cases told
      rfl
    | error f =>
      rw [verdict_refused cid sizeGb here] at told
      cases told

/-- **A disk that is attached** is verified, or nothing was ordered. -/
theorem attach_yields : (attach waits cid sizeGb).Yields answer fun _ heard =>
    Verified cid heard ∨ Declined cid heard := by
  have closed : ∀ (_ : Unit) (heard later : List Heard), Verified cid later ∨ Declined cid later →
      Verified cid (heard ++ later) ∨ Declined cid (heard ++ later) := by
    intro _ heard later settled
    rw [← List.append_nil (heard ++ later)]
    exact settled.imp (·.pad heard []) (·.pad heard [])
  rw [attach_eq]
  refine awaitEach_yields closed ?_ _
  refine order_yields.bind fun placed heard ordered => ?_
  obtain ⟨reply, rfl, told⟩ := ordered
  have told := verdict_ok told
  cases placed with
  | true =>
    refine finish_yields.mono fun _ later listed => .inl ?_
    obtain ⟨middle, devices, rfl, enough⟩ := listed
    exact ⟨[], middle, [], sizeGb, reply, devices, rfl, told, enough⟩
  | false =>
    have nothing : reply = .ok 0 := told
    subst nothing
    exact yields_done (.inr ⟨sizeGb, List.mem_cons_self⟩)

end Attachment

end Disk

/-! ## 3. Until an instance is settled -/

theorem Polls.aside {cid : UInt64} {q : (Timed Services).Query} (h : Polls cid q) : Aside q := by
  cases h using Polls.split with
  | _ => exact ⟨nofun, nofun⟩

/-- What is heard until an instance is settled that is to have a disk of some size, or none. -/
structure Settled (diskSizeGb : Option UInt64) (cid : UInt64) (heard : List Heard) : Prop where
  /-- No agent is told anything. -/
  untold : ∀ h ∈ heard, operationOf? h.query ≠ some .pushSettings
  /-- A disk that is wanted is verified, or nothing was ordered for it. -/
  wanted : diskSizeGb ≠ none → Disk.Verified cid heard ∨ Disk.Declined cid heard
  /-- Where none is wanted none is ordered. -/
  unwanted : diskSizeGb = none → ∀ h ∈ heard, operationOf? h.query ≠ some .attachDisk

section Settling

variable {answer : Answering (Timed Services) σ} {waits : Waits} {cid : UInt64}
  {diskSizeGb : Option UInt64} {heard : List Heard}

/-- What has nothing to do with disks and agents may come before and after. -/
theorem Settled.pad (settled : Settled diskSizeGb cid heard) {before after : List Heard}
    (first : ∀ h ∈ before, Aside h.query) (last : ∀ h ∈ after, Aside h.query) :
    Settled diskSizeGb cid (before ++ heard ++ after) where
  untold := List.forall_mem_append.mpr ⟨List.forall_mem_append.mpr
    ⟨fun h member => (first h member).2, settled.untold⟩, fun h member => (last h member).2⟩
  wanted some := (settled.wanted some).imp (·.pad before after) (·.pad before after)
  unwanted none := List.forall_mem_append.mpr ⟨List.forall_mem_append.mpr
    ⟨fun h member => (first h member).1, settled.unwanted none⟩, fun h member => (last h member).1⟩

theorem wait_aside (timeout : Duration) (condition : Condition) :
    (condition.awaitWithin waits timeout cid).StaysAside answer :=
  yields_of_stays (stays_awaitWithin (fun _ polls => ⟨polls.aside, fun _ => rfl⟩) waits timeout condition)

/-- **An instance that is settled** has its disk, if it is to have one, or nothing was ordered. -/
theorem settle_yields : (Agent.settle waits cid diskSizeGb).Yields answer fun _ heard =>
    Settled (diskSizeGb.filter (0 < ·)) cid heard := by
  unfold Agent.settle
  cases wanted : diskSizeGb.filter (0 < ·) with
  | none =>
    refine Yields.mono (wait_aside _ _).inContext fun _ heard aside => ?_
    have unwanted : ∀ h ∈ heard, operationOf? h.query ≠ some .attachDisk := fun h member => (aside h member).1
    exact ⟨fun h member => (aside h member).2, fun some => absurd rfl some, fun _ => unwanted⟩
  | some sizeGb =>
    have untold : ∀ q, Settles cid q → operationOf? q ≠ some .pushSettings := by
      intro q settles
      cases settles with
      | poll polls => exact polls.aside.2
      | order sizeGb => exact nofun
      | count => exact nofun
    have stays : (Disk.attach waits cid sizeGb).Stays
        (.only fun q => operationOf? q ≠ some .pushSettings) () fun _ => True :=
      stays_attach (fun q settles => ⟨untold q settles, fun _ => rfl⟩) waits sizeGb
    refine ((yields_of_stays stays).and Disk.attach_yields).inContext.mono fun _ heard attached => ?_
    exact ⟨attached.1, fun _ => attached.2, nofun⟩

end Settling

/-! ## 4. Allocations -/

/-- What is heard when an instance is handed out: it is settled, reported, and its agent is told of a disk
    if the request asks for one. The agent is told once. -/
inductive Equipped (request : Request) (i : Instance) : List Heard → Prop where
  | mk {cid : UInt64} {before later : List Heard} {pushed : Agent.Settings}
    (settled : Settled request.diskSize cid before)
    (reported : (⟨(Cloud.Call.getInstance cid).query, .ok i⟩ : Heard) ∈ before)
    (told : pushed.disks.ephemeral = request.diskSize.map fun _ => Agent.ephemeralDisk)
    (last : ∀ h ∈ later, Aside h.query) :
    Equipped request i (before ++ ⟨(Cloud.Call.pushSettings i.cid pushed).query, .ok ()⟩ :: later)

/-- What is heard once an instance is settled. -/
inductive Announced (request : Request) (cid : UInt64) (i : Instance) : List Heard → Prop where
  | mk {before later : List Heard} {pushed : Agent.Settings}
    (first : ∀ h ∈ before, Aside h.query)
    (reported : (⟨(Cloud.Call.getInstance cid).query, .ok i⟩ : Heard) ∈ before)
    (told : pushed.disks.ephemeral = request.diskSize.map fun _ => Agent.ephemeralDisk)
    (last : ∀ h ∈ later, Aside h.query) :
    Announced request cid i (before ++ ⟨(Cloud.Call.pushSettings i.cid pushed).query, .ok ()⟩ :: later)

section Heard

variable {request : Request} {cid : UInt64} {i : Instance} {heard before later : List Heard}

/-- What has nothing to do with disks and agents may be heard before, and after. -/
theorem Equipped.pad (equipped : Equipped request i heard) (first : ∀ h ∈ before, Aside h.query)
    (last : ∀ h ∈ later, Aside h.query) : Equipped request i (before ++ heard ++ later) := by
  cases equipped with
  | @mk cid before' later' pushed settled reported told last' =>
    have padded : Settled request.diskSize cid (before ++ before' ++ []) :=
      settled.pad first (List.forall_mem_nil _)
    rw [List.append_nil] at padded
    have all := Equipped.mk padded (List.mem_append_right _ reported) told
      (List.forall_mem_append.mpr ⟨last', last⟩)
    simpa using all

/-- An instance that is settled, and whose agent is told then. -/
theorem Settled.equipped (settled : Settled request.diskSize cid heard)
    (announced : Announced request cid i later) : Equipped request i (heard ++ later) := by
  cases announced with
  | mk first reported told last =>
    have padded : Settled request.diskSize cid ([] ++ heard ++ _) :=
      settled.pad (List.forall_mem_nil _) first
    have all := Equipped.mk padded (List.mem_append_right _ reported) told last
    simpa using all

end Heard

namespace Program

variable {α : Type} {answer : Answering (Timed Services) σ} {p : Workflow α} {request : Request}

/-- Before an instance is handed out anything else may be asked. -/
theorem StaysAside.equipped {next : α → Workflow Instance} (h : p.StaysAside answer)
    (rest : ∀ a, (next a).Yields answer (Equipped request)) :
    (p.bind next).Yields answer (Equipped request) := by
  refine Yields.bind h fun a before first => (rest a).mono fun i heard equipped => ?_
  rw [← List.append_nil (before ++ heard)]
  exact equipped.pad first (List.forall_mem_nil _)

/-- And so may it after that. -/
theorem StaysAside.handOn {i : Instance} {heard : List Heard} (h : p.StaysAside answer)
    (equipped : Equipped request i heard) :
    (p.bind fun _ => .done i).Yields answer fun i later => Equipped request i (heard ++ later) := by
  refine Yields.bind h fun _ later last => yields_done ?_
  rw [List.append_nil]
  have padded : Equipped request i ([] ++ heard ++ _) := equipped.pad (List.forall_mem_nil _) last
  exact padded

/-- An agent is told once its instance is settled. -/
theorem Yields.equipped {cid : UInt64} {next : α → Workflow Instance}
    (h : p.Yields answer fun _ heard => Settled request.diskSize cid heard)
    (rest : ∀ a, (next a).Yields answer (Announced request cid)) :
    (p.bind next).Yields answer (Equipped request) :=
  h.bind fun a _ settled => (rest a).mono fun _ _ announced => settled.equipped announced

/-- **What was heard in a run that ended well.** -/
theorem Yields.trace {fact : α → List Heard → Prop} (h : p.Yields answer fact) {s : σ} {a : α}
    (ok : (p.trace answer s).result = .ok a) : fact a ((p.trace answer s).exchanges.map Exchange.heard) :=
  h s a ok

-- From here on a workflow is taken apart by these lemmas, and never by running it in a goal.
attribute [irreducible] Yields

end Program

section Parts

variable {answer : Answering (Timed Services) σ} {site : Site} {request : Request} {selected : Networks}
  {cid : UInt64}

theorem reload_aside (waits : Waits) (stemcell : Stemcell) :
    (Reclaim.reload waits cid stemcell).StaysAside answer := by
  have ordered : (Workflow.cloud (.reloadOs cid stemcell)).StaysAside answer :=
    aside_call (c := .cloud (.reloadOs cid stemcell)) nofun nofun
  refine StaysAside.bind ordered.inContext fun _ => ?_
  refine StaysAside.bind (wait_aside _ _).inContext fun _ => ?_
  exact (wait_aside _ _).inContext

theorem locate_aside (target : Reclaim.Target) : (Reclaim.locate target).StaysAside answer := by
  cases target with
  | cid cid => exact (aside_call (c := .cloud (.getInstance cid)) nofun nofun).inContext
  | ip ip =>
    unfold Reclaim.locate
    dsimp only
    split
    · exact (aside_call (c := .cloud (.instanceByPrivateIp ip)) nofun nofun).inContext
    · exact (aside_call (c := .cloud (.instanceByPublicIp ip)) nofun nofun).inContext

theorem transition_aside (cid : UInt64) (before after : Pool.State) :
    (Pool.transition cid before after).StaysAside answer := by
  unfold Pool.transition
  split
  · exact (aside_call (c := .registry (.updateState cid (some before) after)) nofun nofun).inContext
  · exact yields_fail

theorem resolve_aside (options : Agent.Options) (i : Instance) (externalIp : Option Address) :
    (Agent.resolveEndpoints options i externalIp).StaysAside answer := by
  have address : (Agent.resolveAddress i externalIp).StaysAside answer := by
    unfold Agent.resolveAddress
    split
    · exact aside_done _
    · rename_i ip _
      have recorded : (Workflow.recordAlias i.fqdn ip).StaysAside answer :=
        aside_call (c := .hostAlias i.fqdn ip) nofun nofun
      exact StaysAside.bind recorded.inContext fun _ => aside_done _
    · exact yields_fail
  exact StaysAside.bind address fun ip => aside_ofExcept _

theorem login_aside (options : Agent.Options) : (Agent.applyCredential options cid).StaysAside answer := by
  unfold Agent.applyCredential
  split
  · exact aside_done _
  · rename_i credential _
    refine StaysAside.bind (aside_ofExcept credential.validate) fun _ => ?_
    exact (aside_call (c := .cloud (.setCredential cid credential)) nofun nofun).inContext

/-- The settings are pushed as the request has them. -/
theorem configure_yields (options : Agent.Options) (i : Instance) (endpoints : Agent.Endpoints) :
    (Agent.configure options i request selected endpoints).Yields answer fun _ heard => ∃ pushed,
      pushed.disks.ephemeral = (request.diskSize.map fun _ => Agent.ephemeralDisk) ∧
        heard = [⟨(Cloud.Call.pushSettings i.cid pushed).query, .ok ()⟩] := by
  refine (yields_call (.cloud (.pushSettings _ _))).inContext.bind fun _ heard same => yields_done ?_
  rw [same]
  exact ⟨_, rfl, rfl⟩

end Parts

section Runs

variable {answer : Answering (Timed Services) σ} {site : Site} {request : Request} {selected : Networks}

/-- What is left once an instance was found: it is settled, and its agent is told. -/
theorem renew_yields (found : Instance) :
    (Reclaim.renew site request selected found).Yields answer (Equipped request) := by
  unfold Reclaim.renew
  refine StaysAside.equipped (reload_aside site.waits _) fun _ => ?_
  refine Yields.equipped settle_yields fun _ => ?_
  refine Yields.bind (resolve_aside site.agent found _) fun endpoints before first => ?_
  refine (yields_call (.cloud (.getInstance _))).inContext.bind fun i _ report => ?_
  refine (configure_yields site.agent i endpoints).bind fun _ _ configured => ?_
  obtain ⟨pushed, told, rfl⟩ := configured
  refine Yields.bind (login_aside site.agent) fun _ later last => yields_done ?_
  subst report
  have refreshed : ∀ h ∈ before ++ [⟨(Cloud.Call.getInstance found.cid).query, .ok i⟩], Aside h.query :=
    List.forall_mem_append.mpr ⟨first, List.forall_mem_singleton.mpr ⟨nofun, nofun⟩⟩
  have announced := Announced.mk refreshed (List.mem_append_right _ List.mem_cons_self) told last
  simpa using announced

theorem reclaim_yields (target : Reclaim.Target) :
    (Reclaim.run site target request selected).Yields answer (Equipped request) := by
  rw [Reclaim.run_eq]
  exact StaysAside.equipped (locate_aside target) renew_yields

/-- What is left once an instance was ordered. -/
theorem bringUp_yields (cid : UInt64) :
    (Provision.bringUp site request selected cid).Yields answer (Equipped request) := by
  unfold Provision.bringUp
  refine Yields.equipped settle_yields.mapFault fun _ => ?_
  refine (yields_call (.cloud (.getInstance _))).inContext.mapFault.bind fun i _ report => ?_
  refine Yields.bind (resolve_aside site.agent i _).mapFault fun endpoints before first => ?_
  refine (configure_yields site.agent i endpoints).mapFault.bind fun _ _ configured => ?_
  obtain ⟨pushed, told, rfl⟩ := configured
  refine Yields.bind (login_aside site.agent).mapFault fun _ later last => yields_done ?_
  subst report
  have refreshed : ∀ h ∈ ⟨(Cloud.Call.getInstance cid).query, .ok i⟩ :: before, Aside h.query :=
    List.forall_mem_cons.mpr ⟨⟨nofun, nofun⟩, first⟩
  have announced := Announced.mk refreshed List.mem_cons_self told last
  simpa using announced

theorem build_yields : (Provision.run site request selected).Yields answer (Equipped request) := by
  have mark : Workflow.mark.StaysAside answer :=
    yields_of_stays (stays_ask ⟨⟨nofun, nofun⟩, fun _ => rfl⟩ fun _ _ => stays_done trivial)
  have order : ∀ name, (Provision.order request selected name).StaysAside answer := fun name =>
    (aside_call (c := .cloud (.createInstance (request.template selected name))) nofun
      nofun).inContext.mapFault
  rw [Provision.run_eq]
  exact mark.equipped fun _ => (order _).equipped fun receipt => bringUp_yields receipt.cid

theorem reuse_yields (cid : UInt64) :
    (Allocation.reuse site cid request selected).Yields answer (Equipped request) := by
  rw [Allocation.reuse_eq]
  refine (transition_aside cid _ _).mapFault.equipped fun _ => ?_
  refine (reclaim_yields _).attempt_bind (fun i heard equipped => ?_) fun f => ?_
  · exact (transition_aside cid _ _).handOn equipped
  · exact Yields.attempt_bind (transition_aside cid _ _) (fun _ _ _ => yields_fail) fun _ => yields_fail

theorem provision_yields :
    (Allocation.provision site request selected).Yields answer (Equipped request) := by
  refine build_yields.bind fun i heard equipped => ?_
  have entered : (Workflow.registry (.addEntry (.ofInstance i .using))).StaysAside answer :=
    aside_call (c := .registry (.addEntry (.ofInstance i .using))) nofun nofun
  exact entered.inContext.handOn equipped

/-- **What is heard in every allocation that ends well**, on each of its three routes. -/
theorem allocation_yields : (Allocation.run site request).Yields answer (Equipped request) := by
  have valid : (ofExcept (Networks.select request.networks) : Workflow Networks).StaysAside answer :=
    aside_ofExcept _
  refine valid.inContext.equipped fun selected => ?_
  cases selected.fixedIp with
  | some ip => exact (reclaim_yields (.ip ip)).inContext
  | none =>
    have searched : (Workflow.registry (.findEntries (request.filter selected))).StaysAside answer :=
      aside_call (c := .registry (.findEntries (request.filter selected))) nofun nofun
    refine searched.inContext.equipped fun candidates => ?_
    cases candidates with
    | nil => exact provision_yields
    | cons entry rest => exact reuse_yields entry.cid

end Runs

/-! ## 5. What an agent is told -/

/-- The one time that an agent is told anything, and what is heard before it: its instance is reported. -/
structure ToldOnce (cid : UInt64) (i : Instance) (pushed : Agent.Settings) (before heard : List Heard) :
    Prop where
  reported : (⟨(Cloud.Call.getInstance cid).query, .ok i⟩ : Heard) ∈ before
  untold : ∀ h ∈ before, operationOf? h.query ≠ some .pushSettings
  once : ∃ later, heard = before ++ ⟨(Cloud.Call.pushSettings i.cid pushed).query, .ok ()⟩ :: later ∧
    ∀ h ∈ later, operationOf? h.query ≠ some .pushSettings

section Told

variable {cid : UInt64} {heard : List Heard} {request : Request} {i : Instance}

theorem Disk.Verified.ordered (verified : Disk.Verified cid heard) :
    ∃ sizeGb reply, (⟨(Cloud.Call.attachDisk cid sizeGb).query, reply⟩ : Heard) ∈ heard ∧
      Disk.Placed reply := by
  obtain ⟨first, middle, last, sizeGb, reply, devices, rfl, placed, -⟩ := verified
  exact ⟨sizeGb, reply, List.mem_append_right _ List.mem_cons_self, placed⟩

/-- A disk is ordered only where one is wanted. -/
theorem Settled.wanted_iff {diskSizeGb : Option UInt64} (settled : Settled diskSizeGb cid heard) :
    diskSizeGb ≠ none ↔ Disk.Verified cid heard ∨ Disk.Declined cid heard := by
  refine ⟨settled.wanted, fun asked none => ?_⟩
  cases asked with
  | inl verified =>
    obtain ⟨sizeGb, reply, member, -⟩ := verified.ordered
    exact settled.unwanted none _ member rfl
  | inr declined =>
    obtain ⟨sizeGb, member⟩ := declined
    exact settled.unwanted none _ member rfl

/-- What an agent is told of is what was asked for until its instance was settled. -/
theorem Equipped.told (equipped : Equipped request i heard) : ∃ cid pushed before,
    ToldOnce cid i pushed before heard ∧ Settled request.diskSize cid before ∧
      (pushed.disks.ephemeral ≠ none ↔ request.diskSize ≠ none) := by
  cases equipped with
  | @mk cid before later pushed settled reported told last =>
    have once : ToldOnce cid i pushed before _ :=
      ⟨reported, settled.untold, later, rfl, fun h member => (last h member).2⟩
    exact ⟨cid, pushed, before, once, settled, not_congr (told ▸ Option.map_eq_none_iff)⟩

end Told

/-! ## 6. A cloud that has no disks -/

namespace Sample

/-- A cloud that orders nothing where a disk is ordered, and a pool that is empty. -/
def diskless : Answering (Timed Services) Bool
  | .other (.call (.cloud (.attachDisk _ _))) => fun seen => (.ok 0, seen)
  | .other (.call (.registry (.findEntries _))) => fun seen => (.ok [], seen)
  | .other (.call (.registry (.addEntry _))) => fun seen => (.ok (), seen)
  | q => cloud q

/-- A request for an instance with an extra disk. -/
def large : Request := { outer with shape := { outer.shape with ephemeralDiskSizeGb := some 100 } }

/-- An instance is built without the disk, and handed out. -/
theorem builds_diskless : (Allocation.run site large).Reaches diskless true { cid := 42 } true := by
  have idle : (Condition.idle.await site.waits 42).Reaches diskless true () true :=
    reaches_awaitWithin nofun rfl ⟨rfl, rfl⟩
  have completed : ((Condition.completed [Transaction.serviceSetup]).await site.waits 42).Reaches
      diskless true () true :=
    reaches_awaitWithin (by decide) rfl ⟨rfl, rfl⟩
  have attached : (Disk.attach site.waits 42 100).Reaches diskless true () true :=
    idle.inContext.bind (completed.inContext.bind ⟨rfl, rfl⟩)
  have settled : (Agent.settle site.waits 42 large.shape.ephemeralDiskSizeGb).Reaches diskless true ()
      true :=
    attached.inContext
  have up : (Provision.bringUp site large selected 42).Reaches diskless true { cid := 42 } true :=
    settled.mapFault.bind ⟨rfl, rfl⟩
  have ordered : ∀ name, (Provision.order large selected name).Reaches diskless true { cid := 42 } true :=
    fun name => ⟨rfl, rfl⟩
  have built : (Provision.run site large selected).Reaches diskless true { cid := 42 } true :=
    reaches_ask ((ordered _).bind up)
  have searched : (Workflow.registry (.findEntries (large.filter selected))).Reaches diskless true []
      true :=
    ⟨rfl, rfl⟩
  have accepted : Networks.select large.networks = .ok selected := rfl
  rw [Allocation.run_of_pooled accepted rfl]
  exact searched.inContext.bind (built.bind ⟨rfl, rfl⟩)

/-- No order is placed in that cloud. -/
theorem unverified_diskless {α : Type} (p : Workflow α) (cid : UInt64) :
    ¬ Disk.Verified cid ((p.trace diskless true).exchanges.map Exchange.heard) := by
  intro verified
  obtain ⟨sizeGb, reply, member, placed⟩ := verified.ordered
  obtain ⟨e, asked, same⟩ := List.mem_map.mp member
  obtain ⟨q, s, rfl⟩ := exchanges_asked e asked
  cases same
  exact placed rfl

end Sample

/-! ## 7. The disk that an agent is told of -/

/-- **An agent is told of an extra disk** if and only if one was ordered for its instance before, and either
    enough disks were listed after that, or the answer was that nothing was ordered. -/
theorem disk_is_told_iff {answer : Answering (Timed Services) σ} {site : Site} {request : Request} {s : σ}
    {i : Instance} (ok : ((Allocation.run site request).trace answer s).result = .ok i) :
    ∃ cid pushed before, ToldOnce cid i pushed before
        (((Allocation.run site request).trace answer s).exchanges.map Exchange.heard) ∧
      (pushed.disks.ephemeral ≠ none ↔ Disk.Verified cid before ∨ Disk.Declined cid before) := by
  obtain ⟨cid, pushed, before, once, settled, wanted⟩ := (allocation_yields.trace ok).told
  exact ⟨cid, pushed, before, once, wanted.trans settled.wanted_iff⟩

/-- So it is where nothing was ordered. -/
theorem disk_is_told_iff_diskless :
    ((Allocation.run Sample.site Sample.large).trace Sample.diskless true).result = .ok { cid := 42 } ∧
      ∃ cid pushed before, ToldOnce cid { cid := 42 } pushed before
          (((Allocation.run Sample.site Sample.large).trace Sample.diskless true).exchanges.map
            Exchange.heard) ∧
        (pushed.disks.ephemeral ≠ none ↔ Disk.Verified cid before ∨ Disk.Declined cid before) :=
  ⟨Sample.builds_diskless.value, disk_is_told_iff Sample.builds_diskless.value⟩

/-- An agent is told of a disk that was never listed, where the answer was that nothing was ordered. -/
theorem disk_is_told_unverified :
    ((Allocation.run Sample.site Sample.large).trace Sample.diskless true).result = .ok { cid := 42 } ∧
      ∃ cid pushed before, ToldOnce cid { cid := 42 } pushed before
          (((Allocation.run Sample.site Sample.large).trace Sample.diskless true).exchanges.map
            Exchange.heard) ∧
        pushed.disks.ephemeral ≠ none ∧ ∀ cid, ¬ Disk.Verified cid before := by
  have ok := Sample.builds_diskless.value
  obtain ⟨cid, pushed, before, once, -, wanted⟩ := (allocation_yields.trace ok).told
  refine ⟨ok, cid, pushed, before, once, wanted.mpr (by decide), fun other verified => ?_⟩
  obtain ⟨later, all, -⟩ := once.once
  exact Sample.unverified_diskless _ other (all ▸ verified.pad [] _)

end InstancePool
