import InstancePool.Provision
import InstancePool.Proofs.Calls

/-!
# Building an instance

An instance is ordered under a name of its own, and only when the order is answered is it brought up.

* `Provision.marked`, `ordered`, `broughtUp`: the parts of the trace, and `trace_run`: how they follow
  each other;
* `Provision.BroughtUp`, `broughtUp_eq_ok`: all the steps after the order;
* `broughtUp_asks`: what is asked in them.
-/

namespace InstancePool

variable {σ : Type}

namespace Provision

section Parts

variable (answer : Answering (Timed Services) σ) (site : Site) (request : Request)
  (selected : Networks) (cid : UInt64) (s : σ)

/-- The mark for the host name of a new instance. -/
def marked : Exchange (Timed Services) σ := answer.exchange (.other .mark) s

/-- The host name of a new instance. -/
def hostname : String :=
  Request.hostname request.shape.hostnamePrefix (marked answer s).reply

/-- The order of a new instance. -/
def ordered : Exchange (Timed Services) σ :=
  answer.exchange
    (Cloud.Call.createInstance (request.template selected (hostname answer request s))).query
    (marked answer s).after

/-- What is left of provisioning after the order. -/
def bringUp : Workflow Instance := do
  let after (steps : List Step) {α : Type} (p : Workflow α) : Workflow α :=
    p.mapFault (abandon request.agentId steps)
  let steps := [Step.templateRendered, .instanceCreated cid]
  after steps <| Agent.settle site.waits cid request.shape.ephemeralDiskSizeGb
  let steps := steps ++ [.instanceSettled]
  let i ← after steps <|
    (Workflow.cloud (.getInstance cid)).inContext s!"refreshing instance {cid} after create"
  let endpoints ← after steps <| Agent.resolveEndpoints site.agent i request.externalIp
  let steps := steps ++ [.endpointsResolved]
  let _ ← after steps <| Agent.configure site.agent i request selected endpoints
  let steps := steps ++ [.agentConfigured]
  after steps <| Agent.applyCredential site.agent cid
  return i

/-- Bringing up the instance that was ordered. -/
def broughtUp : Trace (Timed Services) σ Instance :=
  (bringUp site request selected cid).trace answer s

/-- The wait until the instance is settled. -/
def settling : Trace (Timed Services) σ Unit :=
  (Agent.settle site.waits cid request.shape.ephemeralDiskSizeGb).trace answer s

/-- The report on the instance once it is settled. -/
def refetched : Exchange (Timed Services) σ :=
  answer.exchange (Cloud.Call.getInstance cid).query (settling answer site request cid s).state

/-- Finding out where the agent of an instance is reached. -/
def resolving (i : Instance) : Trace (Timed Services) σ Agent.Endpoints :=
  (Agent.resolveEndpoints site.agent i request.externalIp).trace answer s

/-- Pushing the settings to the agent. -/
def configuring (i : Instance) (endpoints : Agent.Endpoints) :
    Trace (Timed Services) σ Agent.Settings :=
  (Agent.configure site.agent i request selected endpoints).trace answer s

/-- Setting the login. -/
def loggingIn : Trace (Timed Services) σ Unit := (Agent.applyCredential site.agent cid).trace answer s

/-- Every step after the order of an instance is completed, and the report on it once it was settled
    is `i`. -/
structure BroughtUp (i : Instance) : Prop where
  settled : (settling answer site request cid s).result = .ok ()
  refetched : (refetched answer site request cid s).reply = .ok i
  configured : ∃ endpoints settings,
    let resolved := resolving answer site request (Provision.refetched answer site request cid s).after i
    let pushed := configuring answer site request selected resolved.state i endpoints
    resolved.result = .ok endpoints ∧ pushed.result = .ok settings ∧
      (loggingIn answer site cid pushed.state).result = .ok ()

end Parts

variable {answer : Answering (Timed Services) σ} {site : Site} {request : Request}
  {selected : Networks} {cid : UInt64} {s : σ}

/-- The order of an instance under a name, with what becomes of its fault. -/
def order (request : Request) (selected : Networks) (name : String) : Workflow Instance :=
  ((Workflow.cloud (.createInstance (request.template selected name))).inContext
    s!"creating instance {name}").mapFault (abandon request.agentId [.templateRendered])

theorem run_eq :
    run site request selected = Workflow.mark.bind fun mark =>
      (order request selected (Request.hostname request.shape.hostnamePrefix mark)).bind fun receipt =>
        bringUp site request selected receipt.cid := rfl

theorem trace_order :
    (order request selected (hostname answer request s)).trace answer (marked answer s).after =
      let name := hostname answer request s
      ⟨Except.mapError (fun f => abandon request.agentId [.templateRendered]
          (f.inContext s!"creating instance {name}")) (ordered answer request selected s).reply,
        (ordered answer request selected s).after, [ordered answer request selected s]⟩ := by
  have framed : (((Workflow.cloud (.createInstance (request.template selected
      (hostname answer request s)))).inContext s!"creating instance {hostname answer request s}").trace
        answer (marked answer s).after) = _ := trace_framed _ _
  unfold order
  rw [Program.trace_mapFault]
  refine (congrArg (Trace.mapFault · _) framed).trans ?_
  show Trace.mapFault ⟨Except.mapError _ (ordered answer request selected s).reply, _, _⟩ _ = _
  cases (ordered answer request selected s).reply with
  | ok receipt => rfl
  | error f => rfl

/-- **Nothing is done to an instance before its order is answered well.** -/
theorem trace_run :
    (run site request selected).trace answer s =
      match (ordered answer request selected s).reply with
      | .ok receipt =>
        (broughtUp answer site request selected receipt.cid
          (ordered answer request selected s).after).precededBy
            [marked answer s, ordered answer request selected s]
      | .error f =>
        let name := hostname answer request s
        ⟨.error (abandon request.agentId [.templateRendered]
            (f.inContext s!"creating instance {name}")),
          (ordered answer request selected s).after,
          [marked answer s, ordered answer request selected s]⟩ := by
  have begun : (run site request selected).trace answer s =
      (((order request selected (hostname answer request s)).bind fun receipt =>
        bringUp site request selected receipt.cid).trace answer (marked answer s).after).precededBy
          [marked answer s] := by
    rw [run_eq]
    rfl
  rw [begun, Program.trace_bind, trace_order]
  cases (ordered answer request selected s).reply with
  | ok receipt => rfl
  | error f => rfl

/-- The instance is handed on if and only if every step is completed, and as it was reported once it
    was settled. -/
theorem broughtUp_eq_ok {i : Instance} :
    (broughtUp answer site request selected cid s).result = .ok i ↔
      BroughtUp answer site request selected cid s i := by
  have steps : (broughtUp answer site request selected cid s).result = .ok i ↔
      ∃ u : Unit, (settling answer site request cid s).result = .ok u ∧
      ∃ j, (refetched answer site request cid s).reply = .ok j ∧
      ∃ endpoints, (resolving answer site request (refetched answer site request cid s).after j).result
          = .ok endpoints ∧
      ∃ settings, (configuring answer site request selected (resolving answer site request
          (refetched answer site request cid s).after j).state j endpoints).result = .ok settings ∧
      ∃ v : Unit, (loggingIn answer site cid (configuring answer site request selected
          (resolving answer site request (refetched answer site request cid s).after j).state j
            endpoints).state).result = .ok v ∧ (.ok j : Except Fault Instance) = .ok i := by
    refine Program.trace_mapFault_bind_eq_ok.trans ?_
    refine exists_congr fun _ => and_congr_right fun _ => ?_
    refine trace_framed_bind_eq_ok.trans ?_
    refine exists_congr fun j => and_congr_right fun _ => ?_
    refine Program.trace_mapFault_bind_eq_ok.trans ?_
    refine exists_congr fun endpoints => and_congr_right fun _ => ?_
    refine Program.trace_mapFault_bind_eq_ok.trans ?_
    refine exists_congr fun settings => and_congr_right fun _ => ?_
    exact Program.trace_mapFault_bind_eq_ok
  refine steps.trans ⟨?_, ?_⟩
  · rintro ⟨_, settled, j, report, endpoints, resolved, settings, pushed, _, done, same⟩
    cases same
    exact ⟨settled, report, endpoints, settings, resolved, pushed, done⟩
  · rintro ⟨settled, report, endpoints, settings, resolved, pushed, done⟩
    exact ⟨(), settled, i, report, endpoints, resolved, settings, pushed, (), done, rfl⟩

/-- Once the instance is settled, the next thing is a report on it. -/
theorem broughtUp_exchanges (settled : (settling answer site request cid s).result = .ok ()) :
    ∃ later, (broughtUp answer site request selected cid s).exchanges =
      (settling answer site request cid s).exchanges ++
        refetched answer site request cid s :: later := by
  obtain ⟨later, first⟩ := trace_framed_bind_exchanges
  refine ⟨later, ?_⟩
  unfold broughtUp bringUp
  refine (congrArg Trace.exchanges (Program.trace_mapFault_bind_ok settled)).trans ?_
  exact congrArg (_ ++ ·) first

/-- **After the order an instance is tended, and nothing else is asked.** -/
theorem broughtUp_asks :
    ∀ e ∈ (Provision.broughtUp answer site request selected cid s).exchanges, Tended e.query := by
  have tends : Tends (Discipline.only Tended) () fun _ => True := tends_only fun _ => id
  have stays : (Provision.bringUp site request selected cid).Stays (.only Tended) () fun _ => True := by
    refine (stays_settle (tends.settles trivial) site.waits _).mapFault.bind fun _ _ => ?_
    refine (stays_getInstance tends trivial).inContext.mapFault.bind fun i _ => ?_
    refine (stays_resolveEndpoints tends trivial site.agent _).mapFault.bind fun endpoints _ => ?_
    refine (stays_configure tends trivial site.agent _ _ endpoints).mapFault.bind fun _ _ => ?_
    exact (stays_applyCredential tends trivial site.agent).mapFault.bind fun _ _ =>
      Program.stays_done trivial
  exact Program.Stays.asks stays

/-- **One instance is ordered, and all that follows only tends it.** -/
theorem run_exchanges : ∃ later,
    ((run site request selected).trace answer s).exchanges =
      marked answer s :: ordered answer request selected s :: later ∧
    ∀ e ∈ later, Tended e.query := by
  rw [trace_run]
  split
  · exact ⟨_, rfl, broughtUp_asks⟩
  · exact ⟨[], rfl, fun e he => nomatch he⟩

/-- Nothing is asked of the registry. -/
theorem run_silent : ∀ e ∈ ((run site request selected).trace answer s).exchanges,
    ∀ c : Registry.Call, e.query ≠ c.query := by
  obtain ⟨later, built, tended⟩ : ∃ later,
    ((run site request selected).trace answer s).exchanges = _ :: _ :: later ∧ _ := run_exchanges
  rw [built]
  refine List.forall_mem_cons.mpr ⟨?_, List.forall_mem_cons.mpr ⟨?_, ?_⟩⟩
  · exact fun c asks => nomatch asks
  · exact fun c asks => nomatch asks
  · exact fun e he => (tended e he).not_registry

/-- **An instance is reported on again as soon as it is settled.** -/
theorem run_refetches {receipt : Instance}
    (created : (ordered answer request selected s).reply = .ok receipt)
    (settled : (settling answer site request receipt.cid
      (ordered answer request selected s).after).result = .ok ()) :
    ∃ later, ((run site request selected).trace answer s).exchanges =
      marked answer s :: ordered answer request selected s ::
        ((settling answer site request receipt.cid
            (ordered answer request selected s).after).exchanges ++
          refetched answer site request receipt.cid (ordered answer request selected s).after ::
            later) := by
  obtain ⟨later, up⟩ := broughtUp_exchanges settled
  rw [trace_run, created]
  exact ⟨later, congrArg (marked answer s :: ordered answer request selected s :: ·) up⟩

/-- Every step of provisioning is completed, and the report on the instance once it was settled is
    `i`. -/
def Completed (answer : Answering (Timed Services) σ) (site : Site) (request : Request)
    (selected : Networks) (s : σ) (i : Instance) : Prop :=
  ∃ receipt, (ordered answer request selected s).reply = .ok receipt ∧
    BroughtUp answer site request selected receipt.cid (ordered answer request selected s).after i

/-- **Provisioning ends well if and only if every step is completed.** -/
theorem run_eq_ok {i : Instance} :
    ((run site request selected).trace answer s).result = .ok i ↔
      Completed answer site request selected s i := by
  unfold Completed
  rw [trace_run]
  cases (ordered answer request selected s).reply with
  | ok receipt =>
    refine broughtUp_eq_ok.trans ⟨fun up => ⟨receipt, rfl, up⟩, ?_⟩
    rintro ⟨_, same, up⟩
    cases same
    exact up
  | error f =>
    refine ⟨fun h => (nomatch h), ?_⟩
    rintro ⟨_, same, -⟩
    cases same

end Provision

end InstancePool
