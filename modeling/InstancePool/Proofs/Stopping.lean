import InstancePool.Proofs.Building
import InstancePool.Proofs.Halting

/-!
# Where a workflow stops

Reclaiming and bringing up an instance go on until they are halted. This is proved once, by the parts of
the workflows, for all that is done to an instance. What they object to themselves is that the instance
has no address, that the message bus is malformed, or that the login is not allowed.

* `Objection`: what is wrong with what an allocation was given;
* `pollFrom_halts`, `settle_halts`, `resolveEndpoints_halts`, `applyCredential_halts`: the parts;
* `reclaim_halts`, `bringUp_halts`: the workflows;
* `Program.Halts.origin`: where the fault of a run comes from.
-/

namespace InstancePool

open Program

/-! ## 1. Objections -/

theorem Networks.select_error {networks : Dict String Network.Definition} {f : Fault}
    (refused : Networks.select networks = .error f) : f.Own := by
  unfold Networks.select at refused
  split at refused
  · cases refused
    exact .virtualNetwork _
  · split at refused
    · cases refused
    · cases refused
      exact .dynamicNetworks _

theorem forAddress_error {options : Agent.Options} {ip : Address} {f : Fault}
    (failed : Agent.Endpoints.forAddress options ip = .error f) : f.Own := by
  unfold Agent.Endpoints.forAddress at failed
  split at failed
  · unfold Url.replaceHost at failed
    split at failed
    · cases failed
    · cases failed
      exact .malformedUrl options.mbus
  · cases failed

theorem validate_error {credential : Credential} {f : Fault}
    (failed : credential.validate = .error f) : f.Own := by
  unfold Credential.validate at failed
  split at failed
  · cases failed
    exact .emptyUsername
  · split at failed
    · cases failed
      exact .shortPassword credential.username
    · cases failed

namespace Heard

/-- The instance that is reported. -/
def report? : Heard → Option Instance
  | ⟨.other (.call (.cloud (.getInstance _))), .ok i⟩ => some i
  | ⟨.other (.call (.cloud (.instanceByPrivateIp _))), .ok i⟩ => some i
  | ⟨.other (.call (.cloud (.instanceByPublicIp _))), .ok i⟩ => some i
  | _ => none

/-- An instance is reported. -/
def Reports (i : Instance) (h : Heard) : Prop := h.report? = some i

/-- The settings of an agent have been pushed. -/
def Configures (h : Heard) : Prop :=
  ∃ cid settings, h = ⟨(Cloud.Call.pushSettings cid settings).query, .ok ()⟩

end Heard

/-- What is wrong with what an allocation was given: its networks before anything is asked, the address
    of the instance that was reported to it, the message bus at that address, or the login once the agent
    is configured. -/
inductive Objection (site : Site) (request : Request) : List Heard → Fault → Prop where
  | networks {f : Fault} (refused : Networks.select request.networks = .error f) :
      Objection site request [] f
  | unaddressed {heard : List Heard} {i : Instance} (reported : ∃ h ∈ heard, h.Reports i)
      (bare : request.externalIp.or i.address? = none) :
      Objection site request heard (.cloud s!"instance {i.cid} has no IP address")
  | bus {heard : List Heard} {i : Instance} {ip : Address} {f : Fault}
      (reported : ∃ h ∈ heard, h.Reports i) (address : request.externalIp.or i.address? = some ip)
      (unusable : Agent.Endpoints.forAddress site.agent ip = .error f) : Objection site request heard f
  | login {heard : List Heard} {credential : Credential} {f : Fault}
      (pushed : ∃ h ∈ heard, h.Configures) (configured : site.agent.credential = some credential)
      (disallowed : credential.validate = .error f) : Objection site request heard f

theorem Objection.own {site : Site} {request : Request} {heard : List Heard} {f : Fault}
    (objection : Objection site request heard f) : f.Own := by
  cases objection with
  | networks refused => exact Networks.select_error refused
  | @unaddressed _ i reported bare => exact .noAddress i.cid
  | bus reported address unusable => exact forAddress_error unusable
  | login pushed configured disallowed => exact validate_error disallowed

/-! ## 2. Waits -/

section Parts

variable {objects : List Heard → Fault → Prop} {known : List (Heard → Prop)} {cid : UInt64}

theorem pollFrom_resumes {poll : Workflow Bool} (hp : poll.Halts objects known) (interval : Duration)
    (condition : Condition) (started deadline earliest : Duration) (idle : Nat) :
    (Wait.pollFrom interval cid condition.text started deadline poll earliest idle).Resumes objects known := by
  unfold Wait.pollFrom
  refine resumes_ask fun stopped => ?_
  cases stopped with
  | true => exact .decided rfl rfl (.cancelled cid condition)
  | false =>
    refine .on rfl (fun _ => nofun) (hp.inContext.bind fun answer => ?_)
    cases answer with
    | true => exact halts_done
    | false =>
      -- After the clock is read, either the time is up, or a pause follows.
      refine Resumes.halts (resumes_ask fun now => ?_)
      rw [done_bind]
      by_cases late : deadline ≤ max earliest now ∨ idle = 0
      · rw [if_pos late]
        exact .decided rfl rfl (.late now cid condition _)
      · rw [if_neg late]
        refine .resumed rfl (resumes_ask fun stopped => ?_)
        cases stopped with
        | true => exact .decided rfl rfl (.woken _ cid condition)
        | false => exact .on rfl (fun _ => nofun) (pollFrom_resumes hp _ _ _ _ _ _).halts
termination_by (deadline - earliest, idle)
decreasing_by exact Wait.pause_lt (Nat.le_max_left ..) ‹_›

/-- A ping that fails remotely is passed over. -/
theorem reachable_halts : (Condition.reachable cid).Halts objects known := by
  refine halts_attempt (fun _ _ => nofun) (fun _ => halts_done) (fun f remote => ?_) fun f other =>
    ⟨f, ?_, .refl f⟩
  · have remote : f.kind = .cloud := of_decide_eq_true remote
    dsimp only
    rw [if_pos remote]
    exact halts_done
  · have other : f.kind ≠ .cloud := of_decide_eq_false other
    dsimp only
    rw [if_neg other]

theorem probe_halts (condition : Condition) : (condition.probe cid).Halts objects known := by
  cases condition with
  | idle => exact (halts_call rfl).bind fun _ => halts_done
  | busy => exact (halts_call rfl).bind fun _ => halts_done
  | power target => exact (halts_call rfl).bind fun _ => halts_done
  | completed groups => exact (halts_call rfl).bind fun _ => halts_done
  | pingable => exact reachable_halts
  | notPingable => exact reachable_halts.bind fun _ => halts_done

theorem awaitWithin_halts (waits : Waits) (timeout : Duration) {condition : Condition}
    (named : condition ≠ .completed []) : (condition.awaitWithin waits timeout cid).Halts objects known := by
  unfold Condition.awaitWithin
  rw [if_neg named]
  exact Resumes.halts (resumes_ask fun _ =>
    .resumed rfl (pollFrom_resumes (probe_halts _) _ condition _ _ _ _))

theorem await_halts (waits : Waits) {condition : Condition} (named : condition ≠ .completed []) :
    (condition.await waits cid).Halts objects known :=
  awaitWithin_halts waits _ named

/-! ## 3. The disk and the agent -/

theorem order_halts (sizeGb : UInt64) : (Disk.order cid sizeGb).Halts objects known := by
  refine halts_attempt (fun _ _ => nofun) (fun _ => halts_done) (fun f notice => ?_) fun f other =>
    ⟨_, ?_, (Fault.Extends.refl f).inContext s!"ordering {sizeGb} GB ephemeral disk for instance {cid}"⟩
  · have notice : Disk.isPriceNotice f = true := notice
    dsimp only
    rw [if_pos notice]
    exact halts_done
  · have other : Disk.isPriceNotice f = false := other
    dsimp only
    rw [other]
    rfl

theorem finish_halts (waits : Waits) : (Disk.finish waits cid).Halts objects known := by
  refine (await_halts waits (by decide)).inContext.bind fun _ => ?_
  refine (await_halts waits (by decide)).inContext.bind fun _ => ?_
  refine (await_halts waits (by decide)).inContext.bind fun _ => ?_
  refine (await_halts waits (by decide)).inContext.bind fun _ => ?_
  refine Resumes.halts (resumes_ask fun reply => ?_)
  cases reply with
  | error f => exact .answered rfl rfl ((Fault.Extends.refl f).inContext _)
  | ok devices =>
    by_cases few : devices.length < Disk.devicesAfterUpgrade
    · exact .decided rfl (if_pos few) (.few cid devices few)
    · refine .on rfl (fun f decides => ?_) ?_
      · cases decides with
        | few _ _ less => exact few less
      · show (if devices.length < Disk.devicesAfterUpgrade then fail _ else done () : Workflow Unit).Halts _ _
        rw [if_neg few]
        exact halts_done

theorem attach_halts (waits : Waits) (sizeGb : UInt64) :
    (Disk.attach waits cid sizeGb).Halts objects known := by
  refine (await_halts waits (by decide)).inContext.bind fun _ => ?_
  refine (await_halts waits (by decide)).inContext.bind fun _ => ?_
  refine (order_halts sizeGb).bind fun placed => ?_
  cases placed with
  | true => exact finish_halts waits
  | false => exact halts_done

theorem settle_halts (waits : Waits) (diskSizeGb : Option UInt64) :
    (Agent.settle waits cid diskSizeGb).Halts objects known := by
  unfold Agent.settle
  split
  · exact (attach_halts waits _).inContext
  · exact (await_halts waits (by decide)).inContext

theorem configure_halts (options : Agent.Options) (i : Instance) (request : Request)
    (selected : Networks) (endpoints : Agent.Endpoints) :
    (Agent.configure options i request selected endpoints).Halts objects known :=
  (halts_call rfl).inContext.bind fun _ => halts_done

theorem configure_finds (options : Agent.Options) (i : Instance) (request : Request)
    (selected : Networks) (endpoints : Agent.Endpoints) :
    (Agent.configure options i request selected endpoints).Finds fun _ => Heard.Configures := by
  have push : (Workflow.cloud (.pushSettings i.cid (Agent.settings i request selected endpoints options))).Finds
      fun _ => Heard.Configures :=
    finds_ask fun _ _ told => by cases told; exact ⟨_, _, rfl⟩
  exact push.mapFault.bind_done fun _ _ => id

theorem reload_halts (waits : Waits) (stemcell : Stemcell) :
    (Reclaim.reload waits cid stemcell).Halts objects known :=
  (halts_call rfl).inContext.bind fun _ => (await_halts waits (by decide)).inContext.bind fun _ =>
    (awaitWithin_halts waits _ (by decide)).inContext

end Parts

/-! ## 4. Both ways to an instance -/

section Ways

variable {site : Site} {request : Request} {known : List (Heard → Prop)} {cid : UInt64}

theorem resolveEndpoints_halts {i : Instance} (reported : Heard.Reports i ∈ known) :
    (Agent.resolveEndpoints site.agent i request.externalIp).Halts (Objection site request) known := by
  have endpoints (ip : Address) (address : request.externalIp.or i.address? = some ip) :
      (ofExcept (Agent.Endpoints.forAddress site.agent ip) : Workflow Agent.Endpoints).Halts
        (Objection site request) known :=
    halts_ofExcept fun f heard knows unusable => .bus (knows _ reported) address unusable
  unfold Agent.resolveEndpoints Agent.resolveAddress
  cases outer : request.externalIp with
  | some ip => exact endpoints ip (by rw [outer]; rfl)
  | none =>
    cases own : i.address? with
    | some ip =>
      have address : request.externalIp.or i.address? = some ip := by
        rw [outer, own]
        rfl
      show ((((Workflow.recordAlias i.fqdn ip).inContext _).bind fun _ => done ip).bind fun ip =>
        ofExcept (Agent.Endpoints.forAddress site.agent ip)).Halts _ _
      rw [bind_assoc]
      exact (halts_call rfl).inContext.bind fun _ => endpoints ip address
    | none =>
      refine halts_object fun heard knows => .unaddressed (knows _ reported) ?_
      rw [outer, own]
      rfl

theorem applyCredential_halts (pushed : Heard.Configures ∈ known) :
    (Agent.applyCredential site.agent cid).Halts (Objection site request) known := by
  unfold Agent.applyCredential
  cases configured : site.agent.credential with
  | none => exact halts_done
  | some credential =>
    refine Halts.bind (halts_ofExcept fun f heard knows disallowed => ?_) fun _ => (halts_call rfl).inContext
    exact .login (knows _ pushed) configured disallowed

theorem locate_halts (target : Reclaim.Target) :
    (Reclaim.locate target).Halts (Objection site request) known := by
  cases target with
  | cid cid => exact (halts_call rfl).inContext
  | ip ip =>
    unfold Reclaim.locate
    dsimp only
    split
    · exact (halts_call rfl).inContext
    · exact (halts_call rfl).inContext

theorem locate_finds (target : Reclaim.Target) : (Reclaim.locate target).Finds Heard.Reports := by
  cases target with
  | cid cid => exact (finds_ask fun _ _ told => by cases told; rfl).mapFault
  | ip ip =>
    unfold Reclaim.locate
    dsimp only
    split
    · exact (finds_ask fun _ _ told => by cases told; rfl).mapFault
    · exact (finds_ask fun _ _ told => by cases told; rfl).mapFault

/-- **A reclaim goes on until it is halted.** -/
theorem reclaim_halts (site : Site) (target : Reclaim.Target) (request : Request) (selected : Networks) :
    (Reclaim.run site target request selected).Halts (Objection site request) known := by
  refine (locate_halts target).bind_found (locate_finds target) fun i => ?_
  refine (reload_halts site.waits _).bind fun _ => ?_
  refine (settle_halts site.waits _).bind fun _ => ?_
  refine (resolveEndpoints_halts List.mem_cons_self).bind fun endpoints => ?_
  refine (halts_call rfl).inContext.bind fun refreshed => ?_
  refine (configure_halts site.agent refreshed request selected endpoints).bind_found
    (configure_finds site.agent refreshed request selected endpoints) fun _ => ?_
  exact (applyCredential_halts List.mem_cons_self).bind fun _ => halts_done

/-- Once an instance was created, a fault only gains a frame. -/
theorem abandon_created {agentId : String} {steps : List Provision.Step}
    (created : Provision.created steps = true) (f : Fault) :
    ∃ frame, Provision.abandon agentId steps f = f.inContext frame := by
  unfold Provision.abandon
  rw [created]
  exact ⟨_, rfl⟩

/-- **Bringing an instance up goes on until it is halted.** -/
theorem bringUp_halts (site : Site) (request : Request) (selected : Networks) :
    (Provision.bringUp site request selected cid).Halts (Objection site request) known := by
  have report : (Workflow.cloud (.getInstance cid)).Finds Heard.Reports :=
    finds_ask fun _ _ told => by cases told; rfl
  refine ((settle_halts site.waits _).mapFault (abandon_created rfl)).bind fun _ => ?_
  refine Halts.bind_found ((halts_call rfl).inContext.mapFault (abandon_created rfl))
    report.mapFault.mapFault fun i => ?_
  refine ((resolveEndpoints_halts List.mem_cons_self).mapFault (abandon_created rfl)).bind fun endpoints => ?_
  refine ((configure_halts site.agent i request selected endpoints).mapFault
    (abandon_created rfl)).bind_found
      (configure_finds site.agent i request selected endpoints).mapFault fun _ => ?_
  exact ((applyCredential_halts List.mem_cons_self).mapFault (abandon_created rfl)).bind fun _ => halts_done

end Ways

/-! ## 5. The fault of a run -/

/-- **The fault of a run** is the workflow's own or what its last question was answered with, with
    more context. -/
theorem Program.Halts.origin {σ α : Type} {answer : Answering (Timed Services) σ} {p : Workflow α} {s : σ}
    {site : Site} {request : Request} (h : p.Halts (Objection site request) [])
    {g : Fault} (failed : (p.trace answer s).result = .error g) :
    ∃ f, g.Extends f ∧ (f.Own ∨ ∃ e, (p.trace answer s).exchanges.getLast? = some e ∧
      faultOf? e.query e.reply = some f) := by
  obtain ⟨f, more, halt⟩ := h.fault failed
  refine ⟨f, more, ?_⟩
  cases halt with
  | @answered before last split calm halts =>
    have ends : ((p.trace answer s).exchanges.map Exchange.heard).getLast? = some last := by
      rw [split, List.getLast?_concat]
    rw [List.getLast?_map] at ends
    obtain ⟨e, final, rfl⟩ := Option.map_eq_some_iff.mp ends
    exact .inr ⟨e, final, Heard.faultOf?_of_halt halts⟩
  | decided split calm decides => exact .inl decides.own
  | objected going objection => exact .inl objection.own

end InstancePool
