import InstancePool.Proofs.Discipline
import InstancePool.Reclaim

/-!
# Tending one instance

All that is done to an instance between its order or its reload and the end of the workflow asks about
that one instance: every wait, the order of the disk, the settings, the login. The registry is not
asked at all. This holds under every discipline that takes no notice of such questions, so it is
proved once, by the parts of the workflows:

* `Concerns`: the questions about one instance that leave its system alone, and those about time and
  host names; `Polls`, `Settles`: those of a wait, and of all that is done until it is settled;
* `Tends`: a discipline that is quiet about them at a stage, for some of the instances;
* `Reclaim.renew`: what is left of a reclaim once its instance is found;
* `stays_await`, `stays_attach`, `stays_settle`, `stays_configure`, `stays_reclaim` and the like: the
  workflows never leave such a stage. Reclaiming reloads an instance, which the stage has to allow.
-/

namespace InstancePool

open Program

/-! ## 1. Questions about one instance -/

/-- The instance that a call looks at or sets up. A reload or a reboot is not counted. -/
def Cloud.Call.tended? : Cloud.Call → Option UInt64
  | createInstance _ => none
  | getInstance cid => some cid
  | activeTransactions cid => some cid
  | lastTransaction cid => some cid
  | powerState cid => some cid
  | pingable cid => some cid
  | attachDisk cid _ => some cid
  | blockDevices cid => some cid
  | instanceByPrivateIp _ => none
  | instanceByPublicIp _ => none
  | reloadOs _ _ => none
  | pushSettings cid _ => some cid
  | setCredential cid _ => some cid
  | reboot _ => none

/-- The questions that look at an instance or set it up, and those about time and host names. -/
def Concerns (cid : UInt64) : (Timed Services).Query → Prop
  | .now => True
  | .cancelled => True
  | .nap _ => True
  | .other (.call (.cloud call)) => call.tended? = some cid
  | .other (.call (.hostAlias _ _)) => True
  | .other (.call (.registry _)) => False
  | .other .mark => False

/-- The questions of a wait: those about time, and polls of one instance. -/
def Polls (cid : UInt64) : (Timed Services).Query → Prop
  | .now => True
  | .cancelled => True
  | .nap _ => True
  | .other (.call (.cloud call)) => call.operation.isPoll = true ∧ call.tended? = some cid
  | .other (.call (.hostAlias _ _)) => False
  | .other (.call (.registry _)) => False
  | .other .mark => False

/-- The questions that are asked until an instance is settled: polls, the order of a disk, and the
    count of its disks. -/
inductive Settles (cid : UInt64) : (Timed Services).Query → Prop where
  | poll {q : (Timed Services).Query} (polls : Polls cid q) : Settles cid q
  | order (sizeGb : UInt64) : Settles cid (.other (.call (.cloud (.attachDisk cid sizeGb))))
  | count : Settles cid (.other (.call (.cloud (.blockDevices cid))))

/-- A wait asks about time, or one of four questions about its instance. -/
@[elab_as_elim]
theorem Polls.split {cid : UInt64} {motive : (q : (Timed Services).Query) → Polls cid q → Prop}
    (now : motive .now trivial) (cancelled : motive .cancelled trivial)
    (nap : ∀ span, motive (.nap span) trivial)
    (active : motive (.other (.call (.cloud (.activeTransactions cid)))) ⟨rfl, rfl⟩)
    (last : motive (.other (.call (.cloud (.lastTransaction cid)))) ⟨rfl, rfl⟩)
    (power : motive (.other (.call (.cloud (.powerState cid)))) ⟨rfl, rfl⟩)
    (ping : motive (.other (.call (.cloud (.pingable cid)))) ⟨rfl, rfl⟩)
    {q : (Timed Services).Query} (h : Polls cid q) : motive q h := by
  cases q with
  | now => exact now
  | cancelled => exact cancelled
  | nap span => exact nap span
  | other q =>
    cases q with
    | mark => exact h.elim
    | call c =>
      cases c with
      | registry call => exact h.elim
      | hostAlias hostname ip => exact h.elim
      | cloud call =>
        cases call with
        | activeTransactions other =>
          obtain rfl := Option.some.inj h.2
          exact active
        | lastTransaction other =>
          obtain rfl := Option.some.inj h.2
          exact last
        | powerState other =>
          obtain rfl := Option.some.inj h.2
          exact power
        | pingable other =>
          obtain rfl := Option.some.inj h.2
          exact ping
        | _ => cases h.1

theorem Polls.concerns {cid : UInt64} {q : (Timed Services).Query} (h : Polls cid q) :
    Concerns cid q := by
  cases h using Polls.split with
  | _ => trivial

theorem Settles.concerns {cid : UInt64} {q : (Timed Services).Query} (h : Settles cid q) :
    Concerns cid q := by
  cases h with
  | poll polls => exact polls.concerns
  | order sizeGb => exact rfl
  | count => exact rfl

/-- At this stage questions about one of these instances change nothing, and a report on one of them
    is again on one of them. -/
structure Tends (D : Discipline (Timed Services)) (s : D.Stage) (mine : UInt64 → Prop) : Prop where
  quiet : ∀ cid, mine cid → ∀ q, Concerns cid q → D.Quiet s q
  truthful : ∀ cid i, mine cid →
    D.credible (.other (.call (.cloud (.getInstance cid)))) (.ok i) → mine i.cid

variable {D : Discipline (Timed Services)} {s : D.Stage} {mine : UInt64 → Prop} {cid : UInt64}

/-- Where an instance may be tended, it may be settled. -/
theorem Tends.settles (h : Tends D s mine) (hm : mine cid) (q : (Timed Services).Query)
    (hq : Settles cid q) : D.Quiet s q :=
  h.quiet cid hm q hq.concerns

/-- A call that leads nowhere, with what its answer may be counted on for. -/
theorem stays_call {c : Call} (quiet : D.Quiet s (.other (.call c))) :
    (Workflow.call c).Stays D s fun a => D.credible (.other (.call c)) (.ok a) :=
  stays_ask quiet fun _ credible => stays_ofExcept fun _ e => e ▸ credible

/-- A call about an instance. -/
theorem stays_cloud (h : Tends D s mine) (hm : mine cid) {c : Cloud.Call}
    (hc : c.tended? = some cid) :
    (Workflow.cloud c).Stays D s fun a => D.credible (.other (.call (.cloud c))) (.ok a) :=
  stays_call (h.quiet cid hm _ hc)

theorem stays_recordAlias (h : Tends D s mine) (hm : mine cid) (hostname : String) (ip : Address) :
    (Workflow.recordAlias hostname ip).Stays D s fun _ => True :=
  (stays_call (c := .hostAlias hostname ip) (h.quiet cid hm _ trivial)).mono fun _ _ => trivial

/-! ## 2. Waits -/

section Waits

variable (quiet : ∀ q, Polls cid q → D.Quiet s q)

include quiet

/-- A poll of the instance. -/
theorem stays_poll {c : Cloud.Call} (poll : c.operation.isPoll = true) (hc : c.tended? = some cid) :
    (Workflow.cloud c).Stays D s fun a => D.credible (.other (.call (.cloud c))) (.ok a) :=
  stays_call (quiet _ ⟨poll, hc⟩)

/-- Polling again and again stays where one poll stays. -/
theorem stays_pollFrom {poll : Workflow Bool} (hp : poll.Stays D s fun _ => True)
    (interval : Duration) (condition : String) (started deadline earliest : Duration) (idle : Nat) :
    (Wait.pollFrom interval cid condition started deadline poll earliest idle).Stays D s
      fun _ => True := by
  unfold Wait.pollFrom
  refine stays_ask (quiet _ trivial) fun stopped _ => ?_
  cases stopped with
  | true => exact stays_fail
  | false =>
    refine hp.inContext.bind fun answer _ => ?_
    cases answer with
    | true => exact stays_done trivial
    | false =>
      refine stays_ask (quiet _ trivial) fun now _ => ?_
      refine stays_ite (fun _ => stays_fail) fun going => ?_
      refine stays_ask (quiet _ trivial) fun stopped _ => ?_
      cases stopped with
      | true => exact stays_fail
      | false => exact stays_pollFrom hp _ _ _ _ _ _
termination_by (deadline - earliest, idle)
decreasing_by exact Wait.pause_lt (Nat.le_max_left ..) ‹_›

theorem stays_await {poll : Workflow Bool} (hp : poll.Stays D s fun _ => True)
    (interval : Duration) (condition : String) (timeout : Duration) :
    (Wait.await interval cid condition timeout poll).Stays D s fun _ => True :=
  stays_ask (quiet _ trivial) fun _ _ => stays_pollFrom quiet hp _ _ _ _ _ _

theorem stays_reachable : (Condition.reachable cid).Stays D s fun _ => True := by
  refine (stays_poll quiet rfl rfl).attempt.bind fun answer _ => ?_
  cases answer with
  | ok _ => exact stays_done trivial
  | error fault =>
    exact stays_ite (fun _ => stays_done trivial) fun _ => stays_fail

theorem stays_probe (condition : Condition) : (condition.probe cid).Stays D s fun _ => True := by
  cases condition with
  | idle => exact (stays_poll quiet rfl rfl).bind fun _ _ => stays_done trivial
  | busy => exact (stays_poll quiet rfl rfl).bind fun _ _ => stays_done trivial
  | power target => exact (stays_poll quiet rfl rfl).bind fun _ _ => stays_done trivial
  | completed groups => exact (stays_poll quiet rfl rfl).bind fun _ _ => stays_done trivial
  | pingable => exact stays_reachable quiet
  | notPingable => exact (stays_reachable quiet).bind fun _ _ => stays_done trivial

theorem stays_awaitWithin (waits : Waits) (timeout : Duration) (condition : Condition) :
    (condition.awaitWithin waits timeout cid).Stays D s fun _ => True := by
  unfold Condition.awaitWithin
  exact stays_ite (fun _ => stays_fail) fun _ =>
    stays_await quiet (stays_probe quiet condition) _ _ _

/-- The wait for a disk that was ordered, and the count of the disks at its end. -/
theorem stays_finish (count : D.Quiet s (.other (.call (.cloud (.blockDevices cid)))))
    (waits : Waits) : (Disk.finish waits cid).Stays D s fun _ => True := by
  refine (stays_awaitWithin quiet waits _ _).inContext.bind fun _ _ => ?_
  refine (stays_awaitWithin quiet waits _ _).inContext.bind fun _ _ => ?_
  refine (stays_awaitWithin quiet waits _ _).inContext.bind fun _ _ => ?_
  refine (stays_awaitWithin quiet waits _ _).inContext.bind fun _ _ => ?_
  refine (stays_call count).inContext.bind fun devices _ => ?_
  exact stays_ite (fun _ => stays_fail) fun _ => stays_done trivial

end Waits

/-! ## 3. The disk and the agent -/

section Settling

variable (quiet : ∀ q, Settles cid q → D.Quiet s q)

include quiet

theorem stays_order (sizeGb : UInt64) : (Disk.order cid sizeGb).Stays D s fun _ => True := by
  refine (stays_call (c := .cloud (.attachDisk cid sizeGb)) (quiet _ (.order sizeGb))).attempt.bind
    fun answer _ => ?_
  cases answer with
  | ok _ => exact stays_done trivial
  | error fault =>
    exact stays_ite (fun _ => stays_done trivial) fun _ => stays_fail

theorem stays_attach (waits : Waits) (sizeGb : UInt64) :
    (Disk.attach waits cid sizeGb).Stays D s fun _ => True := by
  have polls : ∀ q, Polls cid q → D.Quiet s q := fun q hq => quiet q (.poll hq)
  refine (stays_awaitWithin polls waits _ _).inContext.bind fun _ _ => ?_
  refine (stays_awaitWithin polls waits _ _).inContext.bind fun _ _ => ?_
  refine (stays_order quiet sizeGb).bind fun placed _ => ?_
  cases placed with
  | true => exact stays_finish polls (quiet _ .count) waits
  | false => exact stays_done trivial

theorem stays_settle (waits : Waits) (diskSizeGb : Option UInt64) :
    (Agent.settle waits cid diskSizeGb).Stays D s fun _ => True := by
  unfold Agent.settle
  split
  · exact (stays_attach quiet waits _).inContext
  · exact (stays_awaitWithin (fun q hq => quiet q (.poll hq)) waits _ _).inContext

end Settling

theorem stays_resolveEndpoints (h : Tends D s mine) {i : Instance} (hm : mine i.cid)
    (options : Agent.Options) (externalIp : Option Address) :
    (Agent.resolveEndpoints options i externalIp).Stays D s fun _ => True := by
  have address : (Agent.resolveAddress i externalIp).Stays D s fun _ => True := by
    unfold Agent.resolveAddress
    split
    · exact stays_done trivial
    · exact (stays_recordAlias h hm _ _).inContext.bind fun _ _ => stays_done trivial
    · exact stays_fail
  exact address.bind fun _ _ => stays_ofExcept fun _ _ => trivial

theorem stays_configure (h : Tends D s mine) {i : Instance} (hm : mine i.cid)
    (options : Agent.Options) (request : Request) (selected : Networks)
    (endpoints : Agent.Endpoints) :
    (Agent.configure options i request selected endpoints).Stays D s fun _ => True :=
  (stays_cloud h hm rfl).inContext.bind fun _ _ => stays_done trivial

theorem stays_applyCredential (h : Tends D s mine) (hm : mine cid) (options : Agent.Options) :
    (Agent.applyCredential options cid).Stays D s fun _ => True := by
  unfold Agent.applyCredential
  split
  · exact stays_done trivial
  · rename_i credential _
    have allowed : (ofExcept credential.validate : Workflow Unit).Stays D s fun _ => True :=
      stays_ofExcept fun _ _ => trivial
    exact allowed.bind fun _ _ => ((stays_cloud h hm rfl).mono fun _ _ => trivial).inContext

/-- A report on the instance as it is now. -/
theorem stays_getInstance (h : Tends D s mine) (hm : mine cid) :
    (Workflow.cloud (.getInstance cid)).Stays D s fun i => mine i.cid :=
  (stays_cloud h hm rfl).mono fun i credible => h.truthful cid i hm credible

/-! ## 4. Reclaiming -/

namespace Reclaim

/-- What is left of a reclaim once its instance is found. -/
def renew (site : Site) (request : Request) (selected : Networks) (found : Instance) :
    Workflow Instance := do
  let cid := found.cid
  reload site.waits cid request.stemcell
  Agent.settle site.waits cid request.shape.ephemeralDiskSizeGb
  let endpoints ← Agent.resolveEndpoints site.agent found request.externalIp
  let refreshed ← (Workflow.cloud (.getInstance cid)).inContext
    s!"refreshing instance {cid} after os reload"
  let _ ← Agent.configure site.agent refreshed request selected endpoints
  Agent.applyCredential site.agent cid
  return refreshed

theorem run_eq (site : Site) (target : Target) (request : Request) (selected : Networks) :
    run site target request selected = (locate target).bind (renew site request selected) := rfl

end Reclaim

theorem stays_reload (h : Tends D s mine) (hm : mine cid) (waits : Waits) {stemcell : Stemcell}
    (quiet : D.Quiet s (.other (.call (.cloud (.reloadOs cid stemcell))))) :
    (Reclaim.reload waits cid stemcell).Stays D s fun _ => True := by
  have polls : ∀ q, Polls cid q → D.Quiet s q := fun q hq => h.settles hm q (.poll hq)
  exact (stays_call quiet).inContext.bind fun _ _ =>
    (stays_awaitWithin polls waits _ _).inContext.bind fun _ _ =>
      (stays_awaitWithin polls waits _ _).inContext

/-- **Renewing stays with the instance that was found**, and answers a report on it. -/
theorem stays_renew (h : Tends D s mine) {found : Instance} (hm : mine found.cid) (site : Site)
    (request : Request) (selected : Networks)
    (quiet : D.Quiet s (.other (.call (.cloud (.reloadOs found.cid request.stemcell))))) :
    (Reclaim.renew site request selected found).Stays D s fun i => mine i.cid := by
  refine (stays_reload h hm site.waits quiet).bind fun _ _ => ?_
  refine (stays_settle (h.settles hm) site.waits _).bind fun _ _ => ?_
  refine (stays_resolveEndpoints h hm site.agent request.externalIp).bind fun endpoints _ => ?_
  refine (stays_getInstance h hm).inContext.bind fun refreshed hr => ?_
  refine (stays_configure h hr site.agent request selected endpoints).bind fun _ _ => ?_
  exact (stays_applyCredential h hm site.agent).bind fun _ _ => stays_done hr

/-- **Reclaiming stays with the instance it found**, and answers a report on it. -/
theorem stays_reclaim (h : Tends D s mine) (target : Reclaim.Target)
    (found : (Reclaim.locate target).Stays D s fun i => mine i.cid)
    (reloads : ∀ cid stemcell, mine cid →
      D.Quiet s (.other (.call (.cloud (.reloadOs cid stemcell)))))
    (site : Site) (request : Request) (selected : Networks) :
    (Reclaim.run site target request selected).Stays D s fun i => mine i.cid := by
  rw [Reclaim.run_eq]
  exact found.bind fun i hm => stays_renew h hm site request selected (reloads i.cid _ hm)

end InstancePool
