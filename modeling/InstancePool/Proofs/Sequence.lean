import InstancePool.Allocation
import InstancePool.Proofs.Building

/-!
# One change after another

Only few calls change an instance, and an allocation makes each of them at most once: it orders the
instance or reinstalls it, adds a disk, records its host name, pushes the settings and sets the login, in
this order, and goes on only after a change that succeeded. All of them are about the one instance that
was ordered or looked up.

* `Operation.turn?`, `succeeded`: the changes in their order, and when one counts as made;
* `orderly`: the discipline, in which the stage says which change is due;
* `Advances`: the parts of a workflow by the turns they take;
* `allocation_orderly`: every allocation obeys the discipline.
-/

namespace InstancePool

open Program

/-! ## 1. Changes in turn -/

/-- The turn in which an operation changes an instance, if it does. Ordering it and reinstalling it take
    the same turn. -/
def Operation.turn? : Operation → Option Nat
  | createInstance | reloadOs => some 0
  | attachDisk => some 1
  | recordAlias => some 2
  | pushSettings => some 3
  | setCredential => some 4
  | _ => none

/-- The turn after the last change. -/
def Operation.turns : Nat := 5

/-- The turn in which a question changes an instance, if it does. -/
def turn? (q : (Timed Services).Query) : Option Nat := (callOf? q).bind fun c => c.operation.turn?

/-- The instance that was ordered or looked up, if a reply tells of one. -/
def met? : (q : (Timed Services).Query) → (Timed Services).Reply q → Option UInt64
  | .other (.call (.cloud (.createInstance _))), .ok i => some i.cid
  | .other (.call (.cloud (.getInstance _))), .ok i => some i.cid
  | .other (.call (.cloud (.instanceByPrivateIp _))), .ok i => some i.cid
  | .other (.call (.cloud (.instanceByPublicIp _))), .ok i => some i.cid
  | _, _ => none

/-- Whether a call succeeded. An order for a disk that is answered by the notice of a price did. -/
def succeeded (q : (Timed Services).Query) (reply : (Timed Services).Reply q) : Bool :=
  match faultOf? q reply with
  | none => true
  | some f => (callOf? q).any (·.operation = .attachDisk) && Disk.isPriceNotice f

/-! ## 2. The discipline -/

namespace Orderly

/-- How far a workflow is with an instance. -/
inductive Stage where
  /-- There is no instance yet. -/
  | looking
  /-- The workflow deals with this instance, whether it was ordered or looked up by now, and changes of
      this turn and later ones are left. -/
  | about (cid : UInt64) (met : Bool) (turn : Nat)
  /-- The order or the search failed. -/
  | over

/-- What may be asked at a stage. -/
inductive May : Stage → (Timed Services).Query → Prop where
  | search (filter : Pool.Filter) : May .looking (Registry.Call.findEntries filter).query
  | claim (cid : UInt64) (expected : Option Pool.State) (next : Pool.State) :
      May .looking (Registry.Call.updateState cid expected next).query
  | mark : May .looking (.other .mark)
  | order (template : Template) : May .looking (Cloud.Call.createInstance template).query
  | byPrivateIp (ip : Address) : May .looking (Cloud.Call.instanceByPrivateIp ip).query
  | byPublicIp (ip : Address) : May .looking (Cloud.Call.instanceByPublicIp ip).query
  | look {cid : UInt64} {met : Bool} {turn : Nat} {q : (Timed Services).Query}
      (concerns : Concerns cid q) (still : turn? q = none) : May (.about cid met turn) q
  | change {cid : UInt64} {turn t : Nat} {q : (Timed Services).Query} (concerns : Concerns cid q)
      (turns : turn? q = some t) (due : turn ≤ t) : May (.about cid true turn) q
  | reload (cid : UInt64) (stemcell : Stemcell) :
      May (.about cid true 0) (Cloud.Call.reloadOs cid stemcell).query
  | settle (cid : UInt64) (met : Bool) (turn : Nat) (expected : Option Pool.State)
      (next : Pool.State) : May (.about cid met turn) (Registry.Call.updateState cid expected next).query
  | enter (met : Bool) (turn : Nat) (entry : Pool.Entry) :
      May (.about entry.cid met turn) (Registry.Call.addEntry entry).query

/-- The stage after a look for an instance. -/
def found : (q : (Timed Services).Query) → (Timed Services).Reply q → Stage
  | .other (.call (.registry (.updateState cid _ _))), .ok _ => .about cid false 0
  | .other (.call (.cloud (.createInstance _))), .ok i => .about i.cid true 1
  | .other (.call (.cloud (.instanceByPrivateIp _))), .ok i => .about i.cid true 0
  | .other (.call (.cloud (.instanceByPublicIp _))), .ok i => .about i.cid true 0
  | .other (.call _), .error _ => .over
  | _, _ => .looking

/-- The stage after a question was answered. -/
def next (s : Stage) (q : (Timed Services).Query) (reply : (Timed Services).Reply q) : Stage :=
  match s with
  | .looking => found q reply
  | .about cid met turn =>
    match turn? q with
    | some t => .about cid met (if succeeded q reply then t + 1 else Operation.turns)
    | none => .about cid (met || (met? q reply).isSome) turn
  | .over => .over

/-- What may be counted on. -/
def Credible : (q : (Timed Services).Query) → (Timed Services).Reply q → Prop
  | .other (.call (.cloud (.getInstance cid))), .ok i => i.cid = cid
  | _, _ => True

end Orderly

/-- Changing one instance, step by step. A report is counted on to be on the instance that was asked
    about. -/
@[reducible] def orderly : Discipline (Timed Services) where
  Stage := Orderly.Stage
  may := Orderly.May
  credible := Orderly.Credible
  next := Orderly.next

open Orderly

theorem Operation.turn?_lt {op : Operation} {t : Nat} (h : op.turn? = some t) : t < turns := by
  cases op <;> cases h <;> decide

theorem turn?_lt {q : (Timed Services).Query} {t : Nat} (h : turn? q = some t) : t < Operation.turns := by
  obtain ⟨c, -, turns⟩ := Option.bind_eq_some_iff.mp h
  exact Operation.turn?_lt turns

/-! ## 3. Workflows -/

variable {α β : Type} {cid : UInt64} {p : Workflow α} {good : α → Prop} {start stop : Nat}

/-- A change takes its turn. -/
theorem next_change {met : Bool} {turn t : Nat} {q : (Timed Services).Query}
    {reply : (Timed Services).Reply q} (turns : turn? q = some t) :
    orderly.next (.about cid met turn) q reply =
      .about cid met (if succeeded q reply then t + 1 else Operation.turns) := by
  unfold orderly Orderly.next
  dsimp only
  rw [turns]

theorem next_still {met : Bool} {turn : Nat} {q : (Timed Services).Query}
    {reply : (Timed Services).Reply q} (still : turn? q = none) :
    orderly.next (.about cid met turn) q reply = .about cid (met || (met? q reply).isSome) turn := by
  unfold orderly Orderly.next
  dsimp only
  rw [still]

/-- Looking at an instance that is known already leads nowhere. -/
theorem quiet_orderly {turn : Nat} {q : (Timed Services).Query} (concerns : Concerns cid q)
    (still : turn? q = none) : orderly.Quiet (.about cid true turn) q :=
  ⟨.look concerns still, fun _ => next_still still⟩

theorem Polls.still {q : (Timed Services).Query} (h : Polls cid q) : turn? q = none := by
  cases h using Polls.split with
  | _ => rfl

/-- A wait changes nothing. -/
theorem quiet_polls {turn : Nat} (q : (Timed Services).Query) (h : Polls cid q) :
    orderly.Quiet (.about cid true turn) q :=
  quiet_orderly h.concerns h.still

/-- A part of a workflow that makes changes of some turns, `stop` excluded, unless one of them fails. -/
def Advances (cid : UInt64) (start stop : Nat) (p : Workflow α) (good : α → Prop) : Prop :=
  ∀ turn ≤ start, p.Obeys orderly (.about cid true turn) fun r s =>
    match r with
    | .ok a => (∃ turn' ≤ stop, s = .about cid true turn') ∧ good a
    | .error _ => ∃ turn', s = .about cid true turn'

theorem advances_of_stays (h : ∀ turn, p.Stays orderly (.about cid true turn) good) (le : start ≤ stop) :
    Advances cid start stop p good := by
  intro turn due
  refine (h turn).obeys fun r good => ?_
  cases r with
  | ok a => exact ⟨⟨turn, Nat.le_trans due le, rfl⟩, good a rfl⟩
  | error f => exact ⟨turn, rfl⟩

theorem advances_done {a : α} (h : good a) (le : start ≤ stop) : Advances cid start stop (done a) good :=
  advances_of_stays (fun _ => stays_done h) le

theorem advances_fail {f : Fault} : Advances cid start stop (fail f : Workflow α) good :=
  fun turn _ => ⟨turn, rfl⟩

theorem advances_ofExcept {r : Except Fault α} (h : ∀ a, r = .ok a → good a) (le : start ≤ stop) :
    Advances cid start stop (ofExcept r) good :=
  advances_of_stays (fun _ => stays_ofExcept h) le

theorem Advances.bind {mid : Nat} {next : α → Workflow β} {good' : β → Prop}
    (first : Advances cid start mid p good)
    (rest : ∀ a, good a → Advances cid mid stop (next a) good') :
    Advances cid start stop (p.bind next) good' := by
  intro turn due
  refine Obeys.bind (first turn due) (fun a s h => ?_) fun f s h => h
  obtain ⟨⟨turn', due', rfl⟩, ha⟩ := h
  exact rest a ha turn' due'

theorem Advances.mapFault {change : Fault → Fault} (h : Advances cid start stop p good) :
    Advances cid start stop (p.mapFault change) good := by
  intro turn due
  refine obeys_mapFault.mpr ((h turn due).mono fun r s hr => ?_)
  cases r with
  | ok a => exact hr
  | error f => exact hr

theorem Advances.inContext {frame : String} (h : Advances cid start stop p good) :
    Advances cid start stop (p.inContext frame) good :=
  h.mapFault

theorem advances_iff : Advances cid start stop p good ↔ ∀ turn ≤ start,
    p.Obeys orderly (.about cid true turn) fun r s =>
      match r with
      | .ok a => (∃ turn' ≤ stop, s = .about cid true turn') ∧ good a
      | .error _ => ∃ turn', s = .about cid true turn' :=
  Iff.rfl

-- From here on a part of a workflow is taken apart by these lemmas, and never by running it in a goal.
attribute [irreducible] Advances

/-- A change, where it is due. -/
theorem advances_call {c : Call} {t : Nat} (concerns : Concerns cid (.other (.call c)))
    (turns : turn? (.other (.call c)) = some t) :
    Advances cid t (t + 1) (Workflow.call c) fun _ => True := by
  refine advances_iff.mpr fun turn due => ⟨.change concerns turns due, fun reply _ => ?_⟩
  rw [next_change turns]
  refine obeys_ofExcept.mpr ?_
  cases reply with
  | ok a => exact ⟨⟨t + 1, (Nat.le_refl _), rfl⟩, trivial⟩
  | error f => exact ⟨_, rfl⟩

/-- A wait makes no change. -/
theorem await_advances (waits : Waits) (timeout : Duration) (condition : Condition) {frame : String}
    (le : start ≤ stop) :
    Advances cid start stop ((condition.awaitWithin waits timeout cid).inContext frame) fun _ => True :=
  advances_of_stays (fun _ => (stays_awaitWithin quiet_polls waits timeout condition).inContext) le

theorem succeeded_attachDisk (sizeGb : UInt64) (f : Fault) :
    succeeded (Cloud.Call.attachDisk cid sizeGb).query (.error f) = Disk.isPriceNotice f := rfl

/-- The order of a disk, which counts as placed also after the notice of a price. -/
theorem order_advances (sizeGb : UInt64) : Advances cid 1 2 (Disk.order cid sizeGb) fun _ => True := by
  refine advances_iff.mpr fun turn due => ?_
  have turns : turn? (Cloud.Call.attachDisk cid sizeGb).query = some 1 := rfl
  refine obeys_bind.mpr (obeys_attempt.mpr ⟨.change (t := 1) rfl turns due, fun reply _ => ?_⟩)
  rw [next_change turns]
  refine obeys_ofExcept.mpr ?_
  cases reply with
  | ok order => exact ⟨⟨2, (Nat.le_refl _), rfl⟩, trivial⟩
  | error f =>
    dsimp only
    rw [succeeded_attachDisk]
    cases Disk.isPriceNotice f with
    | true => exact ⟨⟨2, (Nat.le_refl _), rfl⟩, trivial⟩
    | false => exact ⟨Operation.turns, rfl⟩

/-- Settling an instance makes at most the change of a disk. -/
theorem settle_advances (waits : Waits) (diskSizeGb : Option UInt64) :
    Advances cid 1 2 (Agent.settle waits cid diskSizeGb) fun _ => True := by
  unfold Agent.settle
  split
  · refine Advances.inContext ?_
    refine (await_advances waits _ _ (Nat.le_refl 1)).bind fun _ _ => ?_
    refine (await_advances waits _ _ (Nat.le_refl 1)).bind fun _ _ => ?_
    refine (order_advances _).bind fun placed _ => ?_
    cases placed with
    | true =>
      exact advances_of_stays (fun _ => stays_finish quiet_polls (quiet_orderly rfl rfl) waits) (Nat.le_refl _)
    | false => exact advances_done trivial (Nat.le_refl _)
  · exact await_advances waits _ _ (by decide)

theorem getInstance_advances {turn : Nat} (le : start ≤ turn) :
    Advances cid start turn (Workflow.cloud (.getInstance cid)) fun i => i.cid = cid :=
  advances_of_stays (fun _ => stays_call (quiet_orderly rfl rfl)) le

theorem resolveEndpoints_advances (options : Agent.Options) (i : Instance)
    (externalIp : Option Address) :
    Advances cid 2 3 (Agent.resolveEndpoints options i externalIp) fun _ => True := by
  have address : Advances cid 2 3 (Agent.resolveAddress i externalIp) fun _ => True := by
    unfold Agent.resolveAddress
    split
    · exact advances_done trivial (by decide)
    · exact (advances_call (c := .hostAlias _ _) trivial rfl).inContext.bind fun _ _ =>
        advances_done trivial (Nat.le_refl _)
    · exact advances_fail
  exact address.bind fun _ _ => advances_ofExcept (fun _ _ => trivial) (Nat.le_refl _)

theorem configure_advances (options : Agent.Options) {i : Instance} (hi : i.cid = cid)
    (request : Request) (selected : Networks) (endpoints : Agent.Endpoints) :
    Advances cid 3 4 (Agent.configure options i request selected endpoints) fun _ => True :=
  (advances_call (c := .cloud (.pushSettings _ _)) (congrArg some hi) rfl).inContext.bind fun _ _ =>
    advances_done trivial (Nat.le_refl _)

theorem applyCredential_advances (options : Agent.Options) :
    Advances cid 4 5 (Agent.applyCredential options cid) fun _ => True := by
  unfold Agent.applyCredential
  split
  · exact advances_done trivial (by decide)
  · rename_i credential _
    have allowed : Advances cid 4 4 (ofExcept credential.validate) fun _ => True :=
      advances_ofExcept (fun _ _ => trivial) (Nat.le_refl _)
    refine allowed.bind fun _ _ => ?_
    exact (advances_call (c := .cloud (.setCredential _ _)) rfl rfl).inContext

/-- Bringing up an instance that was ordered makes the changes after the first. -/
theorem bringUp_advances (site : Site) (request : Request) (selected : Networks) :
    Advances cid 1 5 (Provision.bringUp site request selected cid) fun i => i.cid = cid := by
  refine (settle_advances site.waits _).mapFault.bind fun _ _ => ?_
  refine (getInstance_advances (Nat.le_refl _)).inContext.mapFault.bind fun i hi => ?_
  refine (resolveEndpoints_advances site.agent i _).mapFault.bind fun endpoints _ => ?_
  refine (configure_advances site.agent hi request selected endpoints).mapFault.bind fun _ _ => ?_
  exact (applyCredential_advances site.agent).mapFault.bind fun _ _ => advances_done hi (Nat.le_refl _)

/-- The system of an instance is reinstalled first. -/
theorem reload_advances (waits : Waits) (stemcell : Stemcell) :
    Advances cid 0 1 (Reclaim.reload waits cid stemcell) fun _ => True := by
  have reloaded : Advances cid 0 1 (Workflow.cloud (.reloadOs cid stemcell)) fun _ => True := by
    refine advances_iff.mpr fun turn due => ?_
    obtain rfl := Nat.le_zero.mp due
    refine ⟨.reload cid stemcell, fun reply _ => ?_⟩
    rw [next_change (t := 0) rfl]
    refine obeys_ofExcept.mpr ?_
    cases reply with
    | ok a => exact ⟨⟨1, Nat.le_refl _, rfl⟩, trivial⟩
    | error f => exact ⟨_, rfl⟩
  refine reloaded.inContext.bind fun _ _ => ?_
  refine (await_advances waits _ _ (Nat.le_refl 1)).bind fun _ _ => ?_
  exact await_advances waits _ _ (Nat.le_refl 1)

/-- Renewing an instance that was found makes all the changes. -/
theorem renew_advances (site : Site) (request : Request) (selected : Networks) (i : Instance) :
    Advances i.cid 0 5 (Reclaim.renew site request selected i) fun j => j.cid = i.cid := by
  refine (reload_advances site.waits _).bind fun _ _ => ?_
  refine (settle_advances site.waits _).bind fun _ _ => ?_
  refine (resolveEndpoints_advances site.agent i _).bind fun endpoints _ => ?_
  refine (getInstance_advances (Nat.le_refl _)).inContext.bind fun refreshed hr => ?_
  refine (configure_advances site.agent hr request selected endpoints).bind fun _ _ => ?_
  exact (applyCredential_advances site.agent).bind fun _ _ => advances_done hr (Nat.le_refl _)

/-- A stage at which a workflow deals with an instance. -/
def Holding (cid : UInt64) (s : Stage) : Prop := ∃ met turn, s = .about cid met turn

theorem Advances.holding (h : Advances cid start stop p good) :
    p.Obeys orderly (.about cid true start) fun r s => Holding cid s ∧ ∀ a, r = .ok a → good a := by
  refine (advances_iff.mp h start (Nat.le_refl _)).mono fun r s hr => ?_
  cases r with
  | ok a =>
    obtain ⟨⟨turn, -, rfl⟩, ha⟩ := hr
    exact ⟨⟨true, turn, rfl⟩, fun _ same => Except.ok.inj same ▸ ha⟩
  | error f =>
    obtain ⟨turn, rfl⟩ := hr
    exact ⟨⟨true, turn, rfl⟩, fun _ same => nomatch same⟩

/-- Reclaiming the instance of an entry. -/
theorem reclaim_obeys (site : Site) (request : Request) (selected : Networks) :
    (Reclaim.run site (.cid cid) request selected).Obeys orderly (.about cid false 0) fun r s =>
      Holding cid s ∧ ∀ i, r = .ok i → i.cid = cid := by
  rw [Reclaim.run_eq]
  refine obeys_bind.mpr (obeys_mapFault.mpr ⟨.look rfl rfl, fun reply credible => ?_⟩)
  cases reply with
  | ok i =>
    have same : i.cid = cid := credible
    have renewed := (renew_advances site request selected i).holding
    rw [same] at renewed
    exact renewed
  | error f => exact ⟨⟨false, 0, rfl⟩, fun _ h => nomatch h⟩

/-- Reclaiming the instance at an address. -/
theorem reclaim_fixed_obeys (site : Site) (ip : Address) (request : Request) (selected : Networks) :
    (Reclaim.run site (.ip ip) request selected).Obeys orderly .looking fun _ _ => True := by
  rw [Reclaim.run_eq]
  unfold Reclaim.locate
  dsimp only
  split
  · refine obeys_bind.mpr (obeys_mapFault.mpr ⟨.byPrivateIp ip, fun reply _ => ?_⟩)
    cases reply with
    | ok i => exact (renew_advances site request selected i).holding.mono fun _ _ _ => trivial
    | error f => exact trivial
  · refine obeys_bind.mpr (obeys_mapFault.mpr ⟨.byPublicIp ip, fun reply _ => ?_⟩)
    cases reply with
    | ok i => exact (renew_advances site request selected i).holding.mono fun _ _ _ => trivial
    | error f => exact trivial

/-- The order of an instance. -/
theorem order_orderly (request : Request) (selected : Networks) (name : String) :
    (Provision.order request selected name).Obeys orderly .looking fun r s =>
      ∀ receipt, r = .ok receipt → s = .about receipt.cid true 1 := by
  refine obeys_mapFault.mpr (obeys_mapFault.mpr ⟨.order _, fun reply _ => ?_⟩)
  cases reply with
  | ok receipt => exact fun _ same => Except.ok.inj same ▸ rfl
  | error f => exact fun _ h => nomatch h

/-- Building an instance: it is known from its order on. -/
theorem build_orderly (site : Site) (request : Request) (selected : Networks) :
    (Provision.run site request selected).Obeys orderly .looking fun r s =>
      ∀ i, r = .ok i → Holding i.cid s := by
  rw [Provision.run_eq]
  refine ⟨.mark, fun mark _ => ?_⟩
  refine (order_orderly request selected _).bind (fun receipt s ordered => ?_) fun f s _ => ?_
  · rw [ordered receipt rfl]
    refine (bringUp_advances site request selected).holding.mono fun r s h i same => ?_
    rw [h.2 i same]
    exact h.1
  · exact fun _ h => nomatch h

/-- A change of the state of an entry is one question about its instance. -/
theorem transition_orderly {s : Stage} (holding : Holding cid s) (before after : Pool.State) :
    (Pool.transition cid before after).Obeys orderly s fun _ _ => True := by
  obtain ⟨met, turn, rfl⟩ := holding
  unfold Pool.transition
  split
  · refine obeys_mapFault.mpr ⟨.settle cid met turn _ _, fun reply _ => ?_⟩
    cases reply with
    | ok _ => exact trivial
    | error f => exact trivial
  · exact trivial

/-- Reusing an entry: all is about its instance from the claim on. -/
theorem reuse_orderly (site : Site) (request : Request) (selected : Networks) :
    (Allocation.reuse site cid request selected).Obeys orderly .looking fun _ _ => True := by
  have claim : (Pool.claim cid).Obeys orderly .looking fun r s =>
      ∀ a, r = .ok a → s = .about cid false 0 := by
    refine obeys_mapFault.mpr ⟨.claim cid _ _, fun reply _ => ?_⟩
    cases reply with
    | ok _ => exact fun _ _ => rfl
    | error f => exact fun _ h => nomatch h
  refine obeys_bind.mpr (obeys_mapFault.mpr (claim.mono fun r s claimed => ?_))
  cases r with
  | error f => exact trivial
  | ok a =>
    rw [claimed a rfl]
    refine (reclaim_obeys site request selected).attempt_bind fun result s h => ?_
    cases result with
    | ok i => exact obeys_bind.mpr ((transition_orderly h.1 _ _).mono fun r _ _ => by cases r <;> trivial)
    | error fault =>
      refine (transition_orderly h.1 _ _).attempt_bind fun r _ _ => ?_
      cases r with
      | ok _ => exact trivial
      | error compensation => exact trivial

/-- **Every allocation changes one instance, step by step**, whatever it is answered. -/
theorem allocation_orderly (site : Site) (request : Request) :
    (Allocation.run site request).Obeys orderly .looking fun _ _ => True := by
  refine obeys_bind.mpr (obeys_mapFault.mpr (obeys_ofExcept.mpr ?_))
  cases Networks.select request.networks with
  | error f => exact trivial
  | ok selected =>
    dsimp only [Except.mapError]
    cases selected.fixedIp with
    | some ip => exact obeys_mapFault.mpr (reclaim_fixed_obeys site ip request selected)
    | none =>
      refine obeys_bind.mpr (obeys_mapFault.mpr ⟨.search _, fun reply _ => ?_⟩)
      cases reply with
      | error f => exact trivial
      | ok candidates =>
        cases candidates with
        | cons entry rest => exact reuse_orderly site request selected
        | nil =>
          refine (build_orderly site request selected).bind (fun i s h => ?_) fun f s _ => trivial
          obtain ⟨met, turn, rfl⟩ := h i rfl
          refine obeys_bind.mpr (obeys_mapFault.mpr ⟨.enter met turn (.ofInstance i .using), ?_⟩)
          intro reply _
          cases reply with
          | ok _ => exact trivial
          | error f => exact trivial

end InstancePool
