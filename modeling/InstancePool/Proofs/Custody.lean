import InstancePool.Proofs.Interleaving
import InstancePool.Proofs.Tending

/-!
# Custody

What a workflow may do to an instance depends on how it got hold of it. An allocation finds an entry
and claims it, or finds none and orders an instance; from then on it deals with this one instance, and
one more write of its own ends that. A release only asks and writes once.

* `Custody.Stage`, `Custody.May`: the stages of both workflows and what is asked at each;
* `custody`: the discipline. Two things are counted on: a report is on the instance that was asked
  about, and an instance that was ordered is `fresh`, whatever that means to the caller;
* `custody_workflow`: every task obeys it, and how it ends.
-/

namespace InstancePool

open Pool (Entry State)
open Simulation (RegistryDouble)

/-! ## 1. Stages -/

namespace Custody

/-- How far a workflow has got hold of an instance. -/
inductive Stage where
  | idle
  /-- An entry was found, and may be claimed. -/
  | chosen (cid : UInt64)
  /-- The claim was granted. -/
  | holding (cid : UInt64)
  /-- No entry was found. -/
  | ordering
  /-- The instance was ordered. -/
  | building (cid : UInt64)
  /-- The instance was entered as one in use. -/
  | committed (cid : UInt64)
  /-- The claim was answered by a fault. -/
  | denied (f : Fault)
  | closed
  /-- An instance is given back. -/
  | releasing
deriving DecidableEq

/-- What may be asked at a stage. -/
inductive May : Stage → (Timed Services).Query → Prop where
  | find (filter : Pool.Filter) : May .idle (.other (.call (.registry (.findEntries filter))))
  | claim (cid : UInt64) :
      May (.chosen cid) (.other (.call (.registry (.updateState cid (some .free) .provisioning))))
  | tend {cid : UInt64} {q : (Timed Services).Query} (concerns : Concerns cid q) :
      May (.holding cid) q
  | reload (cid : UInt64) (stemcell : Stemcell) :
      May (.holding cid) (.other (.call (.cloud (.reloadOs cid stemcell))))
  | settle (cid : UInt64) {next : State} (ends : next = .using ∨ next = .free) :
      May (.holding cid) (.other (.call (.registry (.updateState cid (some .provisioning) next))))
  | mark : May .ordering (.other .mark)
  | order (template : Template) : May .ordering (.other (.call (.cloud (.createInstance template))))
  | build {cid : UInt64} {q : (Timed Services).Query} (concerns : Concerns cid q) :
      May (.building cid) q
  | enter (entry : Entry) (used : entry.state = .using) :
      May (.building entry.cid) (.other (.call (.registry (.addEntry entry))))
  | look (cid : UInt64) : May .releasing (.other (.call (.registry (.getEntry cid))))
  | report (cid : UInt64) : May .releasing (.other (.call (.cloud (.getInstance cid))))
  | giveBack (cid : UInt64) {now : State} (taken : now ≠ .free) :
      May .releasing (.other (.call (.registry (.updateState cid (some now) .free))))
  | heal (entry : Entry) (free : entry.state = .free) :
      May .releasing (.other (.call (.registry (.addEntry entry))))

/-- Who calls the cloud about an instance: its holder or its builder, and who gives it back looks. -/
theorem May.cloud {s : Stage} {call : Cloud.Call} (h : May s (.other (.call (.cloud call)))) :
    (∃ cid, s = .holding cid ∧
      (call.tended? = some cid ∨ ∃ stemcell, call = .reloadOs cid stemcell)) ∨
    (s = .ordering ∧ ∃ template, call = .createInstance template) ∨
    (∃ cid, s = .building cid ∧ call.tended? = some cid) ∨
    (s = .releasing ∧ ∃ cid, call = .getInstance cid) := by
  cases h with
  | tend concerns => exact .inl ⟨_, rfl, .inl concerns⟩
  | reload cid stemcell => exact .inl ⟨cid, rfl, .inr ⟨stemcell, rfl⟩⟩
  | order template => exact .inr (.inl ⟨rfl, template, rfl⟩)
  | build concerns => exact .inr (.inr (.inl ⟨_, rfl, concerns⟩))
  | report cid => exact .inr (.inr (.inr ⟨rfl, cid, rfl⟩))

/-- The stage after a search of the pool. -/
def found : Except Fault (List Entry) → Stage
  | .ok [] => .ordering
  | .ok (entry :: _) => .chosen entry.cid
  | .error _ => .closed

/-- The stage after a claim. -/
def claimed (cid : UInt64) : Except Fault Unit → Stage
  | .ok _ => .holding cid
  | .error f => .denied f

/-- The stage after the end of a claim. -/
def settled (cid : UInt64) (next : State) : Except Fault Unit → Stage
  | .ok _ => if next = .using then .committed cid else .closed
  | .error _ => .closed

/-- The stage after an order. -/
def ordered : Except Fault Instance → Stage
  | .ok i => .building i.cid
  | .error _ => .closed

/-- The stage after a new instance was entered. -/
def entered (cid : UInt64) : Except Fault Unit → Stage
  | .ok _ => .committed cid
  | .error _ => .closed

/-- The stage after a call to the registry. -/
def afterRegistry : Stage → (call : Registry.Call) → call.Answer → Stage
  | .idle, .findEntries _, reply => found reply
  | .chosen cid, .updateState _ _ _, reply => claimed cid reply
  | .holding cid, .updateState _ _ next, reply => settled cid next reply
  | .building cid, .addEntry _, reply => entered cid reply
  | s, _, _ => s

/-- The stage after a call to the cloud. -/
def afterCloud : Stage → (call : Cloud.Call) → call.Answer → Stage
  | .ordering, .createInstance _, reply => ordered reply
  | s, _, _ => s

/-- The stage after a question was answered. -/
def next (s : Stage) : (q : (Timed Services).Query) → (Timed Services).Reply q → Stage
  | .other (.call (.registry call)), reply => afterRegistry s call reply
  | .other (.call (.cloud call)), reply => afterCloud s call reply
  | _, _ => s

/-- What may be counted on. -/
def Credible (fresh : UInt64 → Prop) :
    (q : (Timed Services).Query) → (Timed Services).Reply q → Prop
  | .other (.call (.cloud (.getInstance cid))), .ok i => i.cid = cid
  | .other (.call (.cloud (.createInstance _))), .ok i => fresh i.cid
  | _, _ => True

/-- Where a task begins. -/
def first : Task → Stage
  | .create _ _ => .idle
  | .release _ => .releasing

theorem first_cases (task : Task) : first task = .idle ∨ first task = .releasing := by
  cases task with
  | create site request => exact .inl rfl
  | release cid => exact .inr rfl

/-- How tasks end: an instance that is answered was entered as one in use, no claim is left behind,
    and a conflict about a claim is reported as one that may be tried again. -/
def Ends : Except Fault (Option Instance) → Stage → Prop
  | .ok (some i), s => s = .committed i.cid
  | .ok none, s => s = .releasing
  | .error g, s => (∀ cid, s ≠ .holding cid) ∧ ∀ f, s = .denied f →
      g.kind = f.kind ∧ g.canRetry = decide (f.kind = .poolConflict)

/-- Whether a workflow neither holds a claim nor was denied one. -/
def Stage.plain : Stage → Bool
  | .holding _ => false
  | .denied _ => false
  | _ => true

end Custody

/-- Dealing with one instance at a time, under a claim or from its order on. -/
@[reducible] def custody (fresh : UInt64 → Prop) : Discipline (Timed Services) where
  Stage := Custody.Stage
  may := Custody.May
  credible := Custody.Credible fresh
  next := Custody.next

open Custody

variable {fresh : UInt64 → Prop} {cid : UInt64}

/-! ## 2. Workflows -/

section Workflows

/-- Tending an instance leads from no stage to another. -/
theorem next_tended {s : Stage} {q : (Timed Services).Query} (hq : Concerns cid q)
    (reply : (Timed Services).Reply q) : Custody.next s q reply = s := by
  cases q with
  | other q =>
    cases q with
    | call c =>
      cases c with
      | registry call => exact hq.elim
      | cloud call =>
        cases call with
        | createInstance template => cases hq
        | _ => cases s <;> rfl
      | hostAlias hostname ip => rfl
    | mark => rfl
  | _ => rfl

/-- Under a claim, and from the order on, the instance may be tended. -/
theorem tends_custody {held : Stage} (allowed : ∀ q, Concerns cid q → May held q) :
    Tends (custody fresh) held (· = cid) where
  quiet _ hm q hq := by
    subst hm
    exact ⟨allowed q hq, next_tended hq⟩
  truthful _ _ hm credible := by
    subst hm
    exact credible

/-- A change of state is one question, whose fault gets a frame. -/
theorem transition_obeys {s : Stage} {post : Except Fault Unit → Stage → Prop} (cid : UInt64)
    {before after : State} (allowed : before.allows after = true)
    (may : May s (.other (.call (.registry (.updateState cid (some before) after)))))
    (ok : post (.ok ()) (afterRegistry s (.updateState cid (some before) after) (.ok ())))
    (fault : ∀ f frame, post (.error (f.inContext frame))
      (afterRegistry s (.updateState cid (some before) after) (.error f))) :
    (Pool.transition cid before after).Obeys (custody fresh) s post := by
  unfold Pool.transition
  rw [if_pos allowed]
  refine Program.obeys_mapFault.mpr ⟨may, fun reply _ => ?_⟩
  cases reply with
  | ok _ => exact ok
  | error f => exact fault f _

/-- At all other stages a workflow may fail for whatever reason. -/
theorem ends_plain {s : Stage} (plain : s.plain = true) (g : Fault) : Ends (.error g) s := by
  refine ⟨?_, ?_⟩
  · rintro cid rfl
    cases plain
  · rintro f rfl
    cases plain

theorem ends_denied {f g : Fault} (kind : g.kind = f.kind)
    (retry : g.canRetry = decide (f.kind = .poolConflict)) : Ends (.error g) (.denied f) := by
  refine ⟨fun _ h => (nomatch h), fun f' h => ?_⟩
  cases h
  exact ⟨kind, retry⟩

/-- **A claim** is granted, or its fault is passed on with advice on trying again. -/
theorem claim_obeys (cid : UInt64) :
    ((Pool.claim cid).mapFault fun fault => fault.retryable (fault.kind = .poolConflict)).Obeys
      (custody fresh) (.chosen cid) fun r s =>
        match r with
        | .ok _ => s = .holding cid
        | .error g => Ends (.error g) s :=
  Program.obeys_mapFault.mpr <|
    transition_obeys cid rfl (May.claim cid) rfl fun _ _ => ends_denied rfl rfl

/-- The end of a claim that led to an instance in use. -/
theorem markUsing_obeys {i : Instance} (hc : i.cid = cid) :
    ((Pool.markUsing cid).bind fun _ => .done i).Obeys (custody fresh) (.holding cid)
      fun r s => Ends (r.map some) s := by
  subst hc
  refine Program.obeys_bind.mpr ?_
  exact transition_obeys i.cid rfl (May.settle i.cid (.inl rfl)) rfl fun _ _ => ends_plain rfl _

/-- The end of a claim that led to nothing. -/
theorem rollback_obeys (cid : UInt64) :
    (Pool.rollback cid).Obeys (custody fresh) (.holding cid) fun _ s => s = Stage.closed :=
  transition_obeys cid rfl (May.settle cid (.inr rfl)) rfl fun _ _ => rfl

/-- **Reusing an entry**: a claim, the instance under it, and one write that ends it. -/
theorem reuse_obeys (site : Site) (cid : UInt64) (request : Request) (selected : Networks) :
    (Allocation.reuse site cid request selected).Obeys (custody fresh) (.chosen cid)
      fun r s => Ends (r.map some) s := by
  refine Program.Obeys.bind (claim_obeys cid) (fun _ s claimed => ?_) fun g s ends => ends
  subst claimed
  have tends : Tends (custody fresh) (.holding cid) (· = cid) :=
    tends_custody fun _ => May.tend
  have reloads : ∀ c stemcell, c = cid →
      (custody fresh).Quiet (.holding cid) (.other (.call (.cloud (.reloadOs c stemcell)))) := by
    rintro c stemcell rfl
    exact ⟨May.reload c stemcell, fun _ => rfl⟩
  have reclaimed := stays_reclaim tends (.cid cid)
    (stays_getInstance tends rfl).inContext reloads site request selected
  refine Program.Obeys.attempt_bind (Program.stays_iff.mp reclaimed) fun result s h => ?_
  obtain ⟨rfl, good⟩ := h
  cases result with
  | ok i => exact markUsing_obeys (good i rfl)
  | error fault =>
    refine (rollback_obeys cid).attempt_bind fun result s ended => ?_
    subst ended
    cases result with
    | ok _ => exact ends_plain rfl _
    | error compensation => exact ends_plain rfl _

/-- The order of an instance. -/
theorem order_obeys (template : Template) (frame : String) (change : Fault → Fault) :
    (((Workflow.cloud (.createInstance template)).inContext frame).mapFault change).Obeys
      (custody fresh) .ordering fun r s =>
        match r with
        | .ok i => s = .building i.cid
        | .error _ => s = .closed := by
  refine Program.obeys_mapFault.mpr (Program.obeys_mapFault.mpr ⟨May.order template, ?_⟩)
  intro reply _
  cases reply with
  | ok i => exact rfl
  | error f => exact rfl

/-- **Building an instance**: one is ordered, and from then on it is the one. -/
theorem build_obeys (site : Site) (request : Request) (selected : Networks) :
    (Provision.run site request selected).Obeys (custody fresh) .ordering fun r s =>
      match r with
      | .ok i => s = .building i.cid
      | .error g => Ends (.error g) s := by
  refine Program.obeys_bind.mpr ⟨May.mark, fun mark _ => ?_⟩
  refine Program.Obeys.bind (order_obeys _ _ _) (fun receipt s built => ?_) fun f s ended => ?_
  · subst built
    have tends : Tends (custody fresh) (.building receipt.cid) (· = receipt.cid) :=
      tends_custody fun _ => May.build
    refine Program.Stays.obeys (?_ : Program.Stays _ _ _ fun i : Instance => i.cid = receipt.cid)
      fun r good => ?_
    · refine (stays_settle (tends.settles rfl) site.waits _).mapFault.bind fun _ _ => ?_
      refine (stays_getInstance tends rfl).inContext.mapFault.bind fun i hi => ?_
      refine (stays_resolveEndpoints tends hi site.agent _).mapFault.bind fun endpoints _ => ?_
      refine (stays_configure tends hi site.agent _ _ endpoints).mapFault.bind fun _ _ => ?_
      exact (stays_applyCredential tends rfl site.agent).mapFault.bind fun _ _ =>
        Program.stays_done hi
    · cases r with
      | ok i => exact congrArg Stage.building (good i rfl).symm
      | error g => exact ends_plain rfl g
  · subst ended
    exact ends_plain rfl f

/-- Entering the new instance. -/
theorem provision_obeys (site : Site) (request : Request) (selected : Networks) :
    (Allocation.provision site request selected).Obeys (custody fresh) .ordering
      fun r s => Ends (r.map some) s := by
  refine (build_obeys site request selected).bind (fun i s built => ?_) fun g s ends => ends
  subst built
  have may := May.enter (.ofInstance i .using) rfl
  refine Program.obeys_bind.mpr (Program.obeys_mapFault.mpr ⟨may, fun reply _ => ?_⟩)
  cases reply with
  | ok _ => exact rfl
  | error f => exact ends_plain rfl _

/-- **An allocation** that leaves the choice to the pool. -/
theorem allocation_obeys {site : Site} {request : Request}
    (pooled : (Task.create site request).Pooled) :
    (Allocation.run site request).Obeys (custody fresh) .idle fun r s => Ends (r.map some) s := by
  refine Program.obeys_bind.mpr (Program.obeys_mapFault.mpr (Program.obeys_ofExcept.mpr ?_))
  cases chosen : Networks.select request.networks with
  | error f => exact ends_plain rfl _
  | ok selected =>
    dsimp only [Except.mapError]
    rw [pooled selected chosen]
    refine Program.obeys_bind.mpr (Program.obeys_mapFault.mpr ⟨May.find _, fun reply _ => ?_⟩)
    cases reply with
    | error f => exact ends_plain rfl _
    | ok candidates =>
      cases candidates with
      | nil => exact provision_obeys site request selected
      | cons entry _ => exact reuse_obeys site entry.cid request selected

theorem allows_free {now : State} (taken : now ≠ .free) : now.allows .free = true := by
  cases now with
  | free => exact absurd rfl taken
  | _ => rfl

/-- **A release** writes at most once. -/
theorem release_obeys (cid : UInt64) :
    (Upkeep.release cid).Obeys (custody fresh) .releasing fun _ s => s = Stage.releasing := by
  refine Program.obeys_bind.mpr (Program.obeys_mapFault.mpr ⟨May.look cid, fun reply _ => ?_⟩)
  match reply with
  | .error f => exact rfl
  | .ok none =>
    refine Program.obeys_bind.mpr (Program.obeys_mapFault.mpr ⟨May.report cid, fun reply _ => ?_⟩)
    match reply with
    | .error f => exact rfl
    | .ok i =>
      refine Program.obeys_mapFault.mpr ⟨May.heal _ rfl, fun reply _ => ?_⟩
      match reply with
      | .error f => exact rfl
      | .ok _ => exact rfl
  | .ok (some entry) =>
    refine Program.obeys_mapFault.mpr ?_
    show Program.Obeys _ (if entry.state = .free then _ else _) _ _
    split
    · exact rfl
    · rename_i taken
      exact transition_obeys entry.cid (allows_free taken) (May.giveBack entry.cid taken) rfl
        fun _ _ => rfl

/-- **Every task obeys the discipline**, from its own first stage. -/
theorem custody_workflow {task : Task} (pooled : task.Pooled) :
    task.workflow.Obeys (custody fresh) (first task) Ends := by
  cases task with
  | create site request =>
    refine Program.obeys_bind.mpr ((allocation_obeys pooled).mono fun r s h => ?_)
    cases r with
    | ok i => exact h
    | error g => exact h
  | release cid =>
    refine Program.obeys_bind.mpr ((release_obeys cid).mono fun r s h => ?_)
    subst h
    cases r with
    | ok _ => exact rfl
    | error g => exact ends_plain rfl g

end Workflows

end InstancePool
