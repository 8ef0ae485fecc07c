import InstancePool.Disk
import InstancePool.Proofs.Calls

/-!
# Workflows that are halted

A workflow goes on until it hears a fault that it does not pass over, or until it finds something wrong
itself: with the last thing it heard, or with what it was given. Either way the fault only gains context
on its way out. This file says what that means, and how it is shown of a workflow by its parts.

* `Fault.Own`: the faults that workflows make themselves; `Fault.Extends`: a fault with more context;
* `Heard`: a question as it was answered; `Heard.halt?`: the fault at which a workflow stops there;
  `Heard.Decides`: the faults that it makes of what it hears;
* `Halt`: where a workflow stopped, and why; `Going`: what was heard by one that did not;
* `Program.Halts`: a workflow that goes on until it is halted, and then ends with the fault of that;
* `Halts.bind`, `Halts.bind_found`, `halts_call`, `halts_attempt`: such workflows by their parts;
* `Program.Halts.fault`, `Program.Halts.ends`: what a run ends with.
-/

namespace InstancePool

open Program

/-! ## 1. Faults on their way -/

/-- The faults that workflows make themselves, about what they were given or what they were told. -/
inductive Fault.Own : Fault → Prop where
  | virtualNetwork (name : String) :
      Own (.notSupported s!"network '{name}': vip networks are not supported")
  | dynamicNetworks (count : Nat) :
      Own (.invalid s!"exactly one dynamic network is required, found {count}")
  | malformedUrl (url : String) : Own (.invalid s!"malformed URL '{url}'")
  | emptyUsername : Own (.new .credentialDisallowed "credential username must not be empty")
  | shortPassword (username : String) :
      Own (.new .credentialDisallowed
        s!"credential password for '{username}' must be at least {Credential.minPasswordLength} characters")
  | noGroups : Own (.invalid "last transaction wait needs at least one group")
  | timeout (cid : UInt64) (condition : String) (elapsed : Duration) :
      Own (.timeout cid condition elapsed)
  | cancelled (cid : UInt64) (condition : String) : Own (.cancelled cid condition)
  | noAddress (cid : UInt64) : Own (.cloud s!"instance {cid} has no IP address")
  | fewDevices (cid : UInt64) (count : Nat) :
      Own (.new .resourceExhausted
        s!"instance {cid} has {count} block devices after disk upgrade, expected at least {Disk.devicesAfterUpgrade}")

/-- A fault with more frames around it, and else as it was. -/
def Fault.Extends (g f : Fault) : Prop := ∃ frames, g = { f with context := f.context ++ frames }

theorem Fault.Extends.refl (f : Fault) : f.Extends f := ⟨[], by rw [List.append_nil]⟩

theorem Fault.Extends.inContext {g f : Fault} (h : g.Extends f) (frame : String) :
    (g.inContext frame).Extends f := by
  obtain ⟨frames, rfl⟩ := h
  exact ⟨frames ++ [frame], congrArg (fun c => ({ f with context := c } : Fault))
    (List.append_assoc ..)⟩

theorem Fault.Extends.canRetry {g f : Fault} (h : g.Extends f) : g.canRetry = f.canRetry := by
  obtain ⟨frames, rfl⟩ := h
  rfl

theorem Fault.Own.canRetry {f : Fault} (h : f.Own) : f.canRetry = false := by
  cases h <;> rfl

/-! ## 2. What is heard -/

/-- A question as it was answered. -/
structure Heard where
  query : (Timed Services).Query
  reply : (Timed Services).Reply query

/-- What is heard in an exchange. -/
def Exchange.heard {σ : Type} (e : Exchange (Timed Services) σ) : Heard := ⟨e.query, e.reply⟩

/-- Whether workflows go on after a fault of a call: after the notice of a price for a disk, and after a
    ping that fails remotely. -/
def Call.passesOver : Call → Fault → Bool
  | cloud (.attachDisk _ _), f => Disk.isPriceNotice f
  | cloud (.pingable _), f => f.kind = .cloud
  | _, _ => false

/-- Whether workflows stop at any fault of an operation, and go on after any other answer. -/
def Operation.strict : Operation → Bool
  | attachDisk | pingable | blockDevices => false
  | _ => true

theorem Call.passesOver_of_strict {c : Call} (strict : c.operation.strict = true) (f : Fault) :
    c.passesOver f = false := by
  cases c with
  | cloud c =>
    cases c with
    | attachDisk cid sizeGb => cases strict
    | pingable cid => cases strict
    | _ => rfl
  | _ => rfl

namespace Heard

/-- The fault at which a workflow stops when it hears this. -/
def halt? : Heard → Option Fault
  | ⟨.other (.call c), .error f⟩ => if c.passesOver f then none else some f
  | _ => none

/-- The faults that a workflow makes of what it hears: it learns that its time is up, that the caller
    has cancelled, or that the extra disk is missing. -/
inductive Decides : Heard → Fault → Prop where
  | late (now : Duration) (cid : UInt64) (condition : Condition) (elapsed : Duration) :
      Decides ⟨.now, now⟩ (.timeout cid condition.text elapsed)
  | cancelled (cid : UInt64) (condition : Condition) :
      Decides ⟨.cancelled, true⟩ (.cancelled cid condition.text)
  | woken (span : Duration) (cid : UInt64) (condition : Condition) :
      Decides ⟨.nap span, true⟩ (.cancelled cid condition.text)
  | few (cid : UInt64) (devices : List BlockDevice) (few : devices.length < Disk.devicesAfterUpgrade) :
      Decides ⟨(Cloud.Call.blockDevices cid).query, .ok devices⟩
        (.new .resourceExhausted
          s!"instance {cid} has {devices.length} block devices after disk upgrade, expected at least {Disk.devicesAfterUpgrade}")

theorem Decides.own {h : Heard} {f : Fault} (decides : h.Decides f) : f.Own := by
  cases decides with
  | late => exact .timeout _ _ _
  | cancelled => exact .cancelled _ _
  | woken => exact .cancelled _ _
  | few => exact .fewDevices _ _

theorem not_decides_of_strict {c : Call} {reply : c.Answer} (strict : c.operation.strict = true)
    (f : Fault) : ¬ Decides ⟨.other (.call c), reply⟩ f := by
  intro decides
  cases decides with
  | few => cases strict

theorem halt?_of_over {c : Call} {f : Fault} (passed : c.passesOver f = true) :
    halt? ⟨.other (.call c), .error f⟩ = none := by
  show (if c.passesOver f then none else some f) = none
  rw [if_pos passed]

theorem halt?_of_not_over {c : Call} {f : Fault} (kept : c.passesOver f = false) :
    halt? ⟨.other (.call c), .error f⟩ = some f := by
  show (if c.passesOver f then none else some f) = some f
  rw [kept]
  rfl

theorem halt?_of_ok {c : Call} {reply : c.Answer} {a : c.operation.Result} (ok : reply = .ok a) :
    halt? ⟨.other (.call c), reply⟩ = none := by
  subst ok
  rfl

theorem halt?_of_error {c : Call} {reply : c.Answer} {f : Fault} (strict : c.operation.strict = true)
    (failed : reply = .error f) : halt? ⟨.other (.call c), reply⟩ = some f := by
  subst failed
  exact halt?_of_not_over (c.passesOver_of_strict strict f)

theorem faultOf?_of_halt {h : Heard} {f : Fault} (halts : h.halt? = some f) :
    faultOf? h.query h.reply = some f := by
  obtain ⟨query, reply⟩ := h
  cases query with
  | other query =>
    cases query with
    | call c =>
      cases reply with
      | ok _ => cases halts
      | error g =>
        cases passes : c.passesOver g with
        | true => cases (halt?_of_over passes).symm.trans halts
        | false => exact (halt?_of_not_over passes).symm.trans halts
    | mark => cases halts
  | _ => cases halts

end Heard

/-! ## 3. Where a workflow stops -/

/-- What was heard by a workflow that goes on: nothing that halts it, and last nothing that it makes a
    fault of. -/
structure Going (heard : List Heard) : Prop where
  calm : ∀ h ∈ heard, h.halt? = none
  undecided : ∀ h ∈ heard.getLast?, ∀ f, ¬ h.Decides f

theorem going_nil : Going [] := ⟨List.forall_mem_nil _, fun _ last => nomatch last⟩

theorem going_concat {before : List Heard} {h : Heard} (calm : ∀ h ∈ before, h.halt? = none)
    (quiet : h.halt? = none) (undecided : ∀ f, ¬ h.Decides f) : Going (before ++ [h]) where
  calm := List.forall_mem_append.mpr ⟨calm, List.forall_mem_singleton.mpr quiet⟩
  undecided := by
    intro h' last
    rw [List.getLast?_concat] at last
    cases last
    exact undecided

/-- A workflow stopped at a fault: it was the last answer, or made of the last answer, or it is an
    objection to something else. The workflow went on after everything that it heard before. -/
inductive Halt (objects : List Heard → Fault → Prop) (heard : List Heard) (f : Fault) : Prop where
  | answered {before : List Heard} {last : Heard} (split : heard = before ++ [last])
      (calm : ∀ h ∈ before, h.halt? = none) (halts : last.halt? = some f)
  | decided {before : List Heard} {last : Heard} (split : heard = before ++ [last])
      (calm : ∀ h ∈ heard, h.halt? = none) (decides : last.Decides f)
  | objected (going : Going heard) (objection : objects heard f)

/-- Everything that is heard. -/
@[reducible] def hearing : Discipline (Timed Services) where
  Stage := List Heard
  may _ _ := True
  credible _ _ := True
  next heard q reply := heard ++ [⟨q, reply⟩]

/-- The end of a workflow, with what was heard before it and in all: it ends well where nothing halts
    it, and otherwise with the fault that does, with more context. -/
def Halted {α : Type} (objects : List Heard → Fault → Prop) (before : List Heard) :
    Except Fault α → List Heard → Prop
  | .ok _, heard => before <+: heard ∧ Going heard
  | .error g, heard => ∃ f, g.Extends f ∧ Halt objects heard f

theorem Halted.after {α : Type} {objects : List Heard → Fault → Prop} {before later heard : List Heard}
    {r : Except Fault α} (halted : Halted objects later r heard) (grown : before <+: later) :
    Halted objects before r heard := by
  cases r with
  | ok a => exact ⟨grown.trans halted.1, halted.2⟩
  | error g => exact halted

/-- Each of some facts is known from something that was heard. -/
def Knows (heard : List Heard) (known : List (Heard → Prop)) : Prop :=
  ∀ fact ∈ known, ∃ h ∈ heard, fact h

theorem Knows.grow {before heard : List Heard} {known : List (Heard → Prop)} (knows : Knows before known)
    (grown : before <+: heard) : Knows heard known := by
  intro fact needed
  obtain ⟨h, earlier, holds⟩ := knows fact needed
  exact ⟨h, grown.subset earlier, holds⟩

/-! ## 4. Workflows by their parts -/

namespace Program

variable {α β : Type} {p : Workflow α} {objects : List Heard → Fault → Prop}
  {known : List (Heard → Prop)}

/-- After whatever lets it go on and tells it what it needs to know, the workflow goes on until it is
    halted. -/
def Halts (p : Workflow α) (objects : List Heard → Fault → Prop) (known : List (Heard → Prop)) : Prop :=
  ∀ before : List Heard, Going before → Knows before known → p.Obeys hearing before (Halted objects before)

/-- And so it does even if it could have made a fault of the last thing that was heard. -/
def Resumes (p : Workflow α) (objects : List Heard → Fault → Prop) (known : List (Heard → Prop)) : Prop :=
  ∀ before : List Heard, (∀ h ∈ before, h.halt? = none) → Knows before known →
    p.Obeys hearing before (Halted objects before)

/-- What a workflow does once it has heard something: it goes on, or it ends there. -/
inductive HaltsAfter (p : Workflow α) (objects : List Heard → Fault → Prop) (known : List (Heard → Prop))
    (h : Heard) : Prop where
  | on (quiet : h.halt? = none) (undecided : ∀ f, ¬ h.Decides f) (rest : p.Halts objects known)
  | resumed (quiet : h.halt? = none) (rest : p.Resumes objects known)
  | answered {f g : Fault} (halts : h.halt? = some f) (fails : p = .fail g) (more : g.Extends f)
  | decided {f : Fault} (quiet : h.halt? = none) (fails : p = .fail f) (decides : h.Decides f)

theorem Resumes.halts (h : p.Resumes objects known) : p.Halts objects known :=
  fun before going knows => h before going.calm knows

theorem halts_done {a : α} : (done a : Workflow α).Halts objects known :=
  fun _ going _ => ⟨List.prefix_rfl, going⟩

theorem halts_object {f : Fault} (objection : ∀ heard, Knows heard known → objects heard f) :
    (fail f : Workflow α).Halts objects known :=
  fun before going knows => ⟨f, .refl f, .objected going (objection before knows)⟩

theorem halts_ofExcept {r : Except Fault α}
    (objection : ∀ f heard, Knows heard known → r = .error f → objects heard f) :
    (ofExcept r : Workflow α).Halts objects known := by
  cases r with
  | ok a => exact halts_done
  | error f => exact halts_object fun heard knows => objection f heard knows rfl

/-- A question begins anew: what was heard before it no longer matters, if it does not halt. -/
theorem resumes_ask {q : (Timed Services).Query} {k : (Timed Services).Reply q → Workflow α}
    (h : ∀ reply, (k reply).HaltsAfter objects known ⟨q, reply⟩) : (ask q k).Resumes objects known := by
  refine fun before calm knows => ⟨trivial, fun reply _ => ?_⟩
  have grown : before <+: before ++ [⟨q, reply⟩] := List.prefix_append ..
  have knows' : Knows (before ++ [⟨q, reply⟩]) known := knows.grow grown
  have calm' (quiet : Heard.halt? ⟨q, reply⟩ = none) : ∀ x ∈ before ++ [⟨q, reply⟩], x.halt? = none :=
    List.forall_mem_append.mpr ⟨calm, List.forall_mem_singleton.mpr quiet⟩
  cases h reply with
  | on quiet undecided rest =>
    exact (rest _ (going_concat calm quiet undecided) knows').mono fun _ _ halted => halted.after grown
  | resumed quiet rest => exact (rest _ (calm' quiet) knows').mono fun _ _ halted => halted.after grown
  | @answered f g halts fails more =>
    rw [fails]
    exact ⟨f, more, .answered rfl calm halts⟩
  | @decided f quiet fails decides =>
    rw [fails]
    exact ⟨f, .refl f, .decided rfl (calm' quiet) decides⟩

theorem Halts.bind {next : α → Workflow β} (hp : p.Halts objects known)
    (h : ∀ a, (next a).Halts objects known) : (p.bind next).Halts objects known := by
  intro before going knows
  refine Obeys.bind (hp before going knows) (fun a heard ⟨grown, going'⟩ => ?_) fun f heard halted => halted
  exact (h a heard going' (knows.grow grown)).mono fun _ _ halted => halted.after grown

theorem Halts.mapFault {change : Fault → Fault} (hp : p.Halts objects known)
    (framed : ∀ f, ∃ frame, change f = f.inContext frame) : (p.mapFault change).Halts objects known := by
  intro before going knows
  refine obeys_mapFault.mpr ((hp before going knows).mono fun r heard halted => ?_)
  cases r with
  | ok a => exact halted
  | error g =>
    obtain ⟨f, more, halt⟩ := halted
    obtain ⟨frame, framed⟩ := framed g
    exact ⟨f, framed ▸ more.inContext frame, halt⟩

theorem Halts.inContext {frame : String} (hp : p.Halts objects known) :
    (p.inContext frame).Halts objects known :=
  hp.mapFault fun _ => ⟨frame, rfl⟩

theorem halts_call {c : Call} (strict : c.operation.strict = true) :
    (Workflow.call c).Halts objects known := by
  refine Resumes.halts (resumes_ask fun reply => ?_)
  cases reply with
  | ok a => exact .on rfl (Heard.not_decides_of_strict strict) halts_done
  | error f => exact .answered (Heard.halt?_of_error strict rfl) rfl (.refl f)

/-- A call whose fault is looked at before it is passed on. -/
theorem halts_attempt {c : Call} {next : Except Fault c.operation.Result → Workflow β}
    (undecided : ∀ reply f, ¬ Heard.Decides ⟨.other (.call c), reply⟩ f)
    (ok : ∀ a, (next (.ok a)).Halts objects known)
    (passed : ∀ f, c.passesOver f = true → (next (.error f)).Halts objects known)
    (kept : ∀ f, c.passesOver f = false → ∃ g, next (.error f) = .fail g ∧ g.Extends f) :
    ((Workflow.call c).attempt.bind next).Halts objects known := by
  refine Resumes.halts (resumes_ask fun reply => ?_)
  cases reply with
  | ok a => exact .on rfl (undecided _) (ok a)
  | error f =>
    cases passes : c.passesOver f with
    | true => exact .on (Heard.halt?_of_over passes) (undecided _) (passed f passes)
    | false =>
      obtain ⟨g, fails, more⟩ := kept f passes
      exact .answered (Heard.halt?_of_not_over passes) fails more

/-- Where the workflow ends well, its value is known from something that was heard. -/
def Finds (p : Workflow α) (fact : α → Heard → Prop) : Prop :=
  ∀ before : List Heard, p.Obeys hearing before fun r heard => ∀ a, r = .ok a → ∃ h ∈ heard, fact a h

section Findings

variable {fact : α → Heard → Prop}

theorem finds_ask {q : (Timed Services).Query} {read : (Timed Services).Reply q → Except Fault α}
    (told : ∀ reply a, read reply = .ok a → fact a ⟨q, reply⟩) :
    (ask q fun reply => ofExcept (read reply)).Finds fact :=
  fun _ => ⟨trivial, fun reply _ => obeys_ofExcept.mpr fun a same =>
    ⟨_, List.mem_append_right _ (List.mem_singleton_self _), told reply a same⟩⟩

theorem Finds.mapFault {change : Fault → Fault} (h : p.Finds fact) : (p.mapFault change).Finds fact := by
  refine fun before => obeys_mapFault.mpr ((h before).mono fun r heard found a same => ?_)
  cases r with
  | ok b => exact found a same
  | error f => cases same

theorem Finds.bind_done {value : α → β} {fact' : β → Heard → Prop} (h : p.Finds fact)
    (same : ∀ a x, fact a x → fact' (value a) x) : (p.bind fun a => done (value a)).Finds fact' := by
  refine fun before => Obeys.bind (h before) (fun a heard found b told => ?_) fun f heard _ b told => ?_
  · cases told
    obtain ⟨x, earlier, holds⟩ := found a rfl
    exact ⟨x, earlier, same a x holds⟩
  · cases told

/-- What was found by the first part is known in the second. -/
theorem Halts.bind_found {next : α → Workflow β} (hp : p.Halts objects known) (found : p.Finds fact)
    (h : ∀ a, (next a).Halts objects (fact a :: known)) : (p.bind next).Halts objects known := by
  intro before going knows
  refine Obeys.bind ((hp before going knows).and (found before)) ?_ fun f heard ⟨halted, _⟩ => halted
  rintro a heard ⟨⟨grown, going'⟩, found⟩
  refine (h a heard going' ?_).mono fun _ _ halted => halted.after grown
  exact List.forall_mem_cons.mpr ⟨found a rfl, knows.grow grown⟩

end Findings

theorem halts_iff : p.Halts objects known ↔ ∀ before : List Heard, Going before → Knows before known →
    p.Obeys hearing before (Halted objects before) :=
  Iff.rfl

-- From here on a workflow is taken apart by these lemmas, and never by running it in a goal.
attribute [irreducible] Halts
attribute [irreducible] Resumes
attribute [irreducible] Finds

end Program

/-! ## 5. Runs -/

section Runs

variable {σ α : Type} {answer : Answering (Timed Services) σ} {p : Workflow α} {s : σ}
  {objects : List Heard → Fault → Prop} {known : List (Heard → Prop)} {before : List Heard}

theorem stageAfter_hearing {es : List (Exchange (Timed Services) σ)} :
    stageAfter hearing before es = before ++ es.map Exchange.heard := by
  induction es generalizing before with
  | nil => exact (List.append_nil before).symm
  | cons e later ih =>
    refine ih.trans ?_
    rw [List.append_assoc]
    rfl

/-- **How a run ends**, with what was heard before it and in it. -/
theorem Program.Halts.trace (h : p.Halts objects known) (going : Going before)
    (knows : Knows before known) :
    Halted objects before (p.trace answer s).result
      (before ++ (p.trace answer s).exchanges.map Exchange.heard) := by
  rw [← stageAfter_hearing]
  exact (halts_iff.mp h before going knows).trace fun _ _ => trivial

theorem Program.Halts.fault (h : p.Halts objects []) {g : Fault}
    (failed : (p.trace answer s).result = .error g) :
    ∃ f, g.Extends f ∧ Halt objects ((p.trace answer s).exchanges.map Exchange.heard) f := by
  have halted : Halted objects [] (p.trace answer s).result _ := h.trace going_nil (List.forall_mem_nil _)
  rw [failed] at halted
  exact halted

theorem Program.Halts.calm (h : p.Halts objects []) {a : α} (ok : (p.trace answer s).result = .ok a) :
    ∀ x ∈ (p.trace answer s).exchanges.map Exchange.heard, x.halt? = none := by
  have halted : Halted objects [] (p.trace answer s).result _ := h.trace going_nil (List.forall_mem_nil _)
  rw [ok] at halted
  exact halted.2.calm

/-- **A fault that halts is the end of a run**, which ends with it. -/
theorem Program.Halts.ends (h : p.Halts objects []) {e : Exchange (Timed Services) σ}
    (he : e ∈ (p.trace answer s).exchanges) {f : Fault} (halts : e.heard.halt? = some f) :
    ∃ g, (p.trace answer s).result = .error g ∧ g.Extends f := by
  have heard : e.heard ∈ (p.trace answer s).exchanges.map Exchange.heard := List.mem_map_of_mem he
  cases ended : (p.trace answer s).result with
  | ok a => cases (h.calm ended e.heard heard).symm.trans halts
  | error g =>
    obtain ⟨f', more, halt⟩ := h.fault ended
    cases halt with
    | @answered before last split calm halts' =>
      rw [split] at heard
      rcases List.mem_append.mp heard with earlier | now
      · cases (calm e.heard earlier).symm.trans halts
      · obtain rfl := List.mem_singleton.mp now
        cases halts.symm.trans halts'
        exact ⟨g, rfl, more⟩
    | decided split calm decides => cases (calm e.heard heard).symm.trans halts
    | objected going objection => cases (going.calm e.heard heard).symm.trans halts

end Runs

end InstancePool
