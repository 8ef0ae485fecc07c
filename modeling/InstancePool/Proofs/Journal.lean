import InstancePool.Proofs.Footprint
import InstancePool.Proofs.Handover

/-!
# The journal of provisioning

When an instance cannot be provisioned, its fault says which steps were completed. What it says is what
was done: a step is listed if and only if the answers to its calls say so. And an instance that was
ordered is named by every fault that the allocation can end with afterwards.

* `Fault.Mentions`: a text occurs in the full text of a fault;
* `receipts`: the instances that were ordered in some exchanges; `Located`: whether an address was found
  for one, and its host name recorded;
* `Provision.Journal`: the steps that were completed in a run, as its exchanges tell them;
* `broughtUp_journal`, `build_journal`: where provisioning fails, and what is listed then;
* `journal_is_faithful`: both for an allocation.
-/

namespace InstancePool

open Program
open Provision (Step abandon describe ordered settling broughtUp)
open Simulation (RegistryDouble)

/-! ## 1. What a fault mentions -/

section Texts

variable {f : Fault} {part frame : String}

/-- A text occurs in the full text of a fault. -/
def Fault.Mentions (f : Fault) (part : String) : Prop := part.toList <:+: f.render.toList

theorem infix_text (before part after : String) : part.toList <:+: (before ++ part ++ after).toList := by
  rw [String.toList_append, String.toList_append]
  exact List.infix_append _ _ _

theorem infix_intercalate {item : List Char} {items : List (List Char)} (sep : List Char)
    (h : item ∈ items) : item <:+: sep.intercalate items := by
  refine List.infix_of_mem_flatten ?_
  induction items with
  | nil => cases h
  | cons first later ih =>
    cases later with
    | nil => exact h
    | cons second rest =>
      rw [List.intersperse_cons_cons]
      rcases List.mem_cons.mp h with rfl | h
      · exact List.mem_cons_self
      · exact List.mem_cons_of_mem _ (List.mem_cons_of_mem _ (ih h))

/-- Frames around a text keep it. -/
theorem infix_frames (frames : List String) (inner : String) :
    inner.toList <:+: (frames.foldl (fun inner frame => s!"{frame}: {inner}") inner).toList := by
  induction frames generalizing inner with
  | nil => exact List.infix_rfl
  | cons frame later ih =>
    refine List.IsInfix.trans ?_ (ih _)
    show inner.toList <:+: ((frame ++ ": ") ++ inner).toList
    rw [String.toList_append]
    exact (List.suffix_append _ _).isInfix

/-- A fault mentions each of its frames. -/
theorem Fault.mentions_frame (f : Fault) {frame : String} (h : frame ∈ f.context) : f.Mentions frame := by
  obtain ⟨inner, outer, split⟩ := List.append_of_mem h
  unfold Mentions render Report.render
  rw [split, List.foldl_append, List.foldl_cons]
  refine List.IsInfix.trans ?_ (infix_frames outer _)
  show frame.toList <:+: ((frame ++ ": ") ++ _).toList
  rw [String.toList_append, String.toList_append, List.append_assoc]
  exact (List.prefix_append _ _).isInfix

/-- A fault mentions what one of its frames mentions. -/
theorem Fault.mentions_of_frame (h : frame ∈ f.context) (inside : part.toList <:+: frame.toList) :
    f.Mentions part :=
  inside.trans (f.mentions_frame h)

end Texts

/-! ## 2. What is done to an instance -/

variable {σ : Type}

/-- The instance that a question orders, if it is answered well. -/
def receipt? : (q : (Timed Services).Query) → (Timed Services).Reply q → Option Instance
  | .other (.call (.cloud (.createInstance _))), .ok i => some i
  | _, _ => none

/-- The instances that are ordered in some exchanges. -/
def receipts (es : List (Exchange (Timed Services) σ)) : List Instance :=
  es.filterMap fun e => receipt? e.query e.reply

/-- An address was found for an instance. If it is the instance's own, it is recorded under its name. -/
def Located (request : Request) (ts : List Told) : Prop :=
  ∃ i ip, .report i ∈ ts ∧ request.externalIp.or i.address? = some ip ∧
    (request.externalIp = none → .named i.fqdn ip ∈ ts)

/-- Settings were pushed to an agent. -/
def Informed (ts : List Told) : Prop := ∃ cid pushed, .settings cid pushed ∈ ts

section Exchanges

variable {es later : List (Exchange (Timed Services) σ)}

theorem receipts_append : receipts (es ++ later) = receipts es ++ receipts later :=
  List.filterMap_append

theorem told_append : told (es ++ later) = told es ++ told later := List.filterMap_append

/-- Where an instance is tended none is ordered. -/
theorem receipts_tended (tended : ∀ e ∈ es, Tended e.query) : receipts es = [] := by
  refine List.filterMap_eq_nil_iff.mpr fun e he => ?_
  obtain ⟨cid, concerns⟩ := tended e he
  obtain ⟨query, reply, before, after⟩ := e
  dsimp only at concerns ⊢
  unfold receipt?
  split
  · cases concerns
  · rfl

theorem told_singleton (e : Exchange (Timed Services) σ) :
    told [e] = (told? e.query e.reply).toList := by
  unfold told
  rw [List.filterMap_cons]
  cases told? e.query e.reply with
  | none => rfl
  | some t => rfl

/-- Where nothing is asked that could be told, nothing is told. -/
theorem told_eq_nil (untold : ∀ e ∈ es, ∀ reply, told? e.query reply = none) : told es = [] :=
  List.filterMap_eq_nil_iff.mpr fun e he => untold e he e.reply

end Exchanges

/-! ## 3. The journal -/

namespace Provision

/-- All the steps for an instance, in order. -/
def Step.all (cid : UInt64) : List Step :=
  [.templateRendered, .instanceCreated cid, .instanceSettled, .endpointsResolved, .agentConfigured,
    .credentialApplied]

/-- What is said of the steps that were completed for an agent. -/
def summary (agentId : String) (steps : List Step) : String :=
  let completed := describe steps
  s!"provisioning instance for agent {agentId} (completed steps: {completed})"

/-- Whatever becomes of a fault, what is said of the steps is its outermost frame. -/
theorem abandon_summary (agentId : String) (steps : List Step) (f : Fault) :
    (abandon agentId steps f).context.getLast? = some (summary agentId steps) := by
  unfold abandon Fault.inContext
  exact List.getLast?_concat ..

/-- Where the creation of an instance is listed, it is named. -/
theorem infix_summary {agentId : String} {steps : List Step} {cid : UInt64}
    (listed : Step.instanceCreated cid ∈ steps) :
    (s!"instance {cid} ").toList <:+: (summary agentId steps).toList := by
  have text : (s!"instance {cid} ").toList <:+: (Step.instanceCreated cid).text.toList := by
    have split : (Step.instanceCreated cid).text = s!"instance {cid} " ++ "created" := by
      show "instance " ++ toString cid ++ (" " ++ "created") = _
      rw [← String.append_assoc]
      rfl
    have whole : (Step.instanceCreated cid).text.toList =
        (s!"instance {cid} ").toList ++ "created".toList := by
      rw [split, String.toList_append]
    rw [whole]
    exact (List.prefix_append _ _).isInfix
  have item : (Step.instanceCreated cid).text.toList <:+: (describe steps).toList := by
    have some : steps.isEmpty = false := by
      cases steps with
      | nil => cases listed
      | cons first rest => rfl
    unfold describe
    rw [some, if_neg Bool.false_ne_true, String.toList_intercalate]
    exact infix_intercalate _ (List.mem_map_of_mem (List.mem_map_of_mem listed))
  have frame : (describe steps).toList <:+: (summary agentId steps).toList := by
    exact infix_text ("provisioning instance for agent " ++ agentId ++ " (completed steps: ") _ ")"
  exact text.trans (item.trans frame)

variable (answer : Answering (Timed Services) σ) (site : Site) (request : Request)
  (selected : Networks) (cid : UInt64) (s : σ)

/-- An instance was ordered, and is settled. -/
def Settled : Prop :=
  ∃ receipt, (ordered answer request selected s).reply = .ok receipt ∧
    (settling answer site request receipt.cid (ordered answer request selected s).after).result = .ok ()

/-- The steps that were completed in a run that provisioned from `s` on and had the exchanges `es`. -/
structure Journal (es : List (Exchange (Timed Services) σ)) (steps : List Step) : Prop where
  listed : ∃ cid, steps <+: Step.all cid
  created : ∀ cid, Step.instanceCreated cid ∈ steps ↔ ∃ i ∈ receipts es, i.cid = cid
  settled : Step.instanceSettled ∈ steps ↔ Settled answer site request selected s
  resolved : Step.endpointsResolved ∈ steps ↔ Located request (told es)
  configured : Step.agentConfigured ∈ steps ↔ Informed (told es)

/-! ## 4. Where provisioning fails -/

section Parts

variable {answer : Answering (Timed Services) σ} {site : Site} {request : Request}
  {selected : Networks} {cid : UInt64} {s : σ} {i : Instance}

/-- Nothing is told until an instance is settled, even if it never is. -/
theorem told_settling : told (settling answer site request cid s).exchanges = [] := by
  have asked : ∀ e ∈ (settling answer site request cid s).exchanges, Settles cid e.query :=
    Stays.asks (stays_settle (fun _ h => ⟨h, fun _ => rfl⟩) site.waits _)
  exact told_eq_nil fun e he reply => (asked e he).untold reply

/-- Recording the host name of an instance. -/
def naming (answer : Answering (Timed Services) σ) (s : σ) (i : Instance) (ip : Address) :
    Exchange (Timed Services) σ :=
  answer.exchange (.other (.call (.hostAlias i.fqdn ip))) s

/-- An outer address is taken as it is. -/
theorem resolving_outer {ip : Address} (outer : request.externalIp = some ip) :
    resolving answer site request s i =
      ⟨Agent.Endpoints.forAddress site.agent ip, s, []⟩ := by
  unfold resolving
  rw [outer]
  exact trace_ofExcept _

/-- Without any address there is no way to the agent. -/
theorem resolving_unaddressed (inner : request.externalIp = none) (unknown : i.address? = none) :
    resolving answer site request s i =
      ⟨.error (.cloud s!"instance {i.cid} has no IP address"), s, []⟩ := by
  unfold resolving Agent.resolveEndpoints Agent.resolveAddress
  rw [inner, unknown]
  rfl

/-- The instance's own address is recorded first. -/
theorem resolving_inner {ip : Address} (inner : request.externalIp = none)
    (known : i.address? = some ip) :
    resolving answer site request s i =
      ⟨match (naming answer s i ip).reply with
        | .ok _ => Agent.Endpoints.forAddress site.agent ip
        | .error f => .error (f.inContext s!"recording host alias for instance {i.cid}"),
        (naming answer s i ip).after, [naming answer s i ip]⟩ := by
  have framed : ((Workflow.recordAlias i.fqdn ip).inContext
      s!"recording host alias for instance {i.cid}").trace answer s =
        ⟨Except.mapError _ (naming answer s i ip).reply, _, _⟩ := trace_framed _ _
  unfold resolving Agent.resolveEndpoints Agent.resolveAddress
  rw [inner, known]
  dsimp only
  rw [bind_eq, bind_eq, bind_assoc, trace_bind, framed]
  cases (naming answer s i ip).reply with
  | ok _ =>
    dsimp only [Except.mapError]
    rw [pure_eq_done, done_bind, trace_ofExcept]
    rfl
  | error f => rfl

/-- **Where an agent is reached** is known if and only if there is an address for its instance, which is
    recorded if it is the instance's own. -/
theorem resolving_told (answer : Answering (Timed Services) σ) (site : Site) (request : Request) (s : σ)
    (i : Instance) :
    (∀ t ∈ told (resolving answer site request s i).exchanges, ∃ hostname ip, t = .named hostname ip) ∧
    ((∃ endpoints, (resolving answer site request s i).result = .ok endpoints) ↔
      ∃ ip, request.externalIp.or i.address? = some ip ∧ (request.externalIp = none →
        .named i.fqdn ip ∈ told (resolving answer site request s i).exchanges)) := by
  cases outer : request.externalIp with
  | some ip =>
    obtain ⟨endpoints, rendered⟩ := Agent.Endpoints.forAddress_total site.agent ip
    rw [resolving_outer outer]
    refine ⟨fun t ht => absurd ht List.not_mem_nil, ?_⟩
    exact iff_of_true ⟨endpoints, rendered⟩ ⟨ip, rfl, fun none => nomatch none⟩
  | none =>
    cases known : i.address? with
    | none =>
      rw [resolving_unaddressed outer known]
      refine ⟨fun t ht => absurd ht List.not_mem_nil, iff_of_false ?_ ?_⟩
      · rintro ⟨endpoints, found⟩
        cases found
      · rintro ⟨ip, found, -⟩
        cases found
    | some ip =>
      obtain ⟨endpoints, rendered⟩ := Agent.Endpoints.forAddress_total site.agent ip
      rw [resolving_inner outer known]
      dsimp only
      cases recorded : (naming answer s i ip).reply with
      | ok _ =>
        have story : told [naming answer s i ip] = [.named i.fqdn ip] := by
          rw [told_singleton, recorded]
          rfl
        rw [story]
        refine ⟨fun t ht => ⟨i.fqdn, ip, List.mem_singleton.mp ht⟩, ?_⟩
        exact iff_of_true ⟨endpoints, rendered⟩ ⟨ip, rfl, fun _ => List.mem_singleton_self _⟩
      | error f =>
        have story : told [naming answer s i ip] = [] := by
          rw [told_singleton, recorded]
          rfl
        rw [story]
        refine ⟨fun t ht => absurd ht List.not_mem_nil, iff_of_false ?_ ?_⟩
        · rintro ⟨endpoints, found⟩
          cases found
        · rintro ⟨ip', -, found⟩
          exact absurd (found rfl) List.not_mem_nil

/-- Settings are pushed if and only if the call is answered well. -/
theorem configuring_told (answer : Answering (Timed Services) σ) (site : Site) (request : Request)
    (selected : Networks) (s : σ) (i : Instance) (endpoints : Agent.Endpoints) :
    (∀ t ∈ told (configuring answer site request selected s i endpoints).exchanges,
      ∃ cid pushed, t = .settings cid pushed) ∧
    ((∃ settings, (configuring answer site request selected s i endpoints).result = .ok settings) ↔
      Informed (told (configuring answer site request selected s i endpoints).exchanges)) := by
  let settings := Agent.settings i request selected endpoints site.agent
  let push := answer.exchange (Cloud.Call.pushSettings i.cid settings).query s
  have framed : ((Workflow.cloud (.pushSettings i.cid settings)).inContext
      s!"pushing agent settings to instance {i.cid}").trace answer s =
        ⟨Except.mapError _ push.reply, push.after, [push]⟩ := trace_framed _ _
  have ran : configuring answer site request selected s i endpoints =
      ⟨match push.reply with
        | .ok _ => .ok settings
        | .error f => .error (f.inContext s!"pushing agent settings to instance {i.cid}"),
        push.after, [push]⟩ := by
    unfold configuring Agent.configure
    rw [bind_eq, trace_bind, framed]
    cases push.reply with
    | ok _ => rfl
    | error f => rfl
  rw [ran]
  dsimp only
  cases pushed : push.reply with
  | ok _ =>
    have story : told [push] = [.settings i.cid settings] := by
      rw [told_singleton, pushed]
      rfl
    rw [story]
    refine ⟨fun t ht => ⟨i.cid, settings, List.mem_singleton.mp ht⟩, ?_⟩
    exact iff_of_true ⟨settings, rfl⟩ ⟨i.cid, settings, List.mem_singleton_self _⟩
  | error f =>
    have story : told [push] = [] := by
      rw [told_singleton, pushed]
      rfl
    rw [story]
    refine ⟨fun t ht => absurd ht List.not_mem_nil, iff_of_false ?_ ?_⟩
    · rintro ⟨settings', found⟩
      cases found
    · rintro ⟨cid, pushed', found⟩
      exact absurd found List.not_mem_nil

/-- With one report, an address is found for the instance that it is on. -/
theorem located_iff {names pushes : List Told} (named : ∀ t ∈ names, ∃ hostname ip, t = .named hostname ip)
    (pushed : ∀ t ∈ pushes, ∃ cid settings, t = .settings cid settings) :
    Located request (.report i :: (names ++ pushes)) ↔
      ∃ ip, request.externalIp.or i.address? = some ip ∧
        (request.externalIp = none → .named i.fqdn ip ∈ names) := by
  constructor
  · rintro ⟨j, ip, report, address, recorded⟩
    have same : j = i := by
      rcases List.mem_cons.mp report with report | report
      · cases report
        rfl
      · rcases List.mem_append.mp report with report | report
        · obtain ⟨_, _, other⟩ := named _ report
          cases other
        · obtain ⟨_, _, other⟩ := pushed _ report
          cases other
    subst same
    refine ⟨ip, address, fun inner => ?_⟩
    rcases List.mem_cons.mp (recorded inner) with record | record
    · cases record
    · rcases List.mem_append.mp record with record | record
      · exact record
      · obtain ⟨_, _, other⟩ := pushed _ record
        cases other
  · rintro ⟨ip, address, recorded⟩
    refine ⟨i, ip, List.mem_cons_self, address, fun inner => ?_⟩
    exact List.mem_cons_of_mem _ (List.mem_append_left _ (recorded inner))

/-- Settings are pushed apart from what else is told. -/
theorem informed_iff {names pushes : List Told}
    (named : ∀ t ∈ names, ∃ hostname ip, t = .named hostname ip) :
    Informed (.report i :: (names ++ pushes)) ↔ Informed pushes := by
  constructor
  · rintro ⟨cid, settings, pushed⟩
    rcases List.mem_cons.mp pushed with pushed | pushed
    · cases pushed
    · rcases List.mem_append.mp pushed with pushed | pushed
      · obtain ⟨_, _, other⟩ := named _ pushed
        cases other
      · exact ⟨cid, settings, pushed⟩
  · rintro ⟨cid, settings, pushed⟩
    exact ⟨cid, settings, List.mem_cons_of_mem _ (List.mem_append_right _ pushed)⟩

/-- The report on an instance once it is settled, with what becomes of a fault. -/
def refetching (answer : Answering (Timed Services) σ) (cid : UInt64) (s : σ) :
    Trace (Timed Services) σ Instance :=
  ((Workflow.cloud (.getInstance cid)).inContext s!"refreshing instance {cid} after create").trace answer s

/-- A report is told if the call is answered well. -/
theorem told_refetching :
    (∀ i, (refetching answer cid s).result = .ok i →
      told (refetching answer cid s).exchanges = [.report i]) ∧
    (∀ f, (refetching answer cid s).result = .error f → told (refetching answer cid s).exchanges = []) := by
  let refetch := answer.exchange (Cloud.Call.getInstance cid).query s
  have ran : refetching answer cid s = ⟨Except.mapError _ refetch.reply, refetch.after, [refetch]⟩ :=
    trace_framed _ _
  rw [ran]
  dsimp only
  rw [told_singleton]
  cases refetch.reply with
  | ok j =>
    refine ⟨fun i same => ?_, fun f failed => nomatch failed⟩
    cases same
    rfl
  | error f => exact ⟨fun i same => (nomatch same), fun f _ => rfl⟩

/-- Nothing is told by a login. -/
theorem told_loggingIn : told (loggingIn answer site cid s).exchanges = [] := by
  unfold loggingIn Agent.applyCredential
  cases site.agent.credential with
  | none => rfl
  | some credential =>
    dsimp only
    cases allowed : credential.validate with
    | error f => rfl
    | ok _ =>
      have framed : ((Workflow.cloud (.setCredential cid credential)).inContext
          s!"setting credential on instance {cid}").trace answer s = ⟨_, _, [_]⟩ := trace_framed _ _
      refine (congrArg (fun t => told t.exchanges) framed).trans ?_
      rw [told_singleton]
      rfl

end Parts

/-! ## 5. Where provisioning fails -/

section Failures

variable (answer : Answering (Timed Services) σ) (site : Site) (request : Request)
  (selected : Networks) (cid : UInt64) (s : σ) (i : Instance) (endpoints : Agent.Endpoints)

/-- The report on an instance that is brought up. -/
@[reducible] def reported : Trace (Timed Services) σ Instance :=
  refetching answer cid (settling answer site request cid s).state

/-- Finding out where its agent is reached. -/
@[reducible] def resolved : Trace (Timed Services) σ Agent.Endpoints :=
  resolving answer site request (reported answer site request cid s).state i

/-- Pushing the settings to its agent. -/
@[reducible] def configured : Trace (Timed Services) σ Agent.Settings :=
  configuring answer site request selected (resolved answer site request cid s i).state i endpoints

/-- Setting its login. -/
@[reducible] def loggedIn : Trace (Timed Services) σ Unit :=
  loggingIn answer site cid (configured answer site request selected cid s i endpoints).state

/-- The ways in which bringing up an instance fails, with the fault and the exchanges up to it: one part
    is the last one, and all before it ended well. -/
inductive Failure (g : Fault) (es : List (Exchange (Timed Services) σ)) : Prop where
  | unsettled {f : Fault} (failed : (settling answer site request cid s).result = .error f)
      (fault : g = abandon request.agentId [.templateRendered, .instanceCreated cid] f)
      (asked : es = (settling answer site request cid s).exchanges)
  | unreported {f : Fault} (settled : (settling answer site request cid s).result = .ok ())
      (failed : (reported answer site request cid s).result = .error f)
      (fault : g = abandon request.agentId
        [.templateRendered, .instanceCreated cid, .instanceSettled] f)
      (asked : es = (settling answer site request cid s).exchanges ++
        (reported answer site request cid s).exchanges)
  | unresolved {f : Fault} {i : Instance} (settled : (settling answer site request cid s).result = .ok ())
      (report : (reported answer site request cid s).result = .ok i)
      (failed : (resolved answer site request cid s i).result = .error f)
      (fault : g = abandon request.agentId
        [.templateRendered, .instanceCreated cid, .instanceSettled] f)
      (asked : es = (settling answer site request cid s).exchanges ++
        ((reported answer site request cid s).exchanges ++
          (resolved answer site request cid s i).exchanges))
  | unconfigured {f : Fault} {i : Instance} {endpoints : Agent.Endpoints}
      (settled : (settling answer site request cid s).result = .ok ())
      (report : (reported answer site request cid s).result = .ok i)
      (found : (resolved answer site request cid s i).result = .ok endpoints)
      (failed : (configured answer site request selected cid s i endpoints).result = .error f)
      (fault : g = abandon request.agentId
        [.templateRendered, .instanceCreated cid, .instanceSettled, .endpointsResolved] f)
      (asked : es = (settling answer site request cid s).exchanges ++
        ((reported answer site request cid s).exchanges ++
          ((resolved answer site request cid s i).exchanges ++
            (configured answer site request selected cid s i endpoints).exchanges)))
  | unapplied {f : Fault} {i : Instance} {endpoints : Agent.Endpoints} {settings : Agent.Settings}
      (settled : (settling answer site request cid s).result = .ok ())
      (report : (reported answer site request cid s).result = .ok i)
      (found : (resolved answer site request cid s i).result = .ok endpoints)
      (pushed : (configured answer site request selected cid s i endpoints).result = .ok settings)
      (fault : g = abandon request.agentId [.templateRendered, .instanceCreated cid, .instanceSettled,
        .endpointsResolved, .agentConfigured] f)
      (asked : es = (settling answer site request cid s).exchanges ++
        ((reported answer site request cid s).exchanges ++
          ((resolved answer site request cid s i).exchanges ++
            ((configured answer site request selected cid s i endpoints).exchanges ++
              (loggedIn answer site request selected cid s i endpoints).exchanges))))

variable {answer site request selected cid s i endpoints}

/-- **Bringing up an instance fails in one of its parts.** -/
theorem broughtUp_failure {g : Fault}
    (failed : (broughtUp answer site request selected cid s).result = .error g) :
    Failure answer site request selected cid s g
      (broughtUp answer site request selected cid s).exchanges := by
  -- A part either fails, and is the last one, or ends well and is followed by the others.
  obtain ⟨f, stuck, same, asked⟩ | ⟨⟨⟩, settled, failed, first⟩ :=
    trace_mapFault_bind_eq_error failed
  · exact .unsettled stuck same asked
  obtain ⟨f, stuck, same, asked⟩ | ⟨i, report, failed, second⟩ := trace_mapFault_bind_eq_error failed
  · exact .unreported settled stuck same (first.trans (congrArg (_ ++ ·) asked))
  obtain ⟨f, stuck, same, asked⟩ | ⟨endpoints, found, failed, third⟩ :=
    trace_mapFault_bind_eq_error failed
  · exact .unresolved settled report stuck same
      (first.trans (congrArg (_ ++ ·) (second.trans (congrArg (_ ++ ·) asked))))
  obtain ⟨f, stuck, same, asked⟩ | ⟨settings, pushed, failed, fourth⟩ :=
    trace_mapFault_bind_eq_error failed
  · exact .unconfigured settled report found stuck same (first.trans (congrArg (_ ++ ·)
      (second.trans (congrArg (_ ++ ·) (third.trans (congrArg (_ ++ ·) asked))))))
  obtain ⟨f, stuck, same, asked⟩ | ⟨⟨⟩, applied, failed, fifth⟩ := trace_mapFault_bind_eq_error failed
  · exact .unapplied settled report found pushed same (first.trans (congrArg (_ ++ ·)
      (second.trans (congrArg (_ ++ ·) (third.trans (congrArg (_ ++ ·)
        (fourth.trans (congrArg (_ ++ ·) asked))))))))
  · cases failed

/-- What is told in some exchanges, as far as the steps after the order go: whether the instance is
    settled, where its agent is reached, and whether it was told its settings. -/
structure Later (settled : Prop) (es : List (Exchange (Timed Services) σ)) (request : Request)
    (steps : List Step) : Prop where
  listed : steps <+: [.instanceSettled, .endpointsResolved, .agentConfigured]
  settled : Step.instanceSettled ∈ steps ↔ settled
  resolved : Step.endpointsResolved ∈ steps ↔ Located request (told es)
  configured : Step.agentConfigured ∈ steps ↔ Informed (told es)

/-- Once there is a report, all depends on what is recorded and pushed after it. -/
theorem later_of_report {es : List (Exchange (Timed Services) σ)}
    (names pushes : List (Exchange (Timed Services) σ)) (steps : List Step)
    (settled : (settling answer site request cid s).result = .ok ())
    (report : (reported answer site request cid s).result = .ok i)
    (named : ∀ t ∈ told names, ∃ hostname ip, t = .named hostname ip)
    (pushed : ∀ t ∈ told pushes, ∃ cid settings, t = .settings cid settings)
    (asked : es = (settling answer site request cid s).exchanges ++
      ((reported answer site request cid s).exchanges ++ (names ++ pushes)))
    (listed : .instanceSettled :: steps <+: [.instanceSettled, .endpointsResolved, .agentConfigured])
    (resolved : Step.endpointsResolved ∈ steps ↔ ∃ ip, request.externalIp.or i.address? = some ip ∧
      (request.externalIp = none → .named i.fqdn ip ∈ told names))
    (configured : Step.agentConfigured ∈ steps ↔ Informed (told pushes)) :
    Later ((settling answer site request cid s).result = .ok ()) es request
      (.instanceSettled :: steps) := by
  have story : told es = .report i :: (told names ++ told pushes) := by
    rw [asked, told_append, told_append, told_append, told_settling, told_refetching.1 i report]
    rfl
  refine ⟨listed, iff_of_true List.mem_cons_self settled, ?_, ?_⟩
  · rw [story, located_iff named pushed, ← resolved]
    exact ⟨fun h => (List.mem_cons.mp h).resolve_left nofun, List.mem_cons_of_mem _⟩
  · rw [story, informed_iff named, ← configured]
    exact ⟨fun h => (List.mem_cons.mp h).resolve_left nofun, List.mem_cons_of_mem _⟩

/-- **Where bringing up an instance fails**, the steps before are listed, as its exchanges tell them. -/
theorem broughtUp_journal {g : Fault}
    (failed : (broughtUp answer site request selected cid s).result = .error g) :
    ∃ f steps, g = abandon request.agentId (.templateRendered :: .instanceCreated cid :: steps) f ∧
      Later ((settling answer site request cid s).result = .ok ())
        (broughtUp answer site request selected cid s).exchanges request steps := by
  have unlocated : ¬Located request [] := by
    rintro ⟨i, ip, report, -⟩
    cases report
  have uninformed : ¬Informed [] := by
    rintro ⟨cid, pushed, settings⟩
    cases settings
  cases broughtUp_failure failed with
  | @unsettled f stuck fault asked =>
    have story : told (broughtUp answer site request selected cid s).exchanges = [] := by
      rw [asked, told_settling]
    have unsettled : (settling answer site request cid s).result ≠ .ok () := by
      rw [stuck]
      exact nofun
    refine ⟨f, [], fault, List.nil_prefix, iff_of_false List.not_mem_nil unsettled, ?_, ?_⟩
    · rw [story]
      exact iff_of_false List.not_mem_nil unlocated
    · rw [story]
      exact iff_of_false List.not_mem_nil uninformed
  | @unreported f settled stuck fault asked =>
    have story : told (broughtUp answer site request selected cid s).exchanges = [] := by
      rw [asked, told_append, told_settling, told_refetching.2 f stuck]
      rfl
    refine ⟨f, [.instanceSettled], fault, ⟨_, rfl⟩, iff_of_true List.mem_cons_self settled, ?_, ?_⟩
    · rw [story]
      exact iff_of_false (by decide) unlocated
    · rw [story]
      exact iff_of_false (by decide) uninformed
  | @unresolved f i settled report stuck fault asked =>
    obtain ⟨named, known⟩ := resolving_told answer site request (reported answer site request cid s).state i
    have unknown : ¬∃ endpoints, (resolved answer site request cid s i).result = .ok endpoints := by
      rintro ⟨endpoints, found⟩
      cases stuck.symm.trans found
    have pushed : ∀ t ∈ told ([] : List (Exchange (Timed Services) σ)),
        ∃ cid settings, t = .settings cid settings :=
      fun t ht => absurd ht List.not_mem_nil
    rw [← List.append_nil (resolved answer site request cid s i).exchanges] at asked
    exact ⟨f, [.instanceSettled], fault, later_of_report _ [] [] settled report named pushed asked
      ⟨[.endpointsResolved, .agentConfigured], rfl⟩
      (iff_of_false List.not_mem_nil (known.not.mp unknown)) (iff_of_false List.not_mem_nil uninformed)⟩
  | @unconfigured f i endpoints settled report found stuck fault asked =>
    obtain ⟨named, known⟩ := resolving_told answer site request (reported answer site request cid s).state i
    obtain ⟨pushed, heard⟩ := configuring_told answer site request selected
      (resolved answer site request cid s i).state i endpoints
    have unheard : ¬∃ settings,
        (configured answer site request selected cid s i endpoints).result = .ok settings := by
      rintro ⟨settings, sent⟩
      cases stuck.symm.trans sent
    exact ⟨f, [.instanceSettled, .endpointsResolved], fault,
      later_of_report _ _ [.endpointsResolved] settled report named pushed asked
        ⟨[.agentConfigured], rfl⟩ (iff_of_true (by decide) (known.mp ⟨endpoints, found⟩))
        (iff_of_false (by decide) (heard.not.mp unheard))⟩
  | @unapplied f i endpoints settings settled report found pushed fault asked =>
    obtain ⟨named, known⟩ := resolving_told answer site request (reported answer site request cid s).state i
    obtain ⟨only, heard⟩ := configuring_told answer site request selected
      (resolved answer site request cid s i).state i endpoints
    have told_pushes : told ((configured answer site request selected cid s i endpoints).exchanges ++
        (loggedIn answer site request selected cid s i endpoints).exchanges) =
          told (configured answer site request selected cid s i endpoints).exchanges := by
      rw [told_append, told_loggingIn, List.append_nil]
    rw [← told_pushes] at only heard
    exact ⟨f, [.instanceSettled, .endpointsResolved, .agentConfigured], fault,
      later_of_report _ _ [.endpointsResolved, .agentConfigured] settled report named only asked
        List.prefix_rfl (iff_of_true (by decide) (known.mp ⟨endpoints, found⟩))
        (iff_of_true (by decide) (heard.mp ⟨settings, pushed⟩))⟩

/-- An order is a receipt if it is answered well. -/
theorem receipts_order :
    receipts [marked answer s, ordered answer request selected s] =
      match (ordered answer request selected s).reply with
      | .ok receipt => [receipt]
      | .error _ => [] := by
  have first : receipts [marked answer s, ordered answer request selected s] =
      (receipt? (ordered answer request selected s).query
        (ordered answer request selected s).reply).toList := by
    show receipts [ordered answer request selected s] = _
    unfold receipts
    rw [List.filterMap_cons]
    cases receipt? (ordered answer request selected s).query
      (ordered answer request selected s).reply with
    | none => rfl
    | some i => rfl
  rw [first]
  cases (ordered answer request selected s).reply with
  | ok receipt => rfl
  | error f => rfl

/-- No other instance is ordered in a run. -/
theorem run_receipts {receipt : Instance} (order : (ordered answer request selected s).reply = .ok receipt) :
    receipts ((run site request selected).trace answer s).exchanges = [receipt] := by
  have up : receipts (broughtUp answer site request selected receipt.cid
      (ordered answer request selected s).after).exchanges = [] :=
    receipts_tended broughtUp_asks
  rw [trace_run, order]
  dsimp only
  rw [Trace.precededBy_exchanges, receipts_append, receipts_order, order, up]
  rfl

/-- The report on an instance that is settled is one of the exchanges. -/
theorem refetched_mem {receipt : Instance} (order : (ordered answer request selected s).reply = .ok receipt)
    (settled : (settling answer site request receipt.cid
      (ordered answer request selected s).after).result = .ok ()) :
    refetched answer site request receipt.cid (ordered answer request selected s).after ∈
      ((run site request selected).trace answer s).exchanges := by
  obtain ⟨later, refetches⟩ := run_refetches order settled
  rw [refetches]
  exact List.mem_cons_of_mem _ (List.mem_cons_of_mem _ (List.mem_append_right _ List.mem_cons_self))

/-- Where the order is refused, nothing is listed but the template. -/
theorem refused_journal {f : Fault} (order : (ordered answer request selected s).reply = .error f) :
    Journal answer site request selected s [marked answer s, ordered answer request selected s]
      [.templateRendered] := by
  have none : receipts [marked answer s, ordered answer request selected s] = [] := by
    rw [receipts_order, order]
  refine ⟨⟨0, ⟨_, rfl⟩⟩, fun cid => ?_, ?_, ?_, ?_⟩
  · refine iff_of_false (by simp) ?_
    rw [none]
    rintro ⟨i, none, -⟩
    cases none
  · refine iff_of_false (by decide) ?_
    rintro ⟨receipt, ok, -⟩
    cases order.symm.trans ok
  · refine iff_of_false (by decide) ?_
    rintro ⟨i, ip, none, -⟩
    cases none
  · refine iff_of_false (by decide) ?_
    rintro ⟨cid, pushed, none⟩
    cases none

/-- **What is listed when provisioning fails** is what was done. -/
theorem build_journal {g : Fault}
    (failed : ((run site request selected).trace answer s).result = .error g) :
    ∃ f steps, g = abandon request.agentId steps f ∧ Journal answer site request selected s
      ((run site request selected).trace answer s).exchanges steps := by
  have untold : told [marked answer s, ordered answer request selected s] = [] := rfl
  cases order : (ordered answer request selected s).reply with
  | error f =>
    rw [trace_run, order] at failed ⊢
    cases failed
    exact ⟨_, [.templateRendered], rfl, refused_journal order⟩
  | ok receipt =>
    have ordered_receipts : receipts ((run site request selected).trace answer s).exchanges = [receipt] :=
      run_receipts order
    rw [trace_run, order] at failed ordered_receipts ⊢
    obtain ⟨f, steps, same, later⟩ := broughtUp_journal failed
    have story : told ([marked answer s, ordered answer request selected s] ++
        (broughtUp answer site request selected receipt.cid
          (ordered answer request selected s).after).exchanges) =
            told (broughtUp answer site request selected receipt.cid
              (ordered answer request selected s).after).exchanges := by
      rw [told_append, untold, List.nil_append]
    have begun : ∀ step, step ≠ .templateRendered → step ≠ .instanceCreated receipt.cid →
        (step ∈ Step.templateRendered :: .instanceCreated receipt.cid :: steps ↔ step ∈ steps) := by
      intro step first second
      rw [List.mem_cons, List.mem_cons, or_iff_right first, or_iff_right second]
    refine ⟨f, _, same, ⟨receipt.cid, ?_⟩, fun cid => ?_, ?_, ?_, ?_⟩
    · have rest : steps <+: [.instanceSettled, .endpointsResolved, .agentConfigured, .credentialApplied] :=
        later.listed.trans ⟨[.credentialApplied], rfl⟩
      exact (List.prefix_append_right_inj [.templateRendered, .instanceCreated receipt.cid]).mpr rest
    · have created : Step.instanceCreated cid ∉ steps := by
        intro listed
        have impossible := later.listed.subset listed
        simp at impossible
      rw [ordered_receipts]
      simp [created, eq_comm]
    · rw [begun .instanceSettled nofun nofun, later.settled]
      refine ⟨fun settled => ⟨receipt, order, settled⟩, ?_⟩
      rintro ⟨other, ok, settled⟩
      cases order.symm.trans ok
      exact settled
    · rw [begun .endpointsResolved nofun nofun, later.resolved]
      exact iff_of_eq (congrArg (Located request) story.symm)
    · rw [begun .agentConfigured nofun nofun, later.configured]
      exact iff_of_eq (congrArg Informed story.symm)

end Failures

end Provision

/-! ## 6. The journal of an allocation -/

section Allocations

open Allocation

variable {answer : Answering (Timed Services) σ} {site : Site} {request : Request}
  {selected : Networks} {s : σ}

/-- The receipt for its order is the only one of an allocation that builds an instance. -/
theorem miss_receipts {receipt : Instance} (accepted : Networks.select request.networks = .ok selected)
    (pooled : selected.fixedIp = none) (missed : (searched answer request selected s).reply = .ok [])
    (order : (ordered answer request selected (searched answer request selected s).after).reply =
      .ok receipt) :
    receipts ((run site request).trace answer s).exchanges = [receipt] := by
  have built : receipts (Miss.build answer site request selected s).exchanges = [receipt] :=
    Provision.run_receipts order
  cases ended : (Miss.build answer site request selected s).result with
  | error f =>
    rw [trace_unbuilt accepted pooled missed ended]
    exact built
  | ok i =>
    rw [trace_built accepted pooled missed ended]
    show receipts ((Miss.build answer site request selected s).exchanges ++ [_]) = _
    rw [receipts_append, built]
    rfl

/-- A fault in entering an instance names it. -/
theorem registered_mentions {i : Instance} {reply : Except Fault Unit} {g : Fault}
    (refused : registered i reply = .error g) : g.Mentions s!"instance {i.cid} " := by
  cases reply with
  | ok _ => cases refused
  | error f =>
    cases refused
    have frame : s!"registering instance {i.cid} in pool" ∈
        (f.inContext s!"registering instance {i.cid} in pool").context :=
      List.mem_append_right _ (List.mem_singleton_self _)
    have split : s!"registering instance {i.cid} in pool" =
        "registering " ++ s!"instance {i.cid} " ++ "in pool" := by
      show ("registering " ++ "instance ") ++ toString i.cid ++ (" " ++ "in pool") =
        "registering " ++ ("instance " ++ toString i.cid ++ " ") ++ "in pool"
      simp only [String.append_assoc]
    refine Fault.mentions_of_frame frame ?_
    rw [split]
    exact infix_text _ _ _

/-- **The journal of provisioning is faithful**, and no instance that was ordered is lost: if provisioning
    fails, the outermost frame lists the steps that were completed, and whatever fails after the order
    names the instance. -/
theorem journal_is_faithful {g : Fault} (accepted : Networks.select request.networks = .ok selected)
    (pooled : selected.fixedIp = none)
    (missed : (searched answer request selected s).reply = .ok [])
    (failed : ((run site request).trace answer s).result = .error g) :
    let t := (run site request).trace answer s
    (∀ f, (Miss.build answer site request selected s).result = .error f →
      g = f ∧ ∃ steps, g.context.getLast? = some (Provision.summary request.agentId steps) ∧
        Provision.Journal answer site request selected (searched answer request selected s).after
          t.exchanges steps) ∧
    ((∀ e ∈ t.exchanges, Truthful e) →
      ∀ i ∈ receipts t.exchanges, g.Mentions s!"instance {i.cid} ") := by
  intro t
  cases ended : (Miss.build answer site request selected s).result with
  | error f =>
    have ran : t = ⟨.error f, _, searched answer request selected s ::
        (Miss.build answer site request selected s).exchanges⟩ :=
      trace_unbuilt accepted pooled missed ended
    have same : g = f := Except.error.inj (failed.symm.trans (congrArg Trace.result ran))
    obtain ⟨f', steps, rfl, journal⟩ := Provision.build_journal ended
    have whole : Provision.Journal answer site request selected (searched answer request selected s).after
        t.exchanges steps := by
      rw [ran]
      exact ⟨journal.listed, journal.created, journal.settled, journal.resolved, journal.configured⟩
    have outermost := Provision.abandon_summary request.agentId steps f'
    rw [← same] at outermost
    refine ⟨fun f again => ⟨same.trans (Except.error.inj again), steps, outermost, whole⟩, ?_⟩
    intro _ i ordered
    have listed : Step.instanceCreated i.cid ∈ steps := (whole.created i.cid).mpr ⟨i, ordered, rfl⟩
    exact g.mentions_of_frame (List.mem_of_getLast? outermost) (Provision.infix_summary listed)
  | ok i =>
    have ran : t = ⟨registered i (Miss.last answer site request selected s i).reply, _,
        searched answer request selected s :: ((Miss.build answer site request selected s).exchanges ++
          [Miss.last answer site request selected s i])⟩ :=
      trace_built accepted pooled missed ended
    obtain ⟨receipt, order, up⟩ := Provision.run_eq_ok.mp ended
    refine ⟨nofun, fun truthful other ordered => ?_⟩
    have only : receipts t.exchanges = [receipt] := miss_receipts accepted pooled missed order
    rw [only] at ordered
    obtain rfl := List.mem_singleton.mp ordered
    have same : i.cid = other.cid := by
      have report : Truthful _ := truthful _ (by
        rw [ran]
        exact List.mem_cons_of_mem _ (List.mem_append_left _ (Provision.refetched_mem order up.settled)))
      unfold Truthful at report
      rw [up.refetched] at report
      exact report
    have refused : registered i (Miss.last answer site request selected s i).reply = .error g :=
      (congrArg Trace.result ran).symm.trans failed
    exact same ▸ registered_mentions refused

end Allocations

namespace Sample

/-- A registry that has an entry for the next instance already. -/
def taken : RegistryDouble where
  entries := [{ entry with state := .using }]

/-- A request that finds no free entry there. -/
def repeated : Trace (Timed Services) (RegistryDouble × Bool) Instance :=
  (Allocation.run site outer).trace (overRegistry cloud) (taken, true)

theorem cloud_truthful (q : (Timed Services).Query) (s : RegistryDouble × Bool) :
    Truthful ((overRegistry cloud).exchange q s) := by
  cases q with
  | other q =>
    cases q with
    | mark => trivial
    | call c =>
      cases c with
      | registry c => trivial
      | hostAlias hostname ip => trivial
      | cloud c =>
        cases c with
        | getInstance cid => exact rfl
        | _ => trivial
  | _ => trivial

end Sample

open Allocation Sample in
/-- The new instance cannot be entered there, and is named all the same. -/
theorem journal_is_faithful_where_taken :
    (searched (overRegistry cloud) outer selected (taken, true)).reply = .ok [] ∧
      (∀ e ∈ repeated.exchanges, Truthful e) ∧
      ∃ g, repeated.result = .error g ∧ g.Mentions s!"instance {(42 : UInt64)} " := by
  have built : (Miss.build (overRegistry cloud) site outer selected (taken, true)).result =
      .ok { cid := 42 } :=
    (builds _).value
  obtain ⟨es, ran⟩ : ∃ es, Miss.build (overRegistry cloud) site outer selected (taken, true) =
      ⟨_, _, es⟩ := (builds _).trace_eq
  have exists_already : (Miss.last (overRegistry cloud) site outer selected (taken, true)
      { cid := 42 }).reply = .error (.cloud s!"pool entry {(42 : UInt64)} already exists") := by
    unfold Miss.last
    rw [ran]
    rfl
  have refused : repeated.result = .error ((Fault.cloud s!"pool entry {(42 : UInt64)} already exists").inContext
      s!"registering instance {(42 : UInt64)} in pool") := by
    unfold repeated
    rw [trace_built rfl rfl rfl built, exists_already]
    rfl
  have truthful : ∀ e ∈ repeated.exchanges, Truthful e := by
    intro e he
    obtain ⟨q, s, rfl⟩ := Program.exchanges_asked e he
    exact cloud_truthful q s
  have order : { cid := 42 } ∈ receipts repeated.exchanges := by
    unfold repeated
    rw [miss_receipts rfl rfl rfl rfl]
    exact List.mem_singleton_self _
  have named := (journal_is_faithful rfl rfl rfl refused).2 truthful { cid := 42 }
  exact ⟨rfl, truthful, _, refused, named order⟩

end InstancePool
