import InstancePool.Proofs.Courses
import InstancePool.Proofs.Stopping
import InstancePool.Upkeep

/-!
# What the caller is told

A workflow stops at one fault, and the caller gets that fault: its kind, its message and the failure of
its compensation as they were, and its context with more frames around it. There are two exceptions. An
order that fails in the cloud is told as a creation that failed, and where the write that should undo a
claim fails as well, both faults are told in one.

* `Fault.Conveys`: a fault that tells of another one;
* `Allocation.Undoes`, `Allocation.OrderFailed`: the write that undoes a claim, and an order that fails;
* `Allocation.Verdict`: what the caller is told of a failed allocation, by what was heard in it;
* `Relays`: what the caller of any other operation is told;
* `allocation_verdict`, `release_halts`, `reboot_halts`, `exists_relays`: the operations one by one;
* `faults_reach_caller`: what any failed operation tells its caller.
-/

namespace InstancePool

open Program
open Pool (Entry State)
open Simulation (RegistryDouble)

/-! ## 1. Faults that tell of others -/

/-- A fault tells of another one: it is the same but for frames around it and for the advice on trying
    again. -/
structure Fault.Conveys (g f : Fault) : Prop where
  kind : g.kind = f.kind
  message : g.message = f.message
  secondary : g.secondary = f.secondary
  context : ∃ frames, g.context = f.context ++ frames

theorem Fault.Extends.conveys {g f : Fault} (h : g.Extends f) : g.Conveys f := by
  obtain ⟨frames, rfl⟩ := h
  exact ⟨rfl, rfl, rfl, frames, rfl⟩

theorem Fault.Conveys.retryable {g f : Fault} (h : g.Conveys f) (canRetry : Bool) :
    (g.retryable canRetry).Conveys f :=
  ⟨h.kind, h.message, h.secondary, h.context⟩

namespace Allocation

/-! ## 2. The verdict -/

/-- The write that undoes a claim. -/
def Undoes (h : Heard) : Prop :=
  ∃ cid, h.query = (Registry.Call.updateState cid (some .provisioning) .free).query

/-- The last thing that was heard is an order that failed in the cloud with that fault. -/
def OrderFailed (heard : List Heard) (f : Fault) : Prop :=
  f.kind = .cloud ∧ ∃ t, heard.getLast? = some ⟨(Cloud.Call.createInstance t).query, .error f⟩

/-- What the caller of an allocation is told that stopped at a fault. -/
inductive Verdict (site : Site) (request : Request) (heard : List Heard) (g : Fault) : Prop where
  | passed {f : Fault} (halt : Halt (Objection site request) heard f)
      (last : ∀ h ∈ heard.getLast?, ¬ Undoes h) (other : ¬ OrderFailed heard f) (told : g.Conveys f)
  | unordered {f : Fault} (halt : Halt (Objection site request) heard f) (order : OrderFailed heard f)
      (told : g.Conveys (f.withKind .creationFailed))
  | undone {work : List Heard} {undo : Heard} {f : Fault} (split : heard = work ++ [undo])
      (undoes : Undoes undo) (halt : Halt (Objection site request) work f) (done : undo.halt? = none)
      (told : g.Conveys f)
  | stranded {work : List Heard} {undo : Heard} {f h cause compensation : Fault}
      (split : heard = work ++ [undo]) (undoes : Undoes undo)
      (halt : Halt (Objection site request) work f) (refused : undo.halt? = some h)
      (kind : g.kind = .poolInconsistent) (final : g.canRetry = false)
      (first : cause.Conveys f) (second : compensation.Conveys h)
      (secondary : g.secondary = some compensation)
      (message : g.message =
        s!"{cause.render}; compensating pool update also failed: {compensation.render}")

section Verdicts

variable {σ : Type} {answer : Answering (Timed Services) σ} {site : Site} {request : Request}
  {selected : Networks} {cid : UInt64} {s : σ} {heard before : List Heard} {f g : Fault}

/-- What is heard neither undoes a claim nor is an order that fails. -/
structure Ordinary (h : Heard) : Prop where
  kept : ¬ Undoes h
  ordered : ∀ t, h.query = (Cloud.Call.createInstance t).query → h.halt? = none

theorem ordinary_of_operation {c : Call} {reply : c.Answer} (kept : c.operation ≠ .updateState)
    (ordered : c.operation ≠ .createInstance) : Ordinary ⟨.other (.call c), reply⟩ where
  kept := by
    rintro ⟨cid, same⟩
    cases same
    exact kept rfl
  ordered := by
    intro t same
    cases same
    exact absurd rfl ordered

theorem ordinary_of_update {expected : Option State} {next : State}
    {reply : (Registry.Call.updateState cid expected next).Answer} (held : next ≠ .free) :
    Ordinary ⟨(Registry.Call.updateState cid expected next).query, reply⟩ where
  kept := by
    rintro ⟨cid', same⟩
    cases same
    exact held rfl
  ordered := by
    intro t same
    cases same

/-- **Where the last thing that was heard is ordinary**, the fault is passed on. -/
theorem Verdict.of_halt (halt : Halt (Objection site request) heard f)
    (ordinary : ∀ h ∈ heard.getLast?, Ordinary h) (told : g.Conveys f) : Verdict site request heard g := by
  refine .passed halt (fun h last => (ordinary h last).kept) ?_ told
  rintro ⟨-, t, last⟩
  cases (ordinary _ last).ordered t rfl

/-- A call that fails ends an allocation. -/
theorem Verdict.of_call {c : Call} {reply : c.Answer} (calm : ∀ h ∈ before, h.halt? = none)
    (strict : c.operation.strict = true) (failed : reply = .error f)
    (ordinary : Ordinary ⟨.other (.call c), reply⟩) (told : g.Conveys f) :
    Verdict site request (before ++ [⟨.other (.call c), reply⟩]) g := by
  subst failed
  refine .of_halt (.answered rfl calm (Heard.halt?_of_error strict rfl)) ?_ told
  intro h last
  rw [List.getLast?_concat] at last
  cases last
  exact ordinary

theorem ordinary_of_asks {h : Heard} (asks : Reclaim.Asks h.query) : Ordinary h where
  kept := fun ⟨_, same⟩ => asks.not_registry _ same
  ordered := by
    intro t same
    rw [same] at asks
    cases asks with
    | tend tended => exact absurd rfl (tended.operation rfl).1

/-! ## 3. Both ways to an instance -/

/-- An order that fails in the cloud is told as a creation that failed, -/
theorem abandon_cloud {frame : String} (kind : f.kind = .cloud) :
    (Provision.abandon request.agentId [.templateRendered] (f.inContext frame)).Conveys
      (f.withKind .creationFailed) := by
  have again : (!Provision.created [.templateRendered] && (f.inContext frame).kind = .cloud) = true :=
    decide_eq_true kind
  unfold Provision.abandon
  dsimp only
  rw [if_pos again]
  exact ⟨rfl, rfl, rfl, _, List.append_assoc ..⟩

/-- and one that fails in another way as it is. -/
theorem abandon_other {frame : String} (kind : f.kind ≠ .cloud) :
    (Provision.abandon request.agentId [.templateRendered] (f.inContext frame)).Conveys f := by
  have kept : (!Provision.created [.templateRendered] && (f.inContext frame).kind = .cloud) = false :=
    decide_eq_false kind
  unfold Provision.abandon
  dsimp only
  rw [kept]
  exact (((Fault.Extends.refl f).inContext frame).inContext _).conveys

/-- What provisioning ends with once its order is placed. -/
theorem ordered_halted {receipt : Instance} (calm : ∀ h ∈ before, h.halt? = none)
    (order : (Provision.ordered answer request selected s).reply = .ok receipt) :
    Halted (Objection site request) before ((Provision.run site request selected).trace answer s).result
      (before ++ ((Provision.run site request selected).trace answer s).exchanges.map Exchange.heard) := by
  have calm' : ∀ h ∈ before ++ [(Provision.marked answer s).heard], h.halt? = none :=
    List.forall_mem_append.mpr ⟨calm, List.forall_mem_singleton.mpr rfl⟩
  have going : Going (before ++ [(Provision.marked answer s).heard] ++
      [(Provision.ordered answer request selected s).heard]) :=
    going_concat calm' (Heard.halt?_of_ok order) (Heard.not_decides_of_strict rfl)
  have up : Halted (Objection site request) _ (Provision.broughtUp answer site request selected receipt.cid
      (Provision.ordered answer request selected s).after).result _ :=
    (bringUp_halts site request selected).trace going (List.forall_mem_nil _)
  rw [List.append_assoc, List.append_assoc] at up
  rw [Provision.trace_run, order]
  exact up.after (List.prefix_append ..)

/-- Nothing that is heard in provisioning undoes a claim, and its order is placed. -/
theorem ordered_ordinary {receipt : Instance}
    (order : (Provision.ordered answer request selected s).reply = .ok receipt) :
    ∀ h ∈ ((Provision.run site request selected).trace answer s).exchanges.map Exchange.heard,
      Ordinary h := by
  rw [Provision.trace_run, order]
  intro h heard
  obtain ⟨e, he, rfl⟩ := List.mem_map.mp heard
  rcases List.mem_append.mp he with early | late
  · rcases List.mem_cons.mp early with rfl | placed
    · exact ⟨fun ⟨_, same⟩ => (nomatch same), fun _ same => (nomatch same)⟩
    · obtain rfl := List.mem_singleton.mp placed
      exact ⟨fun ⟨_, same⟩ => (nomatch same), fun _ _ => Heard.halt?_of_ok order⟩
  · exact ordinary_of_asks (.tend (Provision.broughtUp_asks e late))

theorem build_verdict (calm : ∀ h ∈ before, h.halt? = none) (ordinary : ∀ h ∈ before, Ordinary h)
    (failed : ((Provision.run site request selected).trace answer s).result = .error g) :
    Verdict site request
      (before ++ ((Provision.run site request selected).trace answer s).exchanges.map Exchange.heard) g := by
  cases order : (Provision.ordered answer request selected s).reply with
  | ok receipt =>
    have halted : Halted (Objection site request) before
        ((Provision.run site request selected).trace answer s).result _ := ordered_halted calm order
    rw [failed] at halted
    obtain ⟨f, more, halt⟩ := halted
    refine .of_halt halt (fun h last => ?_) more.conveys
    rcases List.mem_append.mp (List.mem_of_getLast? last) with early | late
    · exact ordinary h early
    · exact ordered_ordinary order h late
  | error f =>
    rw [Provision.trace_run, order] at failed ⊢
    cases failed
    have calm' : ∀ h ∈ before ++ [(Provision.marked answer s).heard], h.halt? = none :=
      List.forall_mem_append.mpr ⟨calm, List.forall_mem_singleton.mpr rfl⟩
    have refused : (Provision.ordered answer request selected s).heard =
        ⟨(Cloud.Call.createInstance _).query, .error f⟩ :=
      congrArg (Heard.mk _) order
    have halts : (Provision.ordered answer request selected s).heard.halt? = some f :=
      Heard.halt?_of_error rfl order
    have halt : Halt (Objection site request) (before ++ [(Provision.marked answer s).heard] ++
        [(Provision.ordered answer request selected s).heard]) f :=
      .answered rfl calm' halts
    have last : (before ++ [(Provision.marked answer s).heard] ++
        [(Provision.ordered answer request selected s).heard]).getLast? = _ := List.getLast?_concat
    show Verdict site request (before ++ ([(Provision.marked answer s).heard] ++
      [(Provision.ordered answer request selected s).heard])) _
    rw [← List.append_assoc]
    by_cases kind : f.kind = .cloud
    · exact .unordered halt ⟨kind, _, last.trans (congrArg some refused)⟩ (abandon_cloud kind)
    · refine .passed halt (fun h same => ?_) (fun order => kind order.1) (abandon_other kind)
      obtain rfl := Option.some.inj (last.symm.trans same)
      exact fun ⟨_, same⟩ => nomatch same

theorem build_calm {i : Instance} (calm : ∀ h ∈ before, h.halt? = none)
    (ok : ((Provision.run site request selected).trace answer s).result = .ok i) :
    ∀ h ∈ before ++ ((Provision.run site request selected).trace answer s).exchanges.map Exchange.heard,
      h.halt? = none := by
  obtain ⟨receipt, order, -⟩ := Provision.run_eq_ok.mp ok
  have halted : Halted (Objection site request) before
      ((Provision.run site request selected).trace answer s).result _ := ordered_halted calm order
  rw [ok] at halted
  exact halted.2.calm

/-- **After a new instance was built**, only its entry into the pool can fail. -/
theorem entered_verdict {i : Instance} (calm : ∀ h ∈ before, h.halt? = none)
    (failed : registered i (entered answer i s).reply = .error g) :
    Verdict site request (before ++ [(entered answer i s).heard]) g := by
  cases reply : (entered answer i s).reply with
  | ok _ =>
    rw [reply] at failed
    cases failed
  | error f =>
    rw [reply] at failed
    cases failed
    exact .of_call calm rfl reply (ordinary_of_operation nofun nofun)
      ((Fault.Extends.refl f).inContext _).conveys

/-- **After a reclaim without a claim**, its fault is passed on. -/
theorem reclaim_verdict {target : Reclaim.Target} {frame : String}
    (failed : (((Reclaim.run site target request selected).trace answer s).mapFault
      (·.inContext frame)).result = .error g) :
    Verdict site request
      (((Reclaim.run site target request selected).trace answer s).exchanges.map Exchange.heard) g := by
  obtain ⟨f', ended, rfl⟩ := Trace.mapFault_eq_error.mp failed
  obtain ⟨f, more, halt⟩ := (reclaim_halts site target request selected).fault ended
  refine .of_halt halt (fun h last => ?_) (more.inContext _).conveys
  obtain ⟨e, he, rfl⟩ := List.mem_map.mp (List.mem_of_getLast? last)
  exact ordinary_of_asks (reclaim_asks _ e he)

/-- **After a reclaim under a claim**, either the end of the claim fails, or the claim is undone. -/
theorem settled_verdict {t : Trace (Timed Services) σ Instance}
    (halted : Halted (Objection site request) before t.result (before ++ t.exchanges.map Exchange.heard))
    (failed : conclusion cid t.result (settled answer cid t).reply = .error g) :
    Verdict site request (before ++ t.exchanges.map Exchange.heard ++ [(settled answer cid t).heard]) g := by
  obtain ⟨result, state, exchanges⟩ := t
  cases result with
  | ok i =>
    cases reply : (settled answer cid ⟨.ok i, state, exchanges⟩).reply with
    | ok _ =>
      rw [reply] at failed
      cases failed
    | error f =>
      rw [reply] at failed
      cases failed
      exact .of_call halted.2.calm rfl reply (ordinary_of_update nofun)
        ((Fault.Extends.refl f).inContext _).conveys
  | error f' =>
    obtain ⟨f, more, halt⟩ := halted
    cases reply : (settled answer cid ⟨.error f', state, exchanges⟩).reply with
    | ok _ =>
      rw [reply] at failed
      cases failed
      exact .undone rfl ⟨cid, rfl⟩ halt (Heard.halt?_of_ok reply) (more.inContext _).conveys
    | error h =>
      rw [reply] at failed
      cases failed
      have refused : (settled answer cid ⟨.error f', state, exchanges⟩).heard.halt? = some h :=
        Heard.halt?_of_error rfl reply
      exact .stranded rfl ⟨cid, rfl⟩ halt refused rfl rfl (more.inContext _).conveys
        ((Fault.Extends.refl h).inContext _).conveys rfl rfl

/-- **What the caller of an allocation is told.** -/
theorem allocation_verdict (failed : ((Allocation.run site request).trace answer s).result = .error g) :
    Verdict site request (((Allocation.run site request).trace answer s).exchanges.map Exchange.heard) g := by
  have taken : Course answer site request s := course answer site request s
  cases taken with
  | @invalid f refused =>
    rw [trace_invalid refused] at failed ⊢
    cases failed
    exact .of_halt (.objected going_nil (.networks refused)) (fun h last => nomatch last)
      ((Fault.Extends.refl f).inContext _).conveys
  | @fixed selected ip accepted pinned =>
    rw [trace_fixed accepted pinned] at failed ⊢
    exact reclaim_verdict failed
  | @unsearched selected f accepted pooled refused =>
    rw [trace_unsearched accepted pooled refused] at failed ⊢
    cases failed
    exact .of_call (List.forall_mem_nil _) rfl refused (ordinary_of_operation nofun nofun)
      ((Fault.Extends.refl f).inContext _).conveys
  | @denied selected entry rest f accepted pooled found refused =>
    rw [trace_denied accepted pooled found refused] at failed ⊢
    cases failed
    have calm : ∀ h ∈ [(searched answer request selected s).heard], h.halt? = none :=
      List.forall_mem_singleton.mpr (Heard.halt?_of_ok found)
    exact Verdict.of_call calm rfl refused (ordinary_of_update nofun)
      (((Fault.Extends.refl f).inContext _).conveys.retryable _)
  | @reused selected entry rest accepted pooled found granted =>
    rw [trace_reused accepted pooled found granted] at failed ⊢
    have going : Going ([(searched answer request selected s).heard] ++
        [(Hit.claim answer request selected entry.cid s).heard]) :=
      going_concat (List.forall_mem_singleton.mpr (Heard.halt?_of_ok found)) (Heard.halt?_of_ok granted)
        (Heard.not_decides_of_strict rfl)
    have reclaim : Halted (Objection site request) _
        (Hit.reclaim answer site request selected entry.cid s).result _ :=
      (reclaim_halts site (.cid entry.cid) request selected).trace going (List.forall_mem_nil _)
    have verdict : Verdict site request _ g := settled_verdict reclaim failed
    simp only [List.map_cons, List.map_append]
    exact verdict
  | @unbuilt selected f accepted pooled missed stopped =>
    rw [trace_unbuilt accepted pooled missed stopped] at failed ⊢
    cases failed
    have calm : ∀ h ∈ [(searched answer request selected s).heard], h.halt? = none :=
      List.forall_mem_singleton.mpr (Heard.halt?_of_ok missed)
    have ordinary : ∀ h ∈ [(searched answer request selected s).heard], Ordinary h :=
      List.forall_mem_singleton.mpr (ordinary_of_operation nofun nofun)
    exact build_verdict calm ordinary stopped
  | @built selected i accepted pooled missed ok =>
    rw [trace_built accepted pooled missed ok] at failed ⊢
    have calm : ∀ h ∈ [(searched answer request selected s).heard], h.halt? = none :=
      List.forall_mem_singleton.mpr (Heard.halt?_of_ok missed)
    have verdict : Verdict site request (_ ++ [(Miss.last answer site request selected s i).heard]) g :=
      entered_verdict (build_calm calm ok) failed
    simp only [List.map_cons, List.map_append]
    exact verdict

end Verdicts

end Allocation

/-! ## 4. Other operations -/

section Upkeep

variable {σ α : Type} {answer : Answering (Timed Services) σ} {s : σ} {p : Workflow α}
  {objects : List Heard → Fault → Prop} {known : List (Heard → Prop)} {g : Fault}

theorem transition_halts {cid : UInt64} {before after : State} (allowed : before.allows after = true) :
    (Pool.transition cid before after).Halts objects known := by
  unfold Pool.transition
  rw [if_pos allowed]
  exact (halts_call rfl).inContext

theorem release_halts (cid : UInt64) : (Upkeep.release cid).Halts objects known := by
  refine (halts_call rfl).inContext.bind fun found => ?_
  cases found with
  | none =>
    refine (halts_call rfl).inContext.bind fun i => ?_
    exact (halts_call rfl).inContext
  | some entry =>
    refine Halts.inContext ?_
    unfold Pool.release
    by_cases free : entry.state = .free
    · rw [if_pos free]
      exact halts_done
    · rw [if_neg free]
      refine transition_halts ?_
      revert free
      cases entry.state <;> decide

theorem reboot_halts (waits : Waits) (cid : UInt64) : (Upkeep.reboot waits cid).Halts objects known := by
  refine (halts_call rfl).inContext.bind fun _ => ?_
  refine (await_halts waits (by decide)).inContext.bind fun _ => ?_
  refine (await_halts waits (by decide)).inContext.bind fun _ => ?_
  exact await_halts waits (by decide)

/-- A workflow that makes no objections tells of the fault at which it stopped. -/
def Relays (p : Workflow α) (answer : Answering (Timed Services) σ) (s : σ) (g : Fault) : Prop :=
  ∃ f, Halt (fun _ _ => False) ((p.trace answer s).exchanges.map Exchange.heard) f ∧ g.Conveys f

theorem Program.Halts.relays (h : p.Halts (fun _ _ => False) [])
    (failed : (p.trace answer s).result = .error g) : Relays p answer s g := by
  obtain ⟨f, more, halt⟩ := h.fault failed
  exact ⟨f, halt, more.conveys⟩

/-- Whether an instance exists is answered even where it is not found. -/
theorem exists_relays {cid : UInt64} (failed : ((Upkeep.exists? cid).trace answer s).result = .error g) :
    Relays (Upkeep.exists? cid) answer s g ∧ g.kind ≠ .instanceNotFound := by
  have judged : (Upkeep.exists? cid).Obeys hearing [] fun r heard => ∀ g, r = .error g →
      (∃ f, Halt (fun _ _ => False) heard f ∧ g.Conveys f) ∧ g.kind ≠ .instanceNotFound := by
    refine ⟨trivial, fun reply _ => ?_⟩
    cases reply with
    | ok i => exact fun g same => nomatch same
    | error f =>
      show (if f.kind = .instanceNotFound then done false
        else fail (f.inContext s!"checking whether instance {cid} exists") : Workflow Bool).Obeys hearing _ _
      by_cases missing : f.kind = .instanceNotFound
      · rw [if_pos missing]
        exact fun g same => nomatch same
      · rw [if_neg missing]
        intro g same
        cases same
        have halts : Heard.halt? ⟨(Cloud.Call.getInstance cid).query, .error f⟩ = some f :=
          Heard.halt?_of_not_over rfl
        exact ⟨⟨f, .answered rfl (List.forall_mem_nil _) halts,
          ((Fault.Extends.refl f).inContext _).conveys⟩, missing⟩
  have relayed := judged.trace (fun _ _ => trivial) g failed
  rw [stageAfter_hearing] at relayed
  exact relayed

/-! ## 5. Every operation -/

/-- **What the caller of a failed operation is told**: the fault at which it stopped, with more context,
    but for orders that fail in the cloud and for claims that cannot be undone. -/
theorem faults_reach_caller (answer : Answering (Timed Services) σ) (s : σ) :
    (∀ site request g, ((Allocation.run site request).trace answer s).result = .error g →
      Allocation.Verdict site request
        (((Allocation.run site request).trace answer s).exchanges.map Exchange.heard) g) ∧
    (∀ cid g, ((Upkeep.release cid).trace answer s).result = .error g →
      Relays (Upkeep.release cid) answer s g) ∧
    (∀ waits cid g, ((Upkeep.reboot waits cid).trace answer s).result = .error g →
      Relays (Upkeep.reboot waits cid) answer s g) ∧
    (∀ cid g, ((Upkeep.exists? cid).trace answer s).result = .error g →
      Relays (Upkeep.exists? cid) answer s g ∧ g.kind ≠ .instanceNotFound) :=
  ⟨fun _ _ _ => Allocation.allocation_verdict, fun cid _ => (release_halts cid).relays,
    fun waits cid _ => (reboot_halts waits cid).relays, fun _ _ => exists_relays⟩

end Upkeep

/-! ## 6. A claim that is not undone -/

namespace Sample

/-- Everybody but the registry is out of reach. -/
def unreachable : Answering (Timed Services) Unit
  | .now => fun s => (0, s)
  | .cancelled => fun s => (false, s)
  | .nap _ => fun s => (false, s)
  | .other .mark => fun s => ("", s)
  | .other (.call _) => fun s => (.error (.cloud "unreachable"), s)

/-- A registry that does not make the entry free again. -/
def holding : RegistryDouble := registry.failingUpdate 42 .free (.cloud "read only")

/-- The run of a request for the one free entry. -/
def held : Trace (Timed Services) (RegistryDouble × Unit) Instance :=
  (Allocation.run site outer).trace (overRegistry unreachable) (holding, ())

end Sample

/-- Neither the instance nor the registry can be reached again, and the caller is told of both. -/
theorem faults_reach_caller_where_held :
    ∃ g, Sample.held.result = .error g ∧
      Allocation.Verdict Sample.site Sample.outer (Sample.held.exchanges.map Exchange.heard) g ∧
      g.kind = .poolInconsistent ∧ g.secondary.map (·.message) = some "read only" :=
  have stopped : Sample.held.result = .error _ := rfl
  ⟨_, stopped, (faults_reach_caller _ _).1 _ _ _ stopped, rfl, rfl⟩

end InstancePool
