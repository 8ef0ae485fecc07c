import InstancePool.Pool.Transition
import InstancePool.Upkeep
import InstancePool.Proofs.Tending
import InstancePool.Proofs.Traces

/-!
# Calls in a trace

The questions of a workflow are calls to the registry and to the cloud, and some about time and names.

* `registryCalls`, `cloudCalls`, `operations`: the calls among the exchanges of a trace;
* `Call.named?`: the instance that a call names; `faultOf?`: the fault that it is answered with;
* `trace_framed`, `trace_transition`: the trace of one call;
* `Tended`, `Reclaim.Asks`, `reclaim_asks`: what is asked while an instance is tended or reclaimed;
* `Upkeep.Asks`, `release_asks`: what is asked while one is given back;
* `reaches_awaitWithin`: a wait whose condition holds at once.
-/

namespace InstancePool

open Pool (Entry State)

variable {σ α : Type}

/-! ## 1. Calls in a trace -/

/-- The question that makes a call to the registry. -/
@[reducible] def Registry.Call.query (c : Registry.Call) : (Timed Services).Query :=
  .other (.call (.registry c))

/-- The question that makes a call to the cloud. -/
@[reducible] def Cloud.Call.query (c : Cloud.Call) : (Timed Services).Query :=
  .other (.call (.cloud c))

/-- The call that a question makes. -/
def callOf? : (Timed Services).Query → Option Call
  | .other (.call c) => some c
  | _ => none

/-- The call to the registry that a call is. -/
def Call.registry? : Call → Option Registry.Call
  | registry c => some c
  | _ => none

/-- The call to the cloud that a call is. -/
def Call.cloud? : Call → Option Cloud.Call
  | cloud c => some c
  | _ => none

/-- The instance that a call names. -/
def Call.named? : Call → Option UInt64
  | cloud (.reloadOs cid _) => some cid
  | cloud (.reboot cid) => some cid
  | cloud call => call.tended?
  | registry (.updateState cid _ _) => some cid
  | registry (.getEntry cid) => some cid
  | registry (.addEntry entry) => some entry.cid
  | registry (.findEntries _) => none
  | hostAlias _ _ => none

/-- The calls among some exchanges, in order. -/
def calls (es : List (Exchange (Timed Services) σ)) : List Call := es.filterMap (callOf? ·.query)

/-- The calls to the registry among some exchanges. -/
def registryCalls (es : List (Exchange (Timed Services) σ)) : List Registry.Call :=
  (calls es).filterMap Call.registry?

/-- The calls to the cloud among some exchanges. -/
def cloudCalls (es : List (Exchange (Timed Services) σ)) : List Cloud.Call :=
  (calls es).filterMap Call.cloud?

/-- The operations that some exchanges ask for. -/
def operations (es : List (Exchange (Timed Services) σ)) : List Operation :=
  (calls es).map Call.operation

/-- The fault that a question is answered with, if it is a call that fails. -/
def faultOf? : (q : (Timed Services).Query) → (Timed Services).Reply q → Option Fault
  | .other (.call _), .error f => some f
  | _, _ => none

theorem faultOf?_eq_some {c : Call} {reply : c.Answer} {f : Fault} :
    faultOf? (.other (.call c)) reply = some f ↔ reply = .error f := by
  cases reply with
  | ok _ => exact ⟨fun h => (nomatch h), fun h => (nomatch h)⟩
  | error g => exact ⟨fun h => congrArg Except.error (Option.some.inj h),
      fun h => congrArg some (Except.error.inj h)⟩

theorem faultOf?_eq_none {c : Call} {reply : c.Answer} :
    faultOf? (.other (.call c)) reply = none ↔ ∃ a, reply = .ok a := by
  cases reply with
  | ok a => exact ⟨fun _ => ⟨a, rfl⟩, fun _ => rfl⟩
  | error f => exact ⟨fun h => (nomatch h), fun ⟨_, h⟩ => (nomatch h)⟩

/-- Only a call can fail. -/
theorem faultOf?_of_silent {q : (Timed Services).Query} {reply : (Timed Services).Reply q}
    (silent : callOf? q = none) : faultOf? q reply = none := by
  cases q with
  | other q =>
    cases q with
    | call c => cases silent
    | mark => rfl
  | _ => rfl

section Projections

variable {es later : List (Exchange (Timed Services) σ)}

theorem calls_append : calls (es ++ later) = calls es ++ calls later := List.filterMap_append

theorem registryCalls_append : registryCalls (es ++ later) = registryCalls es ++ registryCalls later := by
  unfold registryCalls
  rw [calls_append, List.filterMap_append]

theorem operations_append : operations (es ++ later) = operations es ++ operations later := by
  unfold operations
  rw [calls_append, List.map_append]

theorem mem_operations {op : Operation} :
    op ∈ operations es ↔ ∃ e ∈ es, ∃ c, callOf? e.query = some c ∧ c.operation = op := by
  unfold operations calls
  rw [List.mem_map]
  refine ⟨?_, ?_⟩
  · rintro ⟨c, hc, same⟩
    obtain ⟨e, he, asks⟩ := List.mem_filterMap.mp hc
    exact ⟨e, he, c, asks, same⟩
  · rintro ⟨e, he, c, asks, same⟩
    exact ⟨c, List.mem_filterMap.mpr ⟨e, he, asks⟩, same⟩

theorem mem_cloudCalls {c : Cloud.Call} (member : c ∈ cloudCalls es) :
    ∃ e ∈ es, callOf? e.query = some (.cloud c) := by
  obtain ⟨call, called, cloud⟩ := List.mem_filterMap.mp member
  obtain ⟨e, he, asks⟩ := List.mem_filterMap.mp called
  cases call <;> cases cloud
  exact ⟨e, he, asks⟩

theorem cloudCalls_append : cloudCalls (es ++ later) = cloudCalls es ++ cloudCalls later := by
  unfold cloudCalls
  rw [calls_append, List.filterMap_append]

/-- Whoever does not ask the registry makes no call to it. -/
theorem registryCalls_eq_nil (silent : ∀ e ∈ es, ∀ c : Registry.Call, e.query ≠ c.query) :
    registryCalls es = [] := by
  refine List.filterMap_eq_nil_iff.mpr fun call hc => ?_
  obtain ⟨e, he, asks⟩ := List.mem_filterMap.mp hc
  cases call with
  | registry c =>
    refine absurd ?_ (silent e he c)
    revert asks
    cases e.query with
    | other q =>
      cases q with
      | call c' =>
        intro asks
        cases asks
        rfl
      | mark => exact fun asks => nomatch asks
    | _ => exact fun asks => nomatch asks
  | _ => rfl

end Projections

section Calls

variable {answer : Answering (Timed Services) σ} {s : σ}

theorem trace_call (c : Call) :
    (Workflow.call c).trace answer s =
      ⟨(answer.exchange (.other (.call c)) s).reply, (answer.exchange (.other (.call c)) s).after,
        [answer.exchange (.other (.call c)) s]⟩ := by
  unfold Workflow.call
  rw [Program.trace_ask, Program.trace_ofExcept]
  rfl

/-- A call whose fault gets a frame. -/
theorem trace_framed (c : Call) (frame : String) :
    ((Workflow.call c).inContext frame).trace answer s =
      ⟨Except.mapError (·.inContext frame) (answer.exchange (.other (.call c)) s).reply,
        (answer.exchange (.other (.call c)) s).after, [answer.exchange (.other (.call c)) s]⟩ := by
  unfold Program.inContext
  rw [Program.trace_mapFault, trace_call]
  rfl

/-- A call that succeeds, and what follows it. -/
theorem trace_framed_bind_ok {c : Call} {frame : String} {β : Type}
    {next : c.operation.Result → Workflow β} {a : c.operation.Result}
    (answered : (answer.exchange (.other (.call c)) s).reply = .ok a) :
    let e := answer.exchange (.other (.call c)) s
    (((Workflow.call c).inContext frame).bind next).trace answer s =
      ((next a).trace answer e.after).precededBy [e] := by
  intro e
  have ok : ((Workflow.call c).trace answer s).result = .ok a := by rw [trace_call, answered]
  unfold Program.inContext
  rw [Program.trace_mapFault_bind_ok ok, trace_call]

/-- A call that fails is the end. -/
theorem trace_framed_bind_error {c : Call} {frame : String} {β : Type}
    {next : c.operation.Result → Workflow β} {f : Fault}
    (failed : (answer.exchange (.other (.call c)) s).reply = .error f) :
    let e := answer.exchange (.other (.call c)) s
    (((Workflow.call c).inContext frame).bind next).trace answer s =
      ⟨.error (f.inContext frame), e.after, [e]⟩ := by
  intro e
  have ended : (((Workflow.call c).inContext frame).trace answer s).result =
      .error (f.inContext frame) := by
    rw [trace_framed, failed]
    rfl
  rw [Program.trace_bind_error ended, trace_framed]

/-- A call with a frame before the rest of a workflow, as it is seen from a good end. -/
theorem trace_framed_bind_eq_ok {c : Call} {frame : String} {change : Fault → Fault} {β : Type}
    {next : c.operation.Result → Workflow β} {b : β} :
    (((((Workflow.call c).inContext frame).mapFault change).bind next).trace answer s).result = .ok b ↔
      ∃ a, (answer.exchange (.other (.call c)) s).reply = .ok a ∧
        ((next a).trace answer (answer.exchange (.other (.call c)) s).after).result = .ok b := by
  rw [Program.trace_mapFault_bind_eq_ok, trace_framed]
  refine exists_congr fun a => and_congr_left fun _ => ?_
  cases (answer.exchange (.other (.call c)) s).reply with
  | ok _ => exact Iff.rfl
  | error f => exact ⟨fun h => (nomatch h), fun h => (nomatch h)⟩

/-- A call with a frame before the rest of a workflow comes first. -/
theorem trace_framed_bind_exchanges {c : Call} {frame : String} {change : Fault → Fault} {β : Type}
    {next : c.operation.Result → Workflow β} :
    ∃ later, (((((Workflow.call c).inContext frame).mapFault change).bind next).trace answer s).exchanges =
      answer.exchange (.other (.call c)) s :: later := by
  rw [Program.trace_bind, Program.trace_mapFault, trace_framed]
  split
  · exact ⟨_, rfl⟩
  · exact ⟨[], rfl⟩

/-- A change of state is one call, whose fault gets a frame. -/
theorem trace_transition (cid : UInt64) {before after : State}
    (allowed : before.allows after = true) :
    (Pool.transition cid before after).trace answer s =
      ⟨Except.mapError (·.inContext s!"updating pool entry {cid} from {before} to {after}")
          (answer.exchange (Registry.Call.updateState cid (some before) after).query s).reply,
        (answer.exchange (Registry.Call.updateState cid (some before) after).query s).after,
        [answer.exchange (Registry.Call.updateState cid (some before) after).query s]⟩ := by
  unfold Pool.transition
  rw [if_pos allowed]
  exact trace_framed _ _

end Calls

/-! ## 2. What is asked of an instance -/

/-- A question about some instance that leaves its system alone, or one about time. -/
def Tended (q : (Timed Services).Query) : Prop := ∃ cid, Concerns cid q

/-- A question of a reclaim: the system of an instance is reinstalled, and one that is known by its
    address is looked up. -/
inductive Reclaim.Asks : (Timed Services).Query → Prop where
  | tend {q : (Timed Services).Query} (tended : Tended q) : Asks q
  | reload (cid : UInt64) (stemcell : Stemcell) : Asks (Cloud.Call.reloadOs cid stemcell).query
  | byPrivateIp (ip : Address) : Asks (Cloud.Call.instanceByPrivateIp ip).query
  | byPublicIp (ip : Address) : Asks (Cloud.Call.instanceByPublicIp ip).query

/-- Tending orders no instance, reinstalls none, and asks nothing of the registry. -/
theorem Tended.operation {q : (Timed Services).Query} (h : Tended q) {c : Call}
    (asks : callOf? q = some c) :
    c.operation ≠ .createInstance ∧ c.operation ≠ .reloadOs ∧ c.operation ≠ .updateState := by
  obtain ⟨cid, concerns⟩ := h
  cases q with
  | other q =>
    cases q with
    | mark => cases asks
    | call call =>
      cases asks
      cases c with
      | registry call => exact concerns.elim
      | hostAlias hostname ip => exact ⟨nofun, nofun, nofun⟩
      | cloud call =>
        cases call with
        | createInstance template => cases concerns
        | reloadOs cid stemcell => cases concerns
        | _ => exact ⟨nofun, nofun, nofun⟩
  | _ => cases asks

theorem Tended.not_registry {q : (Timed Services).Query} (h : Tended q) (c : Registry.Call) :
    q ≠ c.query := by
  rintro rfl
  exact h.choose_spec

/-- A reclaim makes no call to the registry. -/
theorem Reclaim.Asks.not_registry {q : (Timed Services).Query} (h : Reclaim.Asks q)
    (c : Registry.Call) : q ≠ c.query := by
  rintro rfl
  cases h with
  | tend tended => exact tended.not_registry c rfl

/-- Where all that is tended is allowed, any instance may be. -/
theorem tends_only {allowed : (Timed Services).Query → Prop} (h : ∀ q, Tended q → allowed q) :
    Tends (Discipline.only allowed) () fun _ => True where
  quiet cid _ q hq := ⟨h q ⟨cid, hq⟩, fun _ => rfl⟩
  truthful _ _ _ _ := trivial

section Asks

variable {answer : Answering (Timed Services) σ} {site : Site} {request : Request}
  {selected : Networks} {cid : UInt64} {s : σ} {q : (Timed Services).Query}

/-- **A reclaim asks nothing else**, whatever it is answered. -/
theorem reclaim_asks (target : Reclaim.Target) :
    ∀ e ∈ ((Reclaim.run site target request selected).trace answer s).exchanges,
      Reclaim.Asks e.query := by
  have tends : Tends (Discipline.only Reclaim.Asks) () fun _ => True := tends_only fun _ => .tend
  have located : (Reclaim.locate target).Stays (.only Reclaim.Asks) () fun _ => True := by
    cases target with
    | cid cid => exact ((stays_getInstance tends trivial).mono fun _ _ => trivial).inContext
    | ip ip =>
      refine Program.stays_ite (fun _ => ?_) fun _ => ?_
      · exact ((stays_call ⟨Reclaim.Asks.byPrivateIp ip, fun _ => rfl⟩).mono fun _ _ => trivial).inContext
      · exact ((stays_call ⟨Reclaim.Asks.byPublicIp ip, fun _ => rfl⟩).mono fun _ _ => trivial).inContext
  exact Program.Stays.asks (stays_reclaim tends target located
    (fun cid stemcell _ => ⟨Reclaim.Asks.reload cid stemcell, fun _ => rfl⟩) site request selected)

/-- A question of a release: one to the registry, or one for a report of the instance. -/
inductive Upkeep.Asks (cid : UInt64) : (Timed Services).Query → Prop where
  | registry (c : Registry.Call) : Asks cid c.query
  | report : Asks cid (Cloud.Call.getInstance cid).query

/-- **A release asks nothing else**, whatever it is answered. -/
theorem release_asks (cid : UInt64) :
    ∀ e ∈ ((Upkeep.release cid).trace answer s).exchanges, Upkeep.Asks cid e.query := by
  have asks : ∀ c : Call, Upkeep.Asks cid (.other (.call c)) →
      (Workflow.call c).Stays (.only (Upkeep.Asks cid)) () fun _ => True :=
    fun c allowed => (stays_call ⟨allowed, fun _ => rfl⟩).mono fun _ _ => trivial
  have moves : ∀ cid' before after,
      (Pool.transition cid' before after).Stays (.only (Upkeep.Asks cid)) () fun _ => True := by
    intro cid' before after
    unfold Pool.transition
    exact Program.stays_ite (fun _ => (asks _ (.registry _)).inContext) fun _ => Program.stays_fail
  have stays : (Upkeep.release cid).Stays (.only (Upkeep.Asks cid)) () fun _ => True := by
    refine (asks _ (.registry (.getEntry cid))).inContext.bind fun found _ => ?_
    cases found with
    | some entry =>
      exact (Program.stays_ite (fun _ => Program.stays_done trivial) fun _ => moves _ _ _).inContext
    | none =>
      refine (asks _ .report).inContext.bind fun i _ => ?_
      exact (asks _ (.registry (.addEntry _))).inContext
  exact stays.asks

end Asks

/-! ## 3. Waits that end at once -/

section Waits

variable {answer : Answering (Timed Services) σ} {cid : UInt64} {s s' : σ}

/-- A wait ends with its first poll, if that is answered by yes. -/
theorem reaches_pollFrom {poll : Workflow Bool} {interval started deadline earliest : Duration}
    {text : String} {idle : Nat} (going : (answer .cancelled s).1 = false)
    (met : poll.Reaches answer (answer .cancelled s).2 true s') :
    (Wait.pollFrom interval cid text started deadline poll earliest idle).Reaches answer s () s' := by
  unfold Wait.pollFrom
  refine Program.reaches_ask ?_
  rw [going]
  exact met.inContext.bind ⟨rfl, rfl⟩

/-- A condition that holds when it is first probed. -/
theorem reaches_awaitWithin {condition : Condition} {waits : Waits} {timeout : Duration}
    (grouped : condition ≠ .completed [])
    (going : (answer .cancelled (answer .now s).2).1 = false)
    (met : (condition.probe cid).Reaches answer (answer .cancelled (answer .now s).2).2 true s') :
    (condition.awaitWithin waits timeout cid).Reaches answer s () s' := by
  unfold Condition.awaitWithin
  rw [if_neg grouped]
  exact Program.reaches_ask (reaches_pollFrom going met)

end Waits

end InstancePool
