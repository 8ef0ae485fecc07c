import InstancePool.Proofs.Footprint
import InstancePool.Proofs.Ledger
import InstancePool.Proofs.Protocols
import InstancePool.Rest.RegistryApi

/-!
# The compare-and-swap over HTTP

A registry that is reached over HTTP can only compare what it is sent. Here the calls of the workflows are
followed to the requests that make them, while the other side answers each request as it likes: with any
status, any body, or not at all.

* `RegistryApi.request`, `RegistryApi.verdict`, `answer_eq`: a call is one request, and the answer is what
  its reply is worth;
* `verdict_conflict`, `verdict_granted`, `verdict_found`: what an answer tells of the reply;
* `overRegistryApi`, `wire`: a registry over HTTP next to whoever answers all else, and what is sent to it;
* `Allocation.ReloadClaimed`, `Allocation.reload_claimed`: what came before a reload, whoever answers;
* `SwapsOverHttp`, `swaps_over_http`: what is sent on behalf of a task, and what becomes of the replies.
-/

namespace InstancePool

open Json (encode)
open Pool (Entry State)

/-! ## 1. One call, one request -/

namespace Http

/-- A request, and what came of it. -/
structure Sent where
  request : Request
  reply : Reply

/-- The status of the response reports success. -/
def Sent.Granted (m : Sent) : Prop :=
  ∃ status body, m.reply = .response status body ∧ isSuccess status = true

/-- The response reports success, and these entries stand in its body. -/
def Sent.Finds (m : Sent) (entries : List Entry) : Prop :=
  ∃ status text, m.reply = .response status (.complete text) ∧ isSuccess status = true ∧
    Json.decode (List Entry) text = some entries

/-- The request of an exchange, and what came of it. -/
def sent? {σ : Type} : Exchange Http σ → Option Sent
  | ⟨.send request, reply, _, _⟩ => some ⟨request, reply⟩
  | ⟨.timeOfDay, _, _, _⟩ => none

end Http

namespace Rest.RegistryApi

/-- The request that makes a call. -/
def request (base : String) : Registry.Call → Http.Request
  | .findEntries filter =>
    { method := .post, url := s!"{base}/vms/filter", body := some (encode filter) }
  | .addEntry entry => { method := .post, url := s!"{base}/vms", body := some (encode entry) }
  | .updateState cid expected next =>
    { method := .put, url := s!"{base}/vms/{cid}/state", body := some (change expected next) }
  | .getEntry cid => { method := .get, url := s!"{base}/vms/{cid}" }

/-- What a call is answered with where the registry knows nothing, if that is no fault. -/
def absent : (call : Registry.Call) → Option call.operation.Result
  | .findEntries _ => some []
  | .addEntry _ => none
  | .updateState _ _ _ => none
  | .getEntry _ => some none

/-- The value in the body of a reply that reports success. -/
def readBody : (call : Registry.Call) → Http.Body → call.Answer
  | .findEntries _ => valueOf (.list Json.Wire.read)
  | .addEntry _ => fun _ => .ok ()
  | .updateState _ _ _ => fun _ => .ok ()
  | .getEntry _ => fun body => (valueOf Json.Wire.read body).map some

/-- What the reply to a call is worth. -/
def verdict (call : Registry.Call) : Http.Reply → call.Answer :=
  accept call.operation (absent call) (readBody call)

/-- The request of a call, and what comes of it. -/
def sent {σ : Type} (base : String) (http : Answering Http σ) (call : Registry.Call) (s : σ) : Http.Sent where
  request := request base call
  reply := (http (.send (request base call)) s).1

/-- **A call is one request**, and its answer is what the reply is worth. -/
theorem answer_eq (base : String) (call : Registry.Call) :
    answer base call = .ask (.send (request base call)) fun reply => .ofExcept (verdict call reply) := by
  cases call <;> rfl

/-- The request that changes a state from one to another. -/
def swap (base : String) (cid : UInt64) (now next : State) : Http.Request where
  method := .put
  url := s!"{base}/vms/{cid}/state"
  body := some (.obj [("state", .str next.name), ("expected_state", .str now.name)])

section Requests

variable {base : String} {call : Registry.Call}

theorem filter_ne (base : String) : s!"{base}/vms/filter" ≠ s!"{base}/vms" := by
  intro same
  have tails : ("/vms/filter" : String) = "/vms" := String.append_right_inj _ |>.mp same
  exact absurd tails (by decide)

/-- A lawful change of a state is sent with the state that it expects. -/
theorem request_put (put : (request base call).method = .put) (lawful : call.Lawful) :
    ∃ cid now next, request base call = swap base cid now next ∧ (now, next) ∈ State.edges := by
  cases call with
  | updateState cid expected next =>
    obtain ⟨now, rfl, allowed⟩ := lawful
    exact ⟨cid, now, next, rfl, State.mem_edges allowed⟩
  | _ => cases put

/-- A request that changes a state or adds an entry leaves no room for an absent one. -/
theorem absent_of_writes (writes : (request base call).method = .put ∨
    (request base call).method = .post ∧ (request base call).url = s!"{base}/vms") :
    absent call = none := by
  cases call with
  | findEntries filter =>
    rcases writes with put | ⟨-, url⟩
    · cases put
    · exact absurd url (filter_ne base)
  | getEntry cid => rcases writes with put | ⟨post, -⟩ <;> contradiction
  | _ => rfl

/-- A request that searches is that of a search. -/
theorem request_search (post : (request base call).method = .post)
    (url : (request base call).url = s!"{base}/vms/filter") : ∃ filter, call = .findEntries filter := by
  cases call with
  | findEntries filter => exact ⟨filter, rfl⟩
  | addEntry entry => exact absurd url.symm (filter_ne base)
  | _ => cases post

end Requests

section Verdicts

variable {call : Registry.Call} {reply : Http.Reply}

/-- A conflict is reported as one, whatever was called and whatever the body says. -/
theorem verdict_conflict {status : Nat} (conflict : status = 409 ∨ status = 412) (body : Http.Body) :
    ∃ f, verdict call (.response status body) = .error f ∧ f.kind = .poolConflict := by
  have known : ((absent call).filter fun _ => status = 404) = none := by
    have other : status ≠ 404 := by omega
    cases absent call <;> simp [other]
  have failed : Http.isSuccess status = false := by
    rcases conflict with rfl | rfl <;> rfl
  have kind : kindOf status = .poolConflict := by
    rcases conflict with rfl | rfl <;> rfl
  refine ⟨refused call.operation status body, ?_, kind⟩
  unfold verdict accept
  dsimp only
  rw [known, failed]
  rfl

/-- An answer that is good is what was absent, or comes of a response that reports success. -/
theorem verdict_ok {a : call.operation.Result} (ok : verdict call reply = .ok a) :
    ∃ status body, reply = .response status body ∧
      (absent call = some a ∨ Http.isSuccess status = true ∧ readBody call body = .ok a) := by
  cases reply with
  | lost reason => cases ok
  | response status body =>
    refine ⟨status, body, rfl, ?_⟩
    unfold verdict accept at ok
    dsimp only at ok
    split at ok
    · rename_i value known
      cases ok
      exact .inl (Option.filter_eq_some_iff.mp known).1
    · split at ok
      · rename_i success
        exact .inr ⟨success, ok⟩
      · cases ok

/-- A value is read only from a body that is complete. -/
theorem valueOf_ok {α : Type} {read : Json.Reader α} {body : Http.Body} {a : α}
    (ok : valueOf read body = .ok a) : ∃ text, body = .complete text ∧ read.run text = some a := by
  cases body with
  | broken reason => cases ok
  | complete text =>
    unfold valueOf at ok
    dsimp only at ok
    split at ok
    · rename_i value decoded
      cases ok
      exact ⟨text, rfl, decoded⟩
    · cases ok

/-- A write counts as done only if the response reports success. -/
theorem verdict_granted (writes : absent call = none) {a : call.operation.Result}
    (ok : verdict call reply = .ok a) (request : Http.Request) : (Http.Sent.mk request reply).Granted := by
  obtain ⟨status, body, same, known | ⟨success, -⟩⟩ := verdict_ok ok
  · cases writes.symm.trans known
  · exact ⟨status, body, same, success⟩

/-- Entries are found only in the body of a response that reports success. -/
theorem verdict_found {filter : Pool.Filter} {entry : Entry} {rest : List Entry}
    (ok : verdict (.findEntries filter) reply = .ok (entry :: rest)) (request : Http.Request) :
    (Http.Sent.mk request reply).Finds (entry :: rest) := by
  obtain ⟨status, body, rfl, known | ⟨success, read⟩⟩ := verdict_ok ok
  · cases known
  · obtain ⟨text, rfl, decoded⟩ := valueOf_ok read
    exact ⟨status, text, rfl, success, decoded⟩

end Verdicts

end Rest.RegistryApi

/-! ## 2. A registry over HTTP -/

section Wire

variable {σ : Type}

/-- The registry of the pool over HTTP, next to whoever answers all else. -/
def overRegistryApi (base : String) (http : Answering Http σ) (others : Answering (Timed Services) σ) :
    Answering (Timed Services) σ
  | .other (.call (.registry call)) => (Rest.RegistryApi.answer base call).run http
  | q => others q

/-- What is sent to the registry in an exchange of a workflow, and what comes back. -/
def wire (base : String) (http : Answering Http σ) (e : Exchange (Timed Services) σ) : List Http.Sent :=
  match e.query with
  | .other (.call (.registry call)) =>
    ((Rest.RegistryApi.answer base call).trace http e.before).exchanges.filterMap Http.sent?
  | _ => []

variable {base : String} {http : Answering Http σ} {others : Answering (Timed Services) σ}

/-- Other exchanges send nothing to the registry. -/
theorem wire_eq_nil {e : Exchange (Timed Services) σ} (silent : ∀ c : Registry.Call, e.query ≠ c.query) :
    wire base http e = [] := by
  unfold wire
  split
  · rename_i call same
    exact absurd same (silent call)
  · rfl

/-- **A call to the registry** sends its request, -/
theorem wire_exchange (call : Registry.Call) (s : σ) :
    wire base http ((overRegistryApi base http others).exchange call.query s) =
      [Rest.RegistryApi.sent base http call s] := by
  show ((Rest.RegistryApi.answer base call).trace http s).exchanges.filterMap Http.sent? = _
  rw [Rest.RegistryApi.answer_eq, Program.trace_ask, Program.trace_ofExcept]
  rfl

/-- and is answered with what the reply is worth. -/
theorem reply_exchange (call : Registry.Call) (s : σ) :
    ((overRegistryApi base http others).exchange call.query s).reply =
      Rest.RegistryApi.verdict call (Rest.RegistryApi.sent base http call s).reply := by
  have run : ((Rest.RegistryApi.answer base call).run http).run s = _ := Program.run_eq_trace
  refine (congrArg Prod.fst run).trans ?_
  rw [Rest.RegistryApi.answer_eq, Program.trace_ask, Program.trace_ofExcept]
  rfl

/-- What is sent to the registry is the request of a call. -/
theorem wire_mem {q : (Timed Services).Query} {s : σ} {m : Http.Sent}
    (sent : m ∈ wire base http ((overRegistryApi base http others).exchange q s)) :
    ∃ call : Registry.Call, q = call.query ∧ m = Rest.RegistryApi.sent base http call s := by
  by_cases calls : ∃ call : Registry.Call, q = call.query
  · obtain ⟨call, rfl⟩ := calls
    rw [wire_exchange call s] at sent
    exact ⟨call, rfl, List.mem_singleton.mp sent⟩
  · rw [wire_eq_nil fun call same => calls ⟨call, same⟩] at sent
    cases sent

end Wire

/-! ## 3. Before a reload -/

section Reloads

variable {σ : Type} {answer : Answering (Timed Services) σ} {site : Site} {request : Request}
  {selected : Networks} {s : σ} {before after : List (Exchange (Timed Services) σ)}
  {e : Exchange (Timed Services) σ} {c cid : UInt64} {stemcell : Stemcell}

/-- A question that reloads no instance but one. -/
def ReloadsOnly (cid : UInt64) (q : (Timed Services).Query) : Prop :=
  ∀ other stemcell, q = (Cloud.Call.reloadOs other stemcell).query → other = cid

/-- A question that reloads no instance. -/
def ReloadsNone (q : (Timed Services).Query) : Prop :=
  ∀ other stemcell, q ≠ (Cloud.Call.reloadOs other stemcell).query

/-- An instance that was found is the only one that is reloaded. -/
theorem renew_reloadsOnly (found : Instance) :
    ∀ e ∈ ((Reclaim.renew site request selected found).trace answer s).exchanges,
      ReloadsOnly found.cid e.query := by
  have tends : Tends (Discipline.only (ReloadsOnly found.cid)) () fun _ => True :=
    tends_only fun q ⟨cid, concerns⟩ other stemcell same => by
      subst same
      cases concerns
  have reloads : (Discipline.only (ReloadsOnly found.cid)).Quiet ()
      (Cloud.Call.reloadOs found.cid request.stemcell).query := by
    refine ⟨fun other stemcell same => ?_, fun _ => rfl⟩
    cases same
    rfl
  exact Program.Stays.asks (stays_renew tends trivial site request selected reloads)

/-- A reclaim reloads the instance that it was told of when it asked for its own. -/
theorem reclaimed_reloads
    (split : (Allocation.reclaimed answer site request selected c s).exchanges = before ++ e :: after)
    (reloads : e.query = (Cloud.Call.reloadOs cid stemcell).query) :
    ∃ report ∈ before, report.query = (Cloud.Call.getInstance c).query ∧
      met? report.query report.reply = some cid := by
  let report := answer.exchange (Cloud.Call.getInstance c).query s
  have other : e ≠ report := by
    intro same
    rw [same] at reloads
    cases reloads
  have located : (Reclaim.locate (.cid c)).trace answer s =
      ⟨Except.mapError _ report.reply, report.after, [report]⟩ := trace_framed _ _
  cases told : report.reply with
  | error f =>
    have run : (Allocation.reclaimed answer site request selected c s).exchanges = [report] := by
      unfold Allocation.reclaimed
      rw [Reclaim.run_eq, Program.trace_bind, located, told]
      rfl
    rw [run] at split
    have mem : e ∈ [report] := split ▸ List.mem_append_right _ List.mem_cons_self
    exact absurd (List.mem_singleton.mp mem) other
  | ok i =>
    have run : (Allocation.reclaimed answer site request selected c s).exchanges =
        report :: ((Reclaim.renew site request selected i).trace answer report.after).exchanges := by
      unfold Allocation.reclaimed
      rw [Reclaim.run_eq, Program.trace_bind, located, told]
      rfl
    rw [run] at split
    cases before with
    | nil => exact absurd (List.cons.inj split).1.symm other
    | cons first during =>
      obtain ⟨rfl, rest⟩ := List.cons.inj split
      have mem : e ∈ ((Reclaim.renew site request selected i).trace answer report.after).exchanges :=
        rest ▸ List.mem_append_right _ List.mem_cons_self
      have own : cid = i.cid := renew_reloadsOnly i e mem cid stemcell reloads
      refine ⟨report, List.mem_cons_self, rfl, ?_⟩
      show met? (Cloud.Call.getInstance c).query report.reply = some cid
      rw [told, own]
      rfl

/-- An allocation that found no entry reloads nothing. -/
theorem miss_reloads_nothing (accepted : Networks.select request.networks = .ok selected)
    (pooled : selected.fixedIp = none)
    (missed : (Allocation.searched answer request selected s).reply = .ok []) :
    ∀ e ∈ ((Allocation.run site request).trace answer s).exchanges,
      e.query ≠ (Cloud.Call.reloadOs cid stemcell).query := by
  intro e mem reloads
  obtain ⟨later, all, tended⟩ : ∃ later, operations ((Allocation.run site request).trace answer s).exchanges =
    _ :: _ :: later ∧ _ := miss_operations accepted pooled missed
  refine (orders_once tended).2.1 ?_
  rw [← all]
  exact mem_operations.mpr ⟨e, mem, .cloud (.reloadOs cid stemcell), congrArg callOf? reloads, rfl⟩

theorem split_cons {α : Type} {a x : α} {l first later : List α} (other : x ≠ a)
    (split : a :: l = first ++ x :: later) : ∃ rest, first = a :: rest ∧ l = rest ++ x :: later := by
  cases first with
  | nil => exact absurd (List.cons.inj split).1.symm other
  | cons b rest =>
    obtain ⟨rfl, same⟩ := List.cons.inj split
    exact ⟨rest, rfl, same⟩

theorem split_concat {α : Type} {a x : α} {l first later : List α} (other : x ≠ a)
    (split : l ++ [a] = first ++ x :: later) : ∃ rest, l = first ++ x :: rest := by
  rcases List.eq_nil_or_concat later with rfl | ⟨rest, b, rfl⟩
  · exact absurd (List.singleton_inj.mp (List.append_inj' split rfl).2).symm other
  · have same : l ++ [a] = (first ++ x :: rest) ++ [b] := by simpa using split
    exact ⟨rest, (List.append_inj' same rfl).1⟩

/-- What came before the reload of an instance in a run that began with a search of the pool. -/
structure Allocation.ReloadClaimed (answer : Answering (Timed Services) σ) (request : Request)
    (s : σ) (selected : Networks) (es before : List (Exchange (Timed Services) σ)) (cid : UInt64) : Prop where
  /-- There was no other search. -/
  alone : ∀ e ∈ es, ∀ filter, e.query = (Registry.Call.findEntries filter).query →
    e = searched answer request selected s
  /-- The first entry that was found was claimed, and its instance was asked for. -/
  claimed : ∃ entry rest, (searched answer request selected s).reply = .ok (entry :: rest) ∧
    Hit.claim answer request selected entry.cid s ∈ before ∧
    (Hit.claim answer request selected entry.cid s).reply = .ok () ∧
    ∃ report ∈ before, report.query = (Cloud.Call.getInstance entry.cid).query ∧
      met? report.query report.reply = some cid

/-- **A reload** comes after a claim, or in a run that asks nothing of the registry. -/
theorem Allocation.reload_claimed
    (split : ((run site request).trace answer s).exchanges = before ++ e :: after)
    (reloads : e.query = (Cloud.Call.reloadOs cid stemcell).query) :
    (∀ e ∈ ((run site request).trace answer s).exchanges, ∀ call : Registry.Call, e.query ≠ call.query) ∨
      ∃ selected, ReloadClaimed answer request s selected ((run site request).trace answer s).exchanges
        before cid := by
  have mem : e ∈ ((run site request).trace answer s).exchanges :=
    split ▸ List.mem_append_right _ List.mem_cons_self
  have taken : Course answer site request s := course answer site request s
  cases taken with
  | invalid refused =>
    rw [trace_invalid refused] at mem
    cases mem
  | fixed accepted pinned =>
    rw [trace_fixed accepted pinned]
    exact .inl fun e he => (reclaim_asks (.ip _) e he).not_registry
  | unsearched accepted pooled failed =>
    rw [trace_unsearched accepted pooled failed] at mem
    cases List.mem_singleton.mp mem
    cases reloads
  | denied accepted pooled found refused =>
    rw [trace_denied accepted pooled found refused] at mem
    rcases List.mem_cons.mp mem with rfl | mem
    · cases reloads
    · cases List.mem_singleton.mp mem
      cases reloads
  | @reused selected entry rest accepted pooled found granted =>
    rw [trace_reused accepted pooled found granted] at split ⊢
    refine .inr ⟨selected, fun e' he filter searches => ?_, entry, rest, found, ?_⟩
    · rcases List.mem_cons.mp he with same | he
      · exact same
      · refine absurd searches ?_
        rcases List.mem_cons.mp he with rfl | he
        · exact nofun
        · rcases List.mem_append.mp he with he | he
          · exact (reclaim_asks (.cid entry.cid) e' he).not_registry _
          · cases List.mem_singleton.mp he
            exact nofun
    · have other : ∀ (call : Registry.Call) (s' : σ), e ≠ answer.exchange call.query s' := by
        rintro call s' rfl
        cases reloads
      obtain ⟨_, rfl, claimed⟩ := split_cons (other _ _) split
      obtain ⟨during, rfl, reclaimed⟩ := split_cons (other _ _) claimed
      obtain ⟨_, ended⟩ := split_concat (other _ _) reclaimed
      obtain ⟨report, asked, told⟩ := reclaimed_reloads ended reloads
      exact ⟨List.mem_cons_of_mem _ List.mem_cons_self, granted, report,
        List.mem_cons_of_mem _ (List.mem_cons_of_mem _ asked), told⟩
  | unbuilt accepted pooled missed failed =>
    exact absurd reloads (miss_reloads_nothing accepted pooled missed e mem)
  | built accepted pooled missed ok =>
    exact absurd reloads (miss_reloads_nothing accepted pooled missed e mem)

/-- Who gives an instance back reloads nothing. -/
theorem release_reloads_nothing (cid : UInt64) :
    ∀ e ∈ ((Upkeep.release cid).trace answer s).exchanges, ReloadsNone e.query := by
  intro e he other stemcell reloads
  have asks : Upkeep.Asks cid e.query := release_asks cid e he
  rw [reloads] at asks
  cases asks

end Reloads

/-! ## 4. What is sent -/

section Sent

variable {σ : Type}

section Statement

variable (base : String) (http : Answering Http σ)

/-- An entry was claimed over HTTP: a request to change its state from free to being prepared was
    granted. -/
def ClaimedOverHttp (es : List (Exchange (Timed Services) σ)) (cid : UInt64) : Prop :=
  ∃ m ∈ es.flatMap (wire base http),
    m.request = Rest.RegistryApi.swap base cid .free .provisioning ∧ m.Granted

/-- What some exchanges with a registry over HTTP show of the compare-and-swap. -/
structure SwapsOverHttp (es : List (Exchange (Timed Services) σ)) : Prop where
  /-- Every change of a state is sent with the state that it is expected to change, and it is one of the
      four that there are. -/
  swaps : ∀ m ∈ es.flatMap (wire base http), m.request.method = .put →
    ∃ cid now next, m.request = Rest.RegistryApi.swap base cid now next ∧ (now, next) ∈ State.edges
  /-- A conflict is reported as one. -/
  conflicts : ∀ e ∈ es, ∀ m ∈ wire base http e, ∀ status body, m.reply = .response status body →
    status = 409 ∨ status = 412 → ∃ f, faultOf? e.query e.reply = some f ∧ f.kind = .poolConflict
  /-- Nothing that is sent to change a state or to add an entry counts as done unless the response reports
      success. -/
  granted : ∀ e ∈ es, ∀ m ∈ wire base http e,
    m.request.method = .put ∨ m.request.method = .post ∧ m.request.url = s!"{base}/vms" →
      faultOf? e.query e.reply = none → m.Granted
  /-- Where the pool was searched, an instance is reloaded only after the first entry in the response was
      claimed, in whatever state it was said to be, and only the instance that was reported for it. -/
  reloads : ∀ m ∈ es.flatMap (wire base http), m.request.method = .post →
    m.request.url = s!"{base}/vms/filter" → ∀ before e after cid stemcell, es = before ++ e :: after →
      e.query = (Cloud.Call.reloadOs cid stemcell).query →
        ∃ entry rest, m.Finds (entry :: rest) ∧ ClaimedOverHttp base http before entry.cid ∧
          ∃ report ∈ before, report.query = (Cloud.Call.getInstance entry.cid).query ∧
            met? report.query report.reply = some cid
  /-- So an entry that is reloaded has been claimed itself, as long as a report is on the instance that
      was asked about. -/
  own : (∀ e ∈ es, Truthful e) → ∀ m ∈ es.flatMap (wire base http), m.request.method = .post →
    m.request.url = s!"{base}/vms/filter" → ∀ before e after cid stemcell, es = before ++ e :: after →
      e.query = (Cloud.Call.reloadOs cid stemcell).query → ClaimedOverHttp base http before cid

end Statement

variable {base : String} {http : Answering Http σ} {others : Answering (Timed Services) σ} {s : σ}

/-- A program that is followed by no further question. -/
theorem exchanges_bind_done {I : Interface} {answer : Answering I σ} {α β : Type} {p : Program I α}
    {f : α → β} {s : σ} :
    ((p.bind fun a => .done (f a)).trace answer s).exchanges = (p.trace answer s).exchanges := by
  rw [Program.trace_bind]
  split
  · exact List.append_nil _
  · rfl

/-- A report that can be counted on is on the instance that was asked about. -/
theorem Truthful.met {e : Exchange (Timed Services) σ} {c cid : UInt64} (truthful : Truthful e)
    (asked : e.query = (Cloud.Call.getInstance c).query) (told : met? e.query e.reply = some cid) :
    cid = c := by
  obtain ⟨query, reply, before, after⟩ := e
  subst asked
  cases reply with
  | error f => cases told
  | ok i =>
    cases told
    exact truthful

/-- Every task asks what a ledger allows. -/
theorem lawful_asks {answer : Answering (Timed Services) σ} (task : Task) (s : σ) :
    ∀ e ∈ (task.workflow.trace answer s).exchanges, lawful.may () e.query := by
  have follows : lawful.Follows () (task.workflow.trace answer s).exchanges :=
    (Program.stays_iff.mp (lawful_workflow task)).follows fun _ _ => trivial
  exact fun e he => (follows.may e he).elim fun _ allowed => allowed

/-- A task that has searched the pool reloads an instance only under a claim. -/
theorem task_reload_claimed {answer : Answering (Timed Services) σ} {task : Task}
    {before after : List (Exchange (Timed Services) σ)} {e : Exchange (Timed Services) σ} {cid : UInt64}
    {stemcell : Stemcell} (split : (task.workflow.trace answer s).exchanges = before ++ e :: after)
    (reloads : e.query = (Cloud.Call.reloadOs cid stemcell).query) :
    (∀ e ∈ (task.workflow.trace answer s).exchanges, ∀ call : Registry.Call, e.query ≠ call.query) ∨
      ∃ request selected, Allocation.ReloadClaimed answer request s selected
        (task.workflow.trace answer s).exchanges before cid := by
  cases task with
  | create site request =>
    have same : ((Task.create site request).workflow.trace answer s).exchanges =
        ((Allocation.run site request).trace answer s).exchanges := exchanges_bind_done
    rw [same] at split ⊢
    exact (Allocation.reload_claimed split reloads).imp_right fun claimed => ⟨request, claimed⟩
  | release c =>
    have same : ((Task.release c).workflow.trace answer s).exchanges =
        ((Upkeep.release c).trace answer s).exchanges := exchanges_bind_done
    rw [same] at split
    have mem : e ∈ ((Upkeep.release c).trace answer s).exchanges :=
      split ▸ List.mem_append_right _ List.mem_cons_self
    exact absurd reloads (release_reloads_nothing c e mem cid stemcell)

/-- What is sent comes of a call. -/
theorem sent_mem {m : Http.Sent} {es : List (Exchange (Timed Services) σ)}
    (made : ∀ e ∈ es, ∃ q s', e = (overRegistryApi base http others).exchange q s')
    (sent : m ∈ es.flatMap (wire base http)) :
    ∃ call s', (overRegistryApi base http others).exchange (Registry.Call.query call) s' ∈ es ∧
      m = Rest.RegistryApi.sent base http call s' := by
  obtain ⟨e, he, sent⟩ := List.mem_flatMap.mp sent
  obtain ⟨q, s', rfl⟩ := made e he
  obtain ⟨call, rfl, same⟩ := wire_mem sent
  exact ⟨call, s', he, same⟩

/-- A claim that was granted to a workflow was granted over HTTP. -/
theorem claimed_of_granted {cid : UInt64} {s' : σ} {es : List (Exchange (Timed Services) σ)}
    (mem : Allocation.claimed (overRegistryApi base http others) cid s' ∈ es)
    (granted : (Allocation.claimed (overRegistryApi base http others) cid s').reply = .ok ()) :
    ClaimedOverHttp base http es cid := by
  let call : Registry.Call := .updateState cid (some .free) .provisioning
  have sent : Rest.RegistryApi.sent base http call s' ∈
      wire base http ((overRegistryApi base http others).exchange call.query s') := by
    rw [wire_exchange]
    exact List.mem_singleton_self _
  have worth : Rest.RegistryApi.verdict call (Rest.RegistryApi.sent base http call s').reply = .ok () :=
    (reply_exchange call s').symm.trans granted
  exact ⟨_, List.mem_flatMap.mpr ⟨_, mem, sent⟩, rfl, Rest.RegistryApi.verdict_granted rfl worth _⟩

/-- **After a search**, a task reloads an instance only under a claim of the entry that it is reported for. -/
theorem reloads_claimed {task : Task} {m : Http.Sent}
    {before after : List (Exchange (Timed Services) σ)} {e : Exchange (Timed Services) σ} {cid : UInt64}
    {stemcell : Stemcell}
    (sent : m ∈ (task.workflow.trace (overRegistryApi base http others) s).exchanges.flatMap (wire base http))
    (post : m.request.method = .post) (url : m.request.url = s!"{base}/vms/filter")
    (split : (task.workflow.trace (overRegistryApi base http others) s).exchanges = before ++ e :: after)
    (reloads : e.query = (Cloud.Call.reloadOs cid stemcell).query) :
    ∃ entry rest, m.Finds (entry :: rest) ∧ ClaimedOverHttp base http before entry.cid ∧
      ∃ report ∈ before, report.query = (Cloud.Call.getInstance entry.cid).query ∧
        met? report.query report.reply = some cid := by
  obtain ⟨call, s', searched, rfl⟩ := sent_mem Program.exchanges_asked sent
  obtain ⟨filter, rfl⟩ := Rest.RegistryApi.request_search post url
  rcases task_reload_claimed split reloads with silent | ⟨request, selected, claimed⟩
  · exact absurd rfl (silent _ searched _)
  · obtain ⟨entry, rest, found, mem, granted, report⟩ := claimed.claimed
    refine ⟨entry, rest, ?_, claimed_of_granted mem granted, report⟩
    have same := claimed.alone _ searched filter rfl
    obtain rfl : s' = s := congrArg Exchange.before same
    obtain rfl : filter = request.filter selected := by
      have query := congrArg Exchange.query same
      cases query
      rfl
    exact Rest.RegistryApi.verdict_found ((reply_exchange _ s').symm.trans found) _

/-- **The compare-and-swap survives HTTP**, whatever is replied and whoever answers all else. -/
theorem swaps_over_http (base : String) (http : Answering Http σ)
    (others : Answering (Timed Services) σ) (task : Task) (s : σ) :
    SwapsOverHttp base http (task.workflow.trace (overRegistryApi base http others) s).exchanges := by
  let es := (task.workflow.trace (overRegistryApi base http others) s).exchanges
  have made : ∀ e ∈ es, ∃ q s', e = (overRegistryApi base http others).exchange q s' :=
    Program.exchanges_asked
  refine ⟨fun m sent put => ?_, fun e he m sent status body replied conflict => ?_,
    fun e he m sent writes done => ?_, fun m sent post url before e after cid stemcell split reloads => ?_,
    fun truthful m sent post url before e after cid stemcell split reloads => ?_⟩
  · obtain ⟨call, s', asked, rfl⟩ := sent_mem made sent
    exact Rest.RegistryApi.request_put put (lawful_asks task s _ asked)
  · obtain ⟨q, s', rfl⟩ := made e he
    obtain ⟨call, rfl, rfl⟩ := wire_mem sent
    obtain ⟨f, refused, kind⟩ : ∃ f, Rest.RegistryApi.verdict call (.response status body) = .error f ∧ _ :=
      Rest.RegistryApi.verdict_conflict conflict body
    refine ⟨f, faultOf?_eq_some.mpr ?_, kind⟩
    rw [reply_exchange, replied]
    exact refused
  · obtain ⟨q, s', rfl⟩ := made e he
    obtain ⟨call, rfl, rfl⟩ := wire_mem sent
    obtain ⟨a, ok⟩ := faultOf?_eq_none.mp done
    rw [reply_exchange] at ok
    exact Rest.RegistryApi.verdict_granted (Rest.RegistryApi.absent_of_writes writes) ok _
  · exact reloads_claimed sent post url split reloads
  · obtain ⟨entry, -, -, claimed, report, mem, asks, told⟩ := reloads_claimed sent post url split reloads
    have own : cid = entry.cid :=
      (truthful report (split ▸ List.mem_append_left _ mem)).met asks told
    rw [own]
    exact claimed

end Sent

end InstancePool
