import Mathlib
import InstancePool.Proofs.Advice
import InstancePool.Rest.CloudApi

/-!
# Orders that were accepted

An order that the cloud accepted costs money, so a caller must not be told that it may simply order
again. Over HTTP the cloud accepts an order by the status of its reply, but the workflow takes it for
placed only if it can read the instance in the body. Where it cannot, its fault is one of the cloud
before anything was created, and advises to try again.

* `Program.Plain`, `CloudApi.answer_plain`: no fault that comes of a reply over HTTP gives such advice of
  its own;
* `valueIn`, `accept_readable`, `accept_unreadable`: what an accepting reply is worth;
* `overAccount`: an account of the cloud, next to whoever answers all else;
* `halt?_of_foreign`: a workflow stops at the fault of a call that is not to the cloud;
* `accepted_order_invites_iff`: when another try is advised after an order that was accepted;
  `accepted_order_may_be_repeated`: a run in which it is.
-/

namespace InstancePool

open Allocation
open Rest (Account CloudApi.answer)
open Json (Reader)

/-! ## 1. Faults without advice -/

namespace Program

variable {I : Interface} {α β : Type} {p : Program I α}

/-- No fault that the program ends with advises to try again. -/
def Plain (p : Program I α) : Prop :=
  p.Obeys (.only fun _ => True) () fun r _ => ∀ f, r = .error f → f.canRetry = false

theorem plain_done {a : α} : (done a : Program I α).Plain := fun _ h => nomatch h

theorem plain_fail {f : Fault} (plain : f.canRetry = false) : (fail f : Program I α).Plain :=
  fun _ h => Except.error.inj h ▸ plain

theorem plain_ofExcept {r : Except Fault α} (plain : ∀ f, r = .error f → f.canRetry = false) :
    (ofExcept r : Program I α).Plain :=
  obeys_ofExcept.mpr plain

theorem plain_ask {q : I.Query} {k : I.Reply q → Program I α} (h : ∀ reply, (k reply).Plain) :
    (ask q k).Plain :=
  ⟨trivial, fun reply _ => h reply⟩

theorem Plain.bind {next : α → Program I β} (h : p.Plain) (rest : ∀ a, (next a).Plain) :
    (p.bind next).Plain :=
  Obeys.bind h (fun a _ _ => rest a) fun f _ plain _ same => Except.error.inj same ▸ plain f rfl

/-- The faults of its runs. -/
theorem Plain.run {σ : Type} {answer : Answering I σ} {s : σ} (h : p.Plain) {f : Fault}
    (failed : ((p.run answer).run s).1 = .error f) : f.canRetry = false := by
  rw [run_eq_trace] at failed
  exact h.trace (fun _ _ => trivial) f failed

end Program

namespace Rest

open Program

variable {α : Type} {a : Account} {read : Reader α} {url : String}

theorem accept_plain (reply : Http.Reply) {f : Fault} (failed : accept read url reply = .error f) :
    f.canRetry = false := by
  unfold accept at failed
  split at failed
  · cases failed; rfl
  · cases failed; rfl
  · dsimp only at failed
    split at failed
    · cases failed; rfl
    · split at failed
      · cases failed; rfl
      · split at failed
        · cases failed
        · cases failed; rfl

theorem get_plain (query : List (String × String)) : (get a read url query).Plain :=
  plain_ask fun reply => plain_ofExcept fun _ => accept_plain reply

theorem post_plain (parameters : List Json) : (post a read url parameters).Plain :=
  plain_ask fun reply => plain_ofExcept fun _ => accept_plain reply

namespace CloudApi

theorem orderDisk_plain (cid sizeGb : UInt64) : (orderDisk a cid sizeGb).Plain := by
  refine (get_plain _).bind fun prices => ?_
  split
  · exact plain_fail rfl
  · exact plain_ask fun now => post_plain _

theorem guestByAddress_plain (field : String) (ip : Address) : (guestByAddress a field ip).Plain := by
  refine (get_plain _).bind fun guests => ?_
  split
  · exact plain_fail rfl
  · exact plain_done

theorem lastTransaction_plain (cid : UInt64) : (lastTransaction a cid).Plain := by
  refine (get_plain _).bind fun value => ?_
  split
  · exact plain_done
  · exact plain_done
  · split
    · exact plain_done
    · exact plain_fail rfl

theorem setCredential_plain (cid : UInt64) (c : Credential) : (setCredential a cid c).Plain := by
  refine (get_plain _).bind fun found => ?_
  split
  · exact plain_fail rfl
  · exact (post_plain _).bind fun _ => plain_done

/-- A yes, or a fault. -/
theorem plain_unless {accepted : Bool} {f : Fault} (plain : f.canRetry = false) :
    (if !accepted then fail f else done () : Program Http Unit).Plain := by
  split
  · exact plain_fail plain
  · exact plain_done

/-- **No call over HTTP ends with a fault that advises to try again.** -/
theorem answer_plain (a : Account) (call : Cloud.Call) : (answer a call).Plain := by
  cases call with
  | createInstance template => exact post_plain _
  | getInstance cid => exact get_plain _
  | activeTransactions cid => exact get_plain _
  | lastTransaction cid => exact lastTransaction_plain cid
  | powerState cid => exact (get_plain _).bind fun _ => plain_done
  | pingable cid => exact get_plain _
  | attachDisk cid sizeGb => exact orderDisk_plain cid sizeGb
  | blockDevices cid => exact get_plain _
  | instanceByPrivateIp ip => exact guestByAddress_plain _ ip
  | instanceByPublicIp ip => exact guestByAddress_plain _ ip
  | reloadOs cid stemcell => exact (post_plain _).bind fun _ => plain_done
  | pushSettings cid s => exact (post_plain _).bind fun _ => plain_unless rfl
  | setCredential cid c => exact setCredential_plain cid c
  | reboot cid => exact (get_plain _).bind fun _ => plain_unless rfl

end CloudApi

/-! ## 2. Accepted orders -/

/-- The value in a body, if it is there and can be read. -/
def valueIn (read : Reader α) : Http.Body → Option α
  | .complete text => read.run text
  | .broken _ => none

theorem not_success_404 {status : Nat} (accepted : Http.isSuccess status = true) : status ≠ 404 := by
  rintro rfl
  cases accepted

theorem accept_readable {status : Nat} {body : Http.Body} {value : α}
    (accepted : Http.isSuccess status = true) (readable : valueIn read body = some value) :
    accept read url (.response status body) = .ok value := by
  cases body with
  | broken reason => cases readable
  | complete text =>
    have readable : read.run text = some value := readable
    unfold accept
    dsimp only
    rw [if_neg (not_success_404 accepted), accepted, readable]
    rfl

/-- An accepting reply whose body cannot be read is a fault of the cloud. -/
theorem accept_unreadable {status : Nat} {body : Http.Body} (accepted : Http.isSuccess status = true)
    (garbled : valueIn read body = none) :
    ∃ f, accept read url (.response status body) = .error f ∧ f.kind = .cloud := by
  cases body with
  | broken reason => exact ⟨lost reason, rfl, rfl⟩
  | complete text =>
    have garbled : read.run text = none := garbled
    unfold accept
    dsimp only
    rw [if_neg (not_success_404 accepted), accepted, garbled]
    exact ⟨unreadable, rfl, rfl⟩

/-- The request that orders an instance. -/
def CloudApi.orderRequest (a : Account) (t : Template) : Http.Request where
  method := .post
  url := a.url guestService none "createObject"
  login := some (a.username, a.apiKey)
  body := some (Json.record [("parameters", .arr [order t])])

end Rest

/-- An account of the cloud over HTTP, next to whoever answers all else. -/
def overAccount {σ : Type} (account : Account) (http : Answering Http σ)
    (others : Answering (Timed Services) σ) : Answering (Timed Services) σ
  | .other (.call (.cloud call)) => (CloudApi.answer account call).run http
  | q => others q

section Runs

variable {σ : Type} {account : Account} {http : Answering Http σ}
  {others : Answering (Timed Services) σ} {s : σ}

/-- An order is answered by what the reply to its request is worth. -/
theorem overAccount_order (t : Template) :
    (overAccount account http others (Cloud.Call.createInstance t).query s).1 =
      Rest.accept Rest.guest (account.url Rest.CloudApi.guestService none "createObject")
        (http (.send (Rest.CloudApi.orderRequest account t)) s).1 := by
  have run : ((CloudApi.answer account (.createInstance t)).run http).run s = _ := Program.run_eq_trace
  refine (congrArg Prod.fst run).trans ?_
  exact congrArg Trace.result (Program.trace_ofExcept _)

/-- No fault of the cloud advises to try again. -/
theorem overAccount_plain (call : Cloud.Call) (s : σ) (f : Fault)
    (failed : (overAccount account http others call.query s).1 = .error f) : f.canRetry = false :=
  (Rest.CloudApi.answer_plain account call).run failed

/-! ## 3. Faults that are passed on -/

/-- The fault of a call that is not to the cloud. -/
def foreignFault? : (q : (Timed Services).Query) → (Timed Services).Reply q → Option Fault
  | .other (.call (.registry _)), .error f => some f
  | .other (.call (.hostAlias _ _)), .error f => some f
  | _, _ => none

/-- Such a fault is never passed over. -/
theorem halt?_of_foreign {σ : Type} {e : Exchange (Timed Services) σ} {f : Fault}
    (foreign : foreignFault? e.query e.reply = some f) : e.heard.halt? = some f := by
  obtain ⟨query, reply, before, after⟩ := e
  cases query with
  | other query =>
    cases query with
    | call c =>
      cases reply with
      | error g =>
        cases c with
        | cloud c => cases foreign
        | registry c => exact foreign
        | hostAlias hostname ip => exact foreign
      | ok a => cases c <;> cases foreign
    | mark => cases foreign
  | _ => cases foreign

/-! ## 4. Advice after an accepted order -/

section Advice

variable {answer : Answering (Timed Services) σ} {site : Site} {request : Request}

theorem Reclaim.Asks.not_order {q : (Timed Services).Query} (h : Reclaim.Asks q) (t : Template) :
    q ≠ (Cloud.Call.createInstance t).query := by
  rintro rfl
  cases h with
  | tend tended => exact (tended.operation rfl).1 rfl

/-- Building an instance orders it, and nothing else. -/
theorem order_in_build {selected : Networks} {e : Exchange (Timed Services) σ}
    (he : e ∈ ((Provision.run site request selected).trace answer s).exchanges) {t : Template}
    (orders : e.query = (Cloud.Call.createInstance t).query) :
    e = Provision.ordered answer request selected s := by
  obtain ⟨later, exchanges, tended⟩ : ∃ later,
    ((Provision.run site request selected).trace answer s).exchanges = _ :: _ :: later ∧ _ :=
      Provision.run_exchanges
  rw [exchanges] at he
  rcases List.mem_cons.mp he with rfl | he
  · cases orders
  · rcases List.mem_cons.mp he with rfl | he
    · rfl
    · exact absurd rfl ((tended e he).operation (congrArg callOf? orders)).1

/-- Only an allocation that found no entry orders an instance, and it does so once. -/
theorem order_in_run {e : Exchange (Timed Services) σ}
    (he : e ∈ ((Allocation.run site request).trace answer s).exchanges) {t : Template}
    (orders : e.query = (Cloud.Call.createInstance t).query) :
    ∃ selected, Networks.select request.networks = .ok selected ∧ selected.fixedIp = none ∧
      (searched answer request selected s).reply = .ok [] ∧
      e = Provision.ordered answer request selected (searched answer request selected s).after := by
  have taken : Course answer site request s := course answer site request s
  cases taken with
  | invalid refused =>
    rw [trace_invalid refused] at he
    cases he
  | fixed accepted pinned =>
    rw [trace_fixed accepted pinned] at he
    exact absurd orders ((reclaim_asks _ e he).not_order t)
  | unsearched accepted pooled failed =>
    rw [trace_unsearched accepted pooled failed] at he
    cases List.mem_singleton.mp he
    cases orders
  | denied accepted pooled found refused =>
    rw [trace_denied accepted pooled found refused] at he
    rcases List.mem_cons.mp he with rfl | he
    · cases orders
    · cases List.mem_singleton.mp he
      cases orders
  | reused accepted pooled found granted =>
    rw [trace_reused accepted pooled found granted] at he
    rcases List.mem_cons.mp he with rfl | he
    · cases orders
    · rcases List.mem_cons.mp he with rfl | he
      · cases orders
      · rcases List.mem_append.mp he with he | he
        · exact absurd orders ((reclaim_asks _ e he).not_order t)
        · cases List.mem_singleton.mp he
          cases orders
  | unbuilt accepted pooled missed failed =>
    rw [trace_unbuilt accepted pooled missed failed] at he
    refine ⟨_, accepted, pooled, missed, ?_⟩
    rcases List.mem_cons.mp he with rfl | he
    · cases orders
    · exact order_in_build he orders
  | built accepted pooled missed ok =>
    rw [trace_built accepted pooled missed ok] at he
    refine ⟨_, accepted, pooled, missed, ?_⟩
    rcases List.mem_cons.mp he with rfl | he
    · cases orders
    · rcases List.mem_append.mp he with he | he
      · exact order_in_build he orders
      · cases List.mem_singleton.mp he
        cases orders

/-- A call that is not to the cloud failed, with a fault that advises to try again. -/
def Advises (e : Exchange (Timed Services) σ) : Prop :=
  ∃ f, foreignFault? e.query e.reply = some f ∧ f.canRetry = true

theorem foreignFault?_of_fault {q : (Timed Services).Query} {reply : (Timed Services).Reply q}
    {f : Fault} (failed : faultOf? q reply = some f) :
    (∃ call : Cloud.Call, q = call.query) ∨ foreignFault? q reply = some f := by
  cases q with
  | other q =>
    cases q with
    | mark => cases failed
    | call c =>
      cases c with
      | cloud call => exact .inl ⟨call, rfl⟩
      | registry call =>
        have refused : reply = .error f := faultOf?_eq_some.mp failed
        subst refused
        exact .inr rfl
      | hostAlias hostname ip =>
        have refused : reply = .error f := faultOf?_eq_some.mp failed
        subst refused
        exact .inr rfl
  | _ => cases failed

theorem faultOf?_of_foreign {q : (Timed Services).Query} {reply : (Timed Services).Reply q}
    {f : Fault} (failed : foreignFault? q reply = some f) : faultOf? q reply = some f := by
  unfold foreignFault? at failed
  split at failed
  · exact failed
  · exact failed
  · cases failed

theorem not_advises_of_answered {e : Exchange (Timed Services) σ}
    (answered : faultOf? e.query e.reply = none) : ¬ Advises e := by
  rintro ⟨f, failed, -⟩
  cases (faultOf?_of_foreign failed).symm.trans answered

section Placed

variable {selected : Networks}

/-- An allocation that finds no entry orders an instance. -/
theorem ordered_mem (accepted : Networks.select request.networks = .ok selected)
    (pooled : selected.fixedIp = none) (missed : (searched answer request selected s).reply = .ok []) :
    Provision.ordered answer request selected (searched answer request selected s).after ∈
      ((Allocation.run site request).trace answer s).exchanges := by
  have built : Provision.ordered answer request selected (searched answer request selected s).after ∈
      (Miss.build answer site request selected s).exchanges := by
    obtain ⟨later, exchanges, -⟩ : ∃ later,
      (Miss.build answer site request selected s).exchanges = _ :: _ :: later ∧ _ :=
        Provision.run_exchanges
    rw [exchanges]
    exact List.mem_cons_of_mem _ List.mem_cons_self
  cases ended : (Miss.build answer site request selected s).result with
  | error g =>
    rw [trace_unbuilt accepted pooled missed ended]
    exact List.mem_cons_of_mem _ built
  | ok i =>
    rw [trace_built accepted pooled missed ended]
    exact List.mem_cons_of_mem _ (List.mem_append_left _ built)

/-- What comes of an order that is answered by a fault of the cloud. -/
theorem retryable_of_refused {f : Fault} (accepted : Networks.select request.networks = .ok selected)
    (pooled : selected.fixedIp = none) (missed : (searched answer request selected s).reply = .ok [])
    (refused : (Provision.ordered answer request selected (searched answer request selected s).after).reply
      = .error f) (kind : f.kind = .cloud) :
    Retryable ((Allocation.run site request).trace answer s).result := by
  let name := Provision.hostname answer request (searched answer request selected s).after
  have ended : (Miss.build answer site request selected s).result = .error
      (Provision.abandon request.agentId [.templateRendered] (f.inContext s!"creating instance {name}")) := by
    show ((Provision.run site request selected).trace answer _).result = _
    rw [Provision.trace_run, refused]
  rw [trace_unbuilt accepted pooled missed ended]
  refine retryable_error.mpr ?_
  rw [abandon_canRetry rfl]
  show (decide (f.kind = .cloud) || _) = true
  rw [decide_eq_true kind]
  rfl

/-- Where an instance was built, the call that enters it decides. -/
theorem registered_invites_iff {i : Instance} :
    Retryable (registered i (Miss.last answer site request selected s i).reply) ↔
      Advises (Miss.last answer site request selected s i) := by
  cases reply : (Miss.last answer site request selected s i).reply with
  | ok _ =>
    exact iff_of_false not_retryable_ok (not_advises_of_answered (faultOf?_eq_none.mpr ⟨_, reply⟩))
  | error f =>
    have failed : foreignFault? (Miss.last answer site request selected s i).query
        (Miss.last answer site request selected s i).reply = some f :=
      congrArg (foreignFault? (Registry.Call.addEntry (.ofInstance i .using)).query) reply
    refine retryable_inContext.trans ⟨fun retry => ⟨f, failed, retry⟩, ?_⟩
    rintro ⟨f', failed', retry⟩
    exact Option.some.inj (failed'.symm.trans failed) ▸ retry

variable (plain : ∀ (call : Cloud.Call) s f, (answer call.query s).1 = .error f → f.canRetry = false)

include plain

/-- While an instance is brought up, another try is advised only by others. -/
theorem broughtUp_invites_iff {cid : UInt64} :
    Retryable (Provision.broughtUp answer site request selected cid s).result ↔
      ∃ e ∈ (Provision.broughtUp answer site request selected cid s).exchanges, Advises e := by
  constructor
  · rintro ⟨g, failed, retry⟩
    obtain ⟨f, more, origin⟩ := (bringUp_halts site request selected).origin failed
    rw [more.canRetry] at retry
    rcases origin with own | ⟨e, last, replied⟩
    · cases own.canRetry.symm.trans retry
    · have he := List.mem_of_getLast? last
      rcases foreignFault?_of_fault replied with ⟨call, asks⟩ | foreign
      · obtain ⟨q, s', rfl⟩ := Program.exchanges_asked e he
        obtain rfl : q = call.query := asks
        cases (plain call s' f (faultOf?_eq_some.mp replied)).symm.trans retry
      · exact ⟨e, he, f, foreign, retry⟩
  · rintro ⟨e, he, f, failed, retry⟩
    obtain ⟨g, ended, more⟩ := (bringUp_halts site request selected).ends he (halt?_of_foreign failed)
    exact ⟨g, ended, more.canRetry.trans retry⟩

/-- After an order that was placed, another try is advised only by others. -/
theorem build_invites_iff {receipt : Instance}
    (ordered : (Provision.ordered answer request selected s).reply = .ok receipt) :
    Retryable ((Provision.run site request selected).trace answer s).result ↔
      ∃ e ∈ ((Provision.run site request selected).trace answer s).exchanges, Advises e := by
  have mark : ¬ Advises (Provision.marked answer s) := not_advises_of_answered rfl
  have order : ¬ Advises (Provision.ordered answer request selected s) :=
    not_advises_of_answered (faultOf?_eq_none.mpr ⟨receipt, ordered⟩)
  rw [Provision.trace_run, ordered]
  refine (broughtUp_invites_iff plain).trans ?_
  simp only [Trace.precededBy_exchanges, List.cons_append, List.nil_append, List.mem_cons,
    exists_eq_or_imp, mark, order, false_or]

theorem ordered_invites_iff {receipt : Instance}
    (accepted : Networks.select request.networks = .ok selected) (pooled : selected.fixedIp = none)
    (missed : (searched answer request selected s).reply = .ok [])
    (ordered : (Provision.ordered answer request selected
      (searched answer request selected s).after).reply = .ok receipt) :
    Retryable ((Allocation.run site request).trace answer s).result ↔
      ∃ e ∈ ((Allocation.run site request).trace answer s).exchanges, Advises e := by
  have search : ¬ Advises (searched answer request selected s) :=
    not_advises_of_answered (faultOf?_eq_none.mpr ⟨[], missed⟩)
  have build : Retryable (Miss.build answer site request selected s).result ↔
      ∃ e ∈ (Miss.build answer site request selected s).exchanges, Advises e :=
    build_invites_iff plain ordered
  cases ended : (Miss.build answer site request selected s).result with
  | error g =>
    rw [trace_unbuilt accepted pooled missed ended]
    rw [ended] at build
    refine build.trans ?_
    simp only [List.mem_cons, exists_eq_or_imp, search, false_or]
  | ok i =>
    rw [trace_built accepted pooled missed ended]
    rw [ended] at build
    have none := mt build.mpr not_retryable_ok
    -- All was answered well but for the last call, which enters the instance.
    refine registered_invites_iff.trans ⟨fun advises => ⟨_, ?_, advises⟩, ?_⟩
    · exact List.mem_cons_of_mem _ (List.mem_append_right _ (List.mem_singleton_self _))
    · rintro ⟨e, he, advises⟩
      rcases List.mem_cons.mp he with rfl | he
      · exact absurd advises search
      · rcases List.mem_append.mp he with he | he
        · exact absurd ⟨e, he, advises⟩ none
        · exact List.mem_singleton.mp he ▸ advises

end Placed

end Advice

end Runs

/-! ## 5. After an accepted order -/

namespace Sample

/-- An account of the cloud. -/
def account : Account := .of "user" "key" none

/-- A cloud that accepts whatever it is sent, always with the same body. -/
def accepting (text : String) : Answering Http Unit
  | .send _ => fun s => (.response 200 (.complete text), s)
  | .timeOfDay => fun s => (⟨0, 0, 0⟩, s)

/-- A pool without entries, in which all else goes well. -/
def emptyPool : Answering (Timed Services) Unit
  | .now => fun s => (0, s)
  | .cancelled => fun s => (false, s)
  | .nap _ => fun s => (false, s)
  | .other .mark => fun s => ("000000000001", s)
  | .other (.call (.registry (.findEntries _))) => fun s => (.ok [], s)
  | .other (.call (.registry (.addEntry _))) => fun s => (.ok (), s)
  | .other (.call (.registry (.updateState _ _ _))) => fun s => (.ok (), s)
  | .other (.call (.registry (.getEntry _))) => fun s => (.ok none, s)
  | .other (.call (.hostAlias _ _)) => fun s => (.ok (), s)
  | .other (.call (.cloud c)) => fun s => (.error (.cloud s!"{c.operation.name} is offered elsewhere"), s)

/-- An allocation over that account, next to that pool. -/
def accepted (text : String) : Trace (Timed Services) Unit Instance :=
  (Allocation.run {} request).trace (overAccount account (accepting text) emptyPool) ()

/-- Its order. -/
def placed (text : String) : Exchange (Timed Services) Unit :=
  Provision.ordered (overAccount account (accepting text) emptyPool) request selected ()

theorem placed_mem (text : String) : placed text ∈ (accepted text).exchanges := ordered_mem rfl rfl rfl

/-- Nobody but the cloud fails. -/
theorem accepted_unadvised (text : String) : ∀ e ∈ (accepted text).exchanges, ¬ Advises e := by
  rintro e he ⟨f, failed, -⟩
  obtain ⟨q, s, rfl⟩ := Program.exchanges_asked e he
  cases q with
  | other q =>
    cases q with
    | mark => cases failed
    | call c =>
      cases c with
      | cloud c => cases failed
      | hostAlias hostname ip => cases failed
      | registry c => cases c <;> cases failed
  | _ => cases failed

end Sample

/-- **After an order that was accepted, another try is advised** if and only if the instance could not be
    read in the reply, or somebody else than the cloud failed and advised it. -/
theorem accepted_order_invites_iff {σ : Type} {account : Account} {http : Answering Http σ}
    {others : Answering (Timed Services) σ} {site : Site} {request : Request} {s : σ}
    {e : Exchange (Timed Services) σ}
    (he : e ∈ ((Allocation.run site request).trace (overAccount account http others) s).exchanges)
    {t : Template} (orders : e.query = (Cloud.Call.createInstance t).query) {status : Nat}
    {body : Http.Body}
    (replied : (http (.send (Rest.CloudApi.orderRequest account t)) e.before).1 = .response status body)
    (accepted : Http.isSuccess status = true) :
    Retryable ((Allocation.run site request).trace (overAccount account http others) s).result ↔
      Rest.valueIn Rest.guest body = none ∨
        ∃ e' ∈ ((Allocation.run site request).trace (overAccount account http others) s).exchanges,
          Advises e' := by
  obtain ⟨selected, chosen, pooled, missed, rfl⟩ := order_in_run he orders
  obtain rfl := Cloud.Call.createInstance.inj (Call.cloud.inj (Services.Query.call.inj
    (Timed.Query.other.inj orders)))
  have reply : (Provision.ordered (overAccount account http others) request selected
      (searched (overAccount account http others) request selected s).after).reply = _ :=
    (overAccount_order _).trans (congrArg (Rest.accept _ _) replied)
  cases readable : Rest.valueIn Rest.guest body with
  | none =>
    obtain ⟨f, refused, kind⟩ := Rest.accept_unreadable accepted readable
    exact iff_of_true (retryable_of_refused chosen pooled missed (reply.trans refused) kind) (.inl rfl)
  | some receipt =>
    have ordered := reply.trans (Rest.accept_readable accepted readable)
    refine (ordered_invites_iff overAccount_plain chosen pooled missed ordered).trans ?_
    exact ⟨.inr, fun invited => invited.resolve_left nofun⟩

theorem accepted_order_settled :
    Sample.placed "\x7b\"id\": 42\x7d" ∈ (Sample.accepted "\x7b\"id\": 42\x7d").exchanges ∧
      ∃ t, (Sample.placed "\x7b\"id\": 42\x7d").query = (Cloud.Call.createInstance t).query ∧
        (Sample.accepting "\x7b\"id\": 42\x7d" (.send (Rest.CloudApi.orderRequest Sample.account t))
          (Sample.placed "\x7b\"id\": 42\x7d").before).1 = .response 200 (.complete "\x7b\"id\": 42\x7d") ∧
        Http.isSuccess 200 = true ∧ ¬ Retryable (Sample.accepted "\x7b\"id\": 42\x7d").result := by
  refine ⟨Sample.placed_mem _, _, rfl, rfl, rfl, fun retry => ?_⟩
  have readable : Rest.valueIn Rest.guest (.complete "\x7b\"id\": 42\x7d") = some { cid := 42 } := by
    show Rest.guest.run "\x7b\"id\": 42\x7d" = _
    cbv
  rcases (accepted_order_invites_iff (Sample.placed_mem _) rfl rfl rfl).mp retry with garbled | ⟨e, he, advises⟩
  · cases garbled.symm.trans readable
  · exact Sample.accepted_unadvised _ e he advises

/-- An order that was accepted with a body that names no instance is one that the caller is told to try
    again. -/
theorem accepted_order_may_be_repeated :
    Sample.placed "\x7b\x7d" ∈ (Sample.accepted "\x7b\x7d").exchanges ∧
      ∃ t, (Sample.placed "\x7b\x7d").query = (Cloud.Call.createInstance t).query ∧
        (Sample.accepting "\x7b\x7d" (.send (Rest.CloudApi.orderRequest Sample.account t))
          (Sample.placed "\x7b\x7d").before).1 = .response 200 (.complete "\x7b\x7d") ∧
        Http.isSuccess 200 = true ∧ Retryable (Sample.accepted "\x7b\x7d").result := by
  refine ⟨Sample.placed_mem _, _, rfl, rfl, rfl, ?_⟩
  have garbled : Rest.valueIn Rest.guest (.complete "\x7b\x7d") = none := by
    show Rest.guest.run "\x7b\x7d" = none
    cbv
  have success : Http.isSuccess 200 = true := rfl
  obtain ⟨f, refused, kind⟩ := Rest.accept_unreadable success garbled
  exact retryable_of_refused rfl rfl rfl ((overAccount_order _).trans refused) kind

end InstancePool
