import InstancePool.Proofs.Journal
import InstancePool.Proofs.Orders
import InstancePool.Proofs.Protocols
import InstancePool.Proofs.Restoring

/-!
# When a login is looked at

A login that is not allowed can never be set, so no allocation that has one ends well. But it is looked
at last: by then the instance was ordered or its system reinstalled, unless the allocation was turned
away before, for a reason that has nothing to do with the login.

* `Operation.costs`, `Spares`: exchanges that cost nothing and leave the pool as it is;
* `TurnedAway`: the ways in which an allocation ends before it does anything;
* `disallowed_login_spares_iff`: with a login that is not allowed every allocation fails, and it has
  touched nothing if and only if it was turned away;
* `disallowed_login_buys_instance`: one that was not.
-/

namespace InstancePool

open Program
open Pool (Entry State)
open Simulation (RegistryDouble)
open Allocation

/-! ## 1. What is spared -/

/-- Whether an operation orders something, wipes an instance, or reconfigures its agent. -/
def Operation.costs : Operation → Bool
  | createInstance | reloadOs | attachDisk | pushSettings => true
  | _ => false

/-- An exchange that costs nothing, and leaves the entries of the pool as they are. -/
structure Spares {σ : Type} (entries : σ → List Entry) (e : Exchange (Timed Services) σ) : Prop where
  free : ∀ c, callOf? e.query = some c → c.operation.costs = false
  pool : entries e.after = entries e.before

section Runs

variable {σ : Type} {answer : Answering (Timed Services) σ} {site : Site} {request : Request}
  {selected : Networks} {entries : σ → List Entry} {s : σ}

/-- What costs is not spared. -/
theorem not_spares {e : Exchange (Timed Services) σ} {c : Call} (asks : callOf? e.query = some c)
    (dear : c.operation.costs = true) : ¬Spares entries e := by
  intro spared
  cases dear.symm.trans (spared.free c asks)

/-- What may be counted on of the registry: it keeps to its rules, and nobody else writes. -/
def Ruled (entries : σ → List Entry) (e : Exchange (Timed Services) σ) : Prop :=
  Answered e.query e.reply (entries e.before) (entries e.after)

/-! ## 2. Allocations that are turned away -/

variable (answer request entries s) in
/-- The ways in which an allocation ends before it orders or reinstalls anything: its networks are
    refused, the address it insists on is unknown, the pool cannot be searched, or somebody else is after
    the entry that was found. -/
inductive TurnedAway : Prop where
  | invalid {f : Fault} (refused : Networks.select request.networks = .error f)
  | unknown {selected : Networks} {ip : Address} {f : Fault}
      (accepted : Networks.select request.networks = .ok selected) (pinned : selected.fixedIp = some ip)
      (lost : ((Reclaim.locate (.ip ip)).trace answer s).result = .error f)
  | unsearched {selected : Networks} {f : Fault}
      (accepted : Networks.select request.networks = .ok selected) (pooled : selected.fixedIp = none)
      (failed : (searched answer request selected s).reply = .error f)
  | denied {selected : Networks} {entry : Entry} {rest : List Entry} {f : Fault}
      (accepted : Networks.select request.networks = .ok selected) (pooled : selected.fixedIp = none)
      (found : (searched answer request selected s).reply = .ok (entry :: rest))
      (refused : (Hit.claim answer request selected entry.cid s).reply = .error f)
      (kept : entries (Hit.claim answer request selected entry.cid s).after =
        entries (Hit.claim answer request selected entry.cid s).before)

/-- A call that costs nothing and is no write is spared. -/
theorem spares_of_read {e : Exchange (Timed Services) σ} {c : Call} (asked : e.query = .other (.call c))
    (free : c.operation.costs = false) (reads : ¬ Writes (.other (.call c))) (ruled : Ruled entries e) :
    Spares entries e := by
  refine ⟨fun c' same => ?_, Answered.same ruled (asked ▸ reads)⟩
  rw [asked] at same
  cases same
  exact free

/-- An instance is looked up by its address. -/
theorem locate_spares {ip : Address}
    (ruled : ∀ e ∈ ((Reclaim.locate (.ip ip)).trace answer s).exchanges, Ruled entries e) :
    ∀ e ∈ ((Reclaim.locate (.ip ip)).trace answer s).exchanges, Spares entries e := by
  have looked : ∃ c : Cloud.Call, c.operation.costs = false ∧
      ((Reclaim.locate (.ip ip)).trace answer s).exchanges = [answer.exchange c.query s] := by
    unfold Reclaim.locate
    dsimp only
    split
    · exact ⟨.instanceByPrivateIp ip, rfl, congrArg Trace.exchanges (trace_framed _ _)⟩
    · exact ⟨.instanceByPublicIp ip, rfl, congrArg Trace.exchanges (trace_framed _ _)⟩
  obtain ⟨c, free, looked⟩ := looked
  rw [looked] at ruled ⊢
  exact List.forall_mem_singleton.mpr (spares_of_read rfl free id (List.forall_mem_singleton.mp ruled))

theorem searched_spares (ruled : Ruled entries (searched answer request selected s)) :
    Spares entries (searched answer request selected s) :=
  spares_of_read rfl rfl (fun writes => nomatch writes) ruled

/-- **What is turned away has touched nothing.** -/
theorem TurnedAway.spares (h : TurnedAway answer request entries s)
    (ruled : ∀ e ∈ ((Allocation.run site request).trace answer s).exchanges, Ruled entries e) :
    ∀ e ∈ ((Allocation.run site request).trace answer s).exchanges, Spares entries e := by
  cases h with
  | invalid refused =>
    rw [trace_invalid refused]
    exact fun e he => absurd he List.not_mem_nil
  | @unknown selected ip f accepted pinned lost =>
    have stopped : ((Allocation.run site request).trace answer s).exchanges =
        ((Reclaim.locate (.ip ip)).trace answer s).exchanges := by
      rw [trace_fixed accepted pinned, Reclaim.run_eq, trace_bind_error lost]
      rfl
    rw [stopped] at ruled ⊢
    exact locate_spares ruled
  | unsearched accepted pooled failed =>
    rw [trace_unsearched accepted pooled failed] at ruled ⊢
    exact List.forall_mem_singleton.mpr (searched_spares (List.forall_mem_singleton.mp ruled))
  | denied accepted pooled found refused kept =>
    rw [trace_denied accepted pooled found refused] at ruled ⊢
    obtain ⟨search, -⟩ := List.forall_mem_cons.mp ruled
    refine List.forall_mem_cons.mpr ⟨searched_spares search, List.forall_mem_singleton.mpr ⟨?_, kept⟩⟩
    intro c same
    cases same
    rfl

/-- An instance that is found is reinstalled. -/
theorem renew_reloads (found : Instance) :
    answer.exchange (Cloud.Call.reloadOs found.cid request.stemcell).query s ∈
      ((Reclaim.renew site request selected found).trace answer s).exchanges := by
  have framed : ((Workflow.cloud (.reloadOs found.cid request.stemcell)).inContext
      s!"reloading OS of instance {found.cid} from stemcell {request.stemcell.id}").trace answer s =
        ⟨_, _, [_]⟩ := trace_framed _ _
  have asked : answer.exchange (Cloud.Call.reloadOs found.cid request.stemcell).query s ∈
      (((Workflow.cloud (.reloadOs found.cid request.stemcell)).inContext
        s!"reloading OS of instance {found.cid} from stemcell {request.stemcell.id}").trace
          answer s).exchanges := by
    rw [framed]
    exact List.mem_singleton_self _
  exact exchanges_bind_first (exchanges_bind_first asked)

/-- **What has touched nothing was turned away.** -/
theorem turnedAway_of_spares
    (ruled : ∀ e ∈ ((Allocation.run site request).trace answer s).exchanges, Ruled entries e)
    (spares : ∀ e ∈ ((Allocation.run site request).trace answer s).exchanges, Spares entries e) :
    TurnedAway answer request entries s := by
  have taken : Course answer site request s := course answer site request s
  cases taken with
  | invalid refused => exact .invalid refused
  | @fixed selected ip accepted pinned =>
    cases found : ((Reclaim.locate (.ip ip)).trace answer s).result with
    | error f => exact .unknown accepted pinned found
    | ok i =>
      have reload : answer.exchange (Cloud.Call.reloadOs i.cid request.stemcell).query
          ((Reclaim.locate (.ip ip)).trace answer s).state ∈
            ((Allocation.run site request).trace answer s).exchanges := by
        rw [trace_fixed accepted pinned, Reclaim.run_eq, trace_bind_ok found]
        exact List.mem_append_right _ (renew_reloads i)
      exact absurd (spares _ reload) (not_spares rfl rfl)
  | unsearched accepted pooled failed => exact .unsearched accepted pooled failed
  | denied accepted pooled found refused =>
    rw [trace_denied accepted pooled found refused] at spares
    obtain ⟨-, claim⟩ := List.forall_mem_cons.mp spares
    exact .denied accepted pooled found refused (List.forall_mem_singleton.mp claim).pool
  | reused accepted pooled found granted =>
    rw [trace_reused accepted pooled found granted] at ruled spares
    obtain ⟨claim, -⟩ := List.forall_mem_cons.mp (List.forall_mem_cons.mp ruled).2
    obtain ⟨kept, -⟩ := List.forall_mem_cons.mp (List.forall_mem_cons.mp spares).2
    rcases Answered.wrote claim rfl with effect | ⟨-, f, refused⟩
    · exact absurd kept.pool effect.claims
    · cases granted.symm.trans refused
  | unbuilt accepted pooled missed failed =>
    have order := spares _ (ordered_mem accepted pooled missed)
    exact absurd order (not_spares rfl rfl)
  | built accepted pooled missed ok =>
    have order := spares _ (ordered_mem accepted pooled missed)
    exact absurd order (not_spares rfl rfl)

/-! ## 3. Logins that are not allowed -/

section Disallowed

variable {credential : Credential} {f : Fault} (configured : site.agent.credential = some credential)
  (disallowed : credential.validate = .error f)

include configured disallowed

theorem applyCredential_fails (cid : UInt64) :
    ((Agent.applyCredential site.agent cid).trace answer s).result ≠ .ok () := by
  unfold Agent.applyCredential
  rw [configured]
  dsimp only
  rw [disallowed]
  exact nofun

theorem reclaim_fails (target : Reclaim.Target) (i : Instance) :
    ((Reclaim.run site target request selected).trace answer s).result ≠ .ok i := by
  intro ok
  rw [Reclaim.run_eq] at ok
  obtain ⟨found, -, renewed⟩ := trace_bind_eq_ok.mp ok
  obtain ⟨_, -, settled⟩ := trace_bind_eq_ok.mp renewed
  obtain ⟨_, -, resolved⟩ := trace_bind_eq_ok.mp settled
  obtain ⟨endpoints, -, refreshed⟩ := trace_bind_eq_ok.mp resolved
  obtain ⟨i', -, informed⟩ := trace_bind_eq_ok.mp refreshed
  obtain ⟨_, -, loggedIn⟩ := trace_bind_eq_ok.mp informed
  obtain ⟨_, applied, -⟩ := trace_bind_eq_ok.mp loggedIn
  exact applyCredential_fails configured disallowed found.cid applied

theorem build_fails (i : Instance) :
    ((Provision.run site request selected).trace answer s).result ≠ .ok i := by
  intro ok
  obtain ⟨receipt, -, up⟩ := Provision.run_eq_ok.mp ok
  obtain ⟨endpoints, settings, -, -, applied⟩ := up.configured
  exact applyCredential_fails configured disallowed receipt.cid applied

/-- With a login that is not allowed no allocation ends well. -/
theorem allocation_fails : ∃ g, ((Allocation.run site request).trace answer s).result = .error g := by
  have taken : Course answer site request s := course answer site request s
  cases taken with
  | invalid refused =>
    rw [trace_invalid refused]
    exact ⟨_, rfl⟩
  | @fixed selected ip accepted pinned =>
    rw [trace_fixed accepted pinned, Trace.mapFault_result]
    cases ended : ((Reclaim.run site (.ip ip) request selected).trace answer s).result with
    | ok i => exact absurd ended (reclaim_fails configured disallowed (.ip ip) i)
    | error g => exact ⟨_, rfl⟩
  | unsearched accepted pooled failed =>
    rw [trace_unsearched accepted pooled failed]
    exact ⟨_, rfl⟩
  | denied accepted pooled found refused =>
    rw [trace_denied accepted pooled found refused]
    exact ⟨_, rfl⟩
  | @reused selected entry rest accepted pooled found granted =>
    rw [trace_reused accepted pooled found granted]
    cases ended : conclusion entry.cid (Hit.reclaim answer site request selected entry.cid s).result
      (Hit.last answer site request selected entry.cid s).reply with
    | ok i =>
      exact absurd (conclusion_eq_ok.mp ended).1 (reclaim_fails configured disallowed (.cid entry.cid) i)
    | error g => exact ⟨g, rfl⟩
  | unbuilt accepted pooled missed failed =>
    rw [trace_unbuilt accepted pooled missed failed]
    exact ⟨_, rfl⟩
  | built accepted pooled missed ok => exact absurd ok (build_fails configured disallowed _)

/-- **With a login that is not allowed every allocation fails**, and it has ordered, reinstalled and
    changed nothing if and only if it was turned away. The login itself turns nothing away. -/
theorem disallowed_login_spares_iff
    (ruled : ∀ e ∈ ((Allocation.run site request).trace answer s).exchanges, Ruled entries e) :
    (∃ g, ((Allocation.run site request).trace answer s).result = .error g) ∧
      ((∀ e ∈ ((Allocation.run site request).trace answer s).exchanges, Spares entries e) ↔
        TurnedAway answer request entries s) :=
  ⟨allocation_fails configured disallowed, turnedAway_of_spares ruled, fun away => away.spares ruled⟩

end Disallowed

end Runs

/-! ## 4. A short password -/

namespace Sample

/-- A login with a password that is too short. -/
def short : Credential := ⟨"root", "short"⟩

/-- A site with that login. -/
def lax : Site := { agent := { mbus := "nats", credential := some short } }

/-- A request for an instance at that site, where the pool is empty. -/
def bought : Trace (Timed Services) (RegistryDouble × Bool) Instance :=
  (Allocation.run lax outer).trace (overRegistry cloud) ({}, true)

theorem bought_ruled : ∀ e ∈ bought.exchanges, Ruled (fun s => s.1.entries) e := by
  intro e he
  obtain ⟨q, s, rfl⟩ := Program.exchanges_asked e he
  exact (solitary_overRegistry cloud q s).answered

/-- The instance is brought up until its login is to be set. -/
theorem stops_at_login (d : RegistryDouble) : ∃ g, ((Provision.run lax outer selected).trace
    (overRegistry cloud) (d, true)).result = .error g ∧ g.kind = .credentialDisallowed := by
  have completed : ((Condition.completed [Transaction.serviceSetup]).await lax.waits 42).Reaches
      (overRegistry cloud) (d, true) () (d, true) :=
    reaches_awaitWithin (by decide) rfl ⟨rfl, rfl⟩
  have settled : (Agent.settle lax.waits 42 outer.shape.ephemeralDiskSizeGb).Reaches
      (overRegistry cloud) (d, true) () (d, true) :=
    completed.inContext
  obtain ⟨es, ran⟩ := settled.mapFault.trace_eq
  have refused : (Provision.broughtUp (overRegistry cloud) lax outer selected 42 (d, true)).result = _ :=
    congrArg Trace.result (Program.trace_bind_ok (congrArg Trace.result ran))
  have order : (Provision.ordered (overRegistry cloud) outer selected (d, true)).reply =
      .ok { cid := 42 } :=
    rfl
  rw [Provision.trace_run, order]
  exact ⟨_, refused, rfl⟩

theorem bought_refused : ∃ g, bought.result = .error g ∧ g.kind = .credentialDisallowed := by
  have stops : ∃ g, (Miss.build (overRegistry cloud) lax outer selected ({}, true)).result = .error g ∧
      g.kind = .credentialDisallowed :=
    stops_at_login _
  obtain ⟨g, stopped, kind⟩ := stops
  refine ⟨g, ?_, kind⟩
  unfold bought
  rw [trace_unbuilt rfl rfl rfl stopped]

end Sample

open Sample in
theorem disallowed_login_spares_iff_where_short :
    (∃ f, short.validate = .error f) ∧ (∀ e ∈ bought.exchanges, Ruled (fun s => s.1.entries) e) ∧
      (∃ g, bought.result = .error g) ∧
      ((∀ e ∈ bought.exchanges, Spares (fun s => s.1.entries) e) ↔
        TurnedAway (overRegistry cloud) outer (fun s => s.1.entries) ({}, true)) := by
  have disallowed : short.validate = .error (.new .credentialDisallowed
      s!"credential password for '{short.username}' must be at least {Credential.minPasswordLength} characters") :=
    rfl
  have configured : lax.agent.credential = some short := rfl
  obtain ⟨failed, spares⟩ := disallowed_login_spares_iff configured disallowed bought_ruled
  exact ⟨⟨_, disallowed⟩, bought_ruled, failed, spares⟩

open Sample in
/-- Over an empty pool it does not: the instance is ordered, settled and told its settings, and only then
    is its login refused. -/
theorem disallowed_login_buys_instance :
    (∃ f, short.validate = .error f) ∧
      (∃ g, bought.result = .error g ∧ g.kind = .credentialDisallowed) ∧
      receipts bought.exchanges = [{ cid := 42 }] ∧
      ¬∀ e ∈ bought.exchanges, Spares (fun s => s.1.entries) e := by
  have order : receipts bought.exchanges = [{ cid := 42 }] := by
    unfold bought
    exact miss_receipts rfl rfl rfl rfl
  refine ⟨⟨_, rfl⟩, bought_refused, order, fun spares => ?_⟩
  exact absurd (spares _ (ordered_mem rfl rfl rfl)) (not_spares rfl rfl)

end InstancePool
