import InstancePool.Proofs.Courses
import InstancePool.Proofs.Serving
import InstancePool.Proofs.Stopping

/-!
# Advice to try again

A caller that may simply try again must not pay twice for it. An allocation gives that advice in two
cases: its claim came too late, or its order was not placed. In both of them nothing was done before,
so all that a world holds is as it was.

* `LostClaim`, `FailedOrder`, `Invites`: the two cases;
* `Fruitless`, `Advised`: a run that ends with one of them, and the runs that get the right advice;
* `allocation_advised`: every allocation does, where nobody else advises to try again;
* `Holdings`: what may be left behind in a world; `looks_keeps`: what leaves it alone;
* `retry_advice_sound`: the advice is exact, and following it is safe.
-/

namespace InstancePool

open Pool (Entry State)
open Simulation (World Machine RegistryDouble)
open Allocation

/-! ## 1. What invites another try -/

/-- The claim of an entry came too late. -/
def LostClaim {σ : Type} (e : Exchange (Timed Services) σ) : Prop :=
  ∃ cid f, e.query = (Registry.Call.updateState cid (some .free) .provisioning).query ∧
    faultOf? e.query e.reply = some f ∧ f.kind = .poolConflict

/-- The order of an instance was not placed. -/
def FailedOrder {σ : Type} (e : Exchange (Timed Services) σ) : Prop :=
  ∃ template f, e.query = (Cloud.Call.createInstance template).query ∧
    faultOf? e.query e.reply = some f ∧ f.kind = .cloud

/-- After such an exchange the caller may try again. -/
def Invites {σ : Type} (e : Exchange (Timed Services) σ) : Prop := LostClaim e ∨ FailedOrder e

section Advice

variable {σ : Type} {answer : Answering (Timed Services) σ} {site : Site} {request : Request}
  {selected : Networks} {cid : UInt64} {s : σ}

section Exchanges

variable {e : Exchange (Timed Services) σ}

theorem not_invites_of_reclaim (asks : Reclaim.Asks e.query) : ¬ Invites e := by
  rintro (⟨cid, f, claims, -⟩ | ⟨template, f, orders, -⟩)
  · exact asks.not_registry _ claims
  · rw [orders] at asks
    cases asks with
    | tend tended => cases tended.choose_spec

theorem not_invites_of_answered (answered : faultOf? e.query e.reply = none) : ¬ Invites e := by
  rintro (⟨cid, f, -, failed, -⟩ | ⟨template, f, -, failed, -⟩)
  · cases failed.symm.trans answered
  · cases failed.symm.trans answered

/-- Of the calls to the registry only a claim may invite another try. -/
theorem not_invites_of_registry {c : Registry.Call} (asks : e.query = c.query)
    (other : ∀ cid, c ≠ .updateState cid (some .free) .provisioning) : ¬ Invites e := by
  rintro (⟨cid, f, claims, -⟩ | ⟨template, f, orders, -⟩)
  · cases asks.symm.trans claims
    exact other cid rfl
  · cases asks.symm.trans orders

end Exchanges

/-- A search of the pool, or a mark for a name: nothing is changed by it. -/
inductive Looks : (Timed Services).Query → Prop where
  | search (filter : Pool.Filter) : Looks (Registry.Call.findEntries filter).query
  | mark : Looks (.other .mark)

/-- What a run ends with may be tried again. -/
def Retryable (r : Except Fault Instance) : Prop := ∃ g, r = .error g ∧ g.canRetry = true

theorem not_retryable_ok {i : Instance} : ¬ Retryable (.ok i) := fun ⟨_, h, _⟩ => nomatch h

theorem retryable_error {g : Fault} : Retryable (.error g) ↔ g.canRetry = true :=
  ⟨fun ⟨_, same, retry⟩ => Except.error.inj same ▸ retry, fun retry => ⟨g, rfl, retry⟩⟩

theorem retryable_inContext {f : Fault} {frame : String} :
    Retryable (.error (f.inContext frame)) ↔ f.canRetry = true :=
  retryable_error

/-- **Where a workflow stops at a fault of somebody who gives no such advice, it gives none.** -/
theorem Program.Halts.not_retryable {p : Workflow Instance} (h : p.Halts (Objection site request) [])
    (plain : ∀ e ∈ (p.trace answer s).exchanges, ∀ f, faultOf? e.query e.reply = some f →
      f.canRetry = false) : ¬ Retryable (p.trace answer s).result := by
  rintro ⟨g, failed, retry⟩
  obtain ⟨f, more, origin⟩ := h.origin failed
  rw [more.canRetry] at retry
  rcases origin with own | ⟨e, last, replied⟩
  · cases own.canRetry.symm.trans retry
  · cases (plain e (List.mem_of_getLast? last) f replied).symm.trans retry

/-- Where the first exchange invites nothing, the others decide. -/
theorem exists_invites_cons {es : List (Exchange (Timed Services) σ)}
    {e : Exchange (Timed Services) σ} (first : ¬ Invites e) :
    (∃ e' ∈ e :: es, Invites e') ↔ ∃ e' ∈ es, Invites e' := by
  simp only [List.mem_cons, exists_eq_or_imp, first, false_or]

theorem exists_invites_singleton {e : Exchange (Timed Services) σ} :
    (∃ e' ∈ [e], Invites e') ↔ Invites e := by
  simp only [List.mem_singleton, exists_eq_left]

theorem exists_invites_concat {es : List (Exchange (Timed Services) σ)}
    {e : Exchange (Timed Services) σ} (last : ¬ Invites e) :
    (∃ e' ∈ es ++ [e], Invites e') ↔ ∃ e' ∈ es, Invites e' := by
  refine ⟨?_, fun ⟨e', he, invites⟩ => ⟨e', List.mem_append_left _ he, invites⟩⟩
  rintro ⟨e', he, invites⟩
  rcases List.mem_append.mp he with he | he
  · exact ⟨e', he, invites⟩
  · cases List.mem_singleton.mp he
    exact absurd invites last

theorem not_invites_searched : ¬ Invites (searched answer request selected s) :=
  not_invites_of_registry rfl nofun

theorem invites_claimed {f : Fault} (refused : (claimed answer cid s).reply = .error f) :
    Invites (claimed answer cid s) ↔ f.kind = .poolConflict := by
  have failed : faultOf? (claimed answer cid s).query (claimed answer cid s).reply = some f :=
    faultOf?_eq_some.mpr refused
  refine ⟨?_, fun conflict => .inl ⟨cid, f, rfl, failed, conflict⟩⟩
  rintro (⟨cid, f', asks, failed', conflict⟩ | ⟨template, f', asks, -⟩)
  · cases failed.symm.trans failed'
    exact conflict
  · cases asks

theorem invites_ordered {f : Fault}
    (refused : (Provision.ordered answer request selected s).reply = .error f) :
    Invites (Provision.ordered answer request selected s) ↔ f.kind = .cloud := by
  have failed : faultOf? (Provision.ordered answer request selected s).query
      (Provision.ordered answer request selected s).reply = some f :=
    faultOf?_eq_some.mpr refused
  refine ⟨?_, fun kind => .inr ⟨_, f, rfl, failed, kind⟩⟩
  rintro (⟨cid, f', asks, -⟩ | ⟨template, f', asks, failed', kind⟩)
  · cases asks
  · cases failed.symm.trans failed'
    exact kind

/-! ## 2. Advice by course -/

theorem retryable_mapError {r : Except Fault Instance} {frame : String} :
    Retryable (r.mapError (·.inContext frame)) ↔ Retryable r := by
  cases r with
  | ok i => exact Iff.rfl
  | error f => exact retryable_inContext.trans retryable_error.symm

theorem not_retryable_conclusion {r : Except Fault Instance} {w : Except Fault Unit}
    (result : ¬ Retryable r) (write : ∀ f, w = .error f → f.canRetry = false) :
    ¬ Retryable (conclusion cid r w) := by
  intro retry
  match r, w with
  | .ok i, .ok () => exact not_retryable_ok retry
  | .ok i, .error f => cases (write f rfl).symm.trans (retryable_inContext.mp retry)
  | .error f, .ok () =>
    exact result (retryable_error.mpr (retryable_inContext.mp retry))
  | .error f, .error g => cases retryable_error.mp retry

theorem not_retryable_registered {i : Instance} {w : Except Fault Unit}
    (write : ∀ f, w = .error f → f.canRetry = false) : ¬ Retryable (registered i w) := by
  intro retry
  cases w with
  | ok _ => exact not_retryable_ok retry
  | error f => cases (write f rfl).symm.trans (retryable_inContext.mp retry)

/-- Where no instance was created, a fault of the cloud invites another try. -/
theorem abandon_canRetry {agentId : String} {steps : List Provision.Step} {f : Fault}
    (created : Provision.created steps = false) :
    (Provision.abandon agentId steps f).canRetry = (f.kind = .cloud || f.canRetry) := by
  unfold Provision.abandon
  rw [created]
  by_cases kind : f.kind = .cloud
  · simp [kind, Fault.retryable, Fault.inContext]
  · simp [kind, Fault.inContext]

/-- The last exchange of a run invites another try, and nothing was done before it. -/
def Fruitless (t : Trace (Timed Services) σ Instance) : Prop :=
  ∃ first e, t.exchanges = first ++ [e] ∧ Invites e ∧ ∀ e' ∈ first, Looks e'.query

/-- A run that may be tried again was fruitless, and no other run invites that. -/
def Advised (t : Trace (Timed Services) σ Instance) : Prop :=
  Retryable t.result ∧ Fruitless t ∨ ¬ Retryable t.result ∧ ¬ ∃ e ∈ t.exchanges, Invites e

/-- One more look before a run. -/
theorem Advised.after {t : Trace (Timed Services) σ Instance} (h : Advised t)
    {e : Exchange (Timed Services) σ} (looks : Looks e.query) (plain : ¬ Invites e) :
    Advised (t.precededBy [e]) := by
  rcases h with ⟨retry, first, last, ends, invites, before⟩ | ⟨final, none⟩
  · refine .inl ⟨retry, e :: first, last, congrArg (e :: ·) ends, invites, ?_⟩
    exact List.forall_mem_cons.mpr ⟨looks, before⟩
  · exact .inr ⟨final, mt (exists_invites_cons plain).mp none⟩

/-- **Provisioning invites another try** if and only if the order was not placed. -/
theorem build_advised
    (plain : ∀ e ∈ ((Provision.run site request selected).trace answer s).exchanges, ∀ f,
      faultOf? e.query e.reply = some f → f.canRetry = false) :
    Advised ((Provision.run site request selected).trace answer s) := by
  have marked : ¬ Invites (Provision.marked answer s) := not_invites_of_answered rfl
  rw [Provision.trace_run] at plain ⊢
  cases ordered : (Provision.ordered answer request selected s).reply with
  | ok receipt =>
    rw [ordered] at plain
    have order : ¬ Invites (Provision.ordered answer request selected s) :=
      not_invites_of_answered (faultOf?_eq_none.mpr ⟨_, ordered⟩)
    refine .inr ⟨?_, ?_⟩
    · exact (bringUp_halts site request selected).not_retryable fun e he =>
        plain e (List.mem_cons_of_mem _ (List.mem_cons_of_mem _ he))
    · refine mt ((exists_invites_cons marked).trans (exists_invites_cons order)).mp ?_
      rintro ⟨e, he, invites⟩
      exact not_invites_of_reclaim (.tend (Provision.broughtUp_asks e he)) invites
  | error f =>
    rw [ordered] at plain
    have refused : f.canRetry = false := plain _ (List.mem_cons_of_mem _ (List.mem_singleton_self _)) f
      (faultOf?_eq_some.mpr ordered)
    have retry : (Provision.abandon request.agentId [.templateRendered] (f.inContext
        s!"creating instance {Provision.hostname answer request s}")).canRetry = decide (f.kind = .cloud) := by
      rw [abandon_canRetry rfl]
      show (decide (f.kind = .cloud) || f.canRetry) = _
      rw [refused, Bool.or_false]
    have invites := invites_ordered ordered
    by_cases kind : f.kind = .cloud
    · refine .inl ⟨retryable_error.mpr (retry.trans (decide_eq_true kind)), [Provision.marked answer s], _,
        rfl, invites.mpr kind, List.forall_mem_singleton.mpr .mark⟩
    · refine .inr ⟨fun again => kind ?_, ?_⟩
      · exact of_decide_eq_true (retry.symm.trans (retryable_error.mp again))
      · refine mt ((exists_invites_cons marked).trans exists_invites_singleton).mp ?_
        exact mt invites.mp kind

/-- **An allocation invites another try** if and only if its claim came too late or its order was not
    placed, where nobody else gives such advice. -/
theorem allocation_advised
    (plain : ∀ e ∈ ((Allocation.run site request).trace answer s).exchanges, ∀ f,
      faultOf? e.query e.reply = some f → f.canRetry = false) :
    Advised ((Allocation.run site request).trace answer s) := by
  have taken : Course answer site request s := course answer site request s
  cases taken with
  | invalid refused =>
    rw [trace_invalid refused]
    refine .inr ⟨fun retry => ?_, fun ⟨e, he, _⟩ => nomatch he⟩
    cases (Networks.select_error refused).canRetry.symm.trans (retryable_inContext.mp retry)
  | fixed accepted pinned =>
    rw [trace_fixed accepted pinned] at plain ⊢
    refine .inr ⟨fun retry => ?_, fun ⟨e, he, invites⟩ =>
      not_invites_of_reclaim (reclaim_asks _ e he) invites⟩
    exact (reclaim_halts site _ request _).not_retryable plain (retryable_mapError.mp retry)
  | unsearched accepted pooled failed =>
    rw [trace_unsearched accepted pooled failed] at plain ⊢
    refine .inr ⟨fun retry => ?_, mt exists_invites_singleton.mp not_invites_searched⟩
    have refused := plain _ (List.mem_singleton_self _) _ (faultOf?_eq_some.mpr failed)
    cases refused.symm.trans (retryable_inContext.mp retry)
  | @denied _ _ _ f accepted pooled found refused =>
    rw [trace_denied accepted pooled found refused]
    have invites := invites_claimed refused
    by_cases conflict : f.kind = .poolConflict
    · refine .inl ⟨retryable_error.mpr (decide_eq_true conflict), [searched answer request _ s], _, rfl,
        invites.mpr conflict, List.forall_mem_singleton.mpr (.search _)⟩
    · refine .inr ⟨fun again => conflict (of_decide_eq_true (retryable_error.mp again)), ?_⟩
      refine mt ((exists_invites_cons not_invites_searched).trans exists_invites_singleton).mp ?_
      exact mt invites.mp conflict
  | @reused selected entry _ accepted pooled found granted =>
    rw [trace_reused accepted pooled found granted] at plain ⊢
    have claim : ¬ Invites (Hit.claim answer request selected entry.cid s) :=
      not_invites_of_answered (faultOf?_eq_none.mpr ⟨_, granted⟩)
    have last : ¬ Invites (Hit.last answer site request selected entry.cid s) :=
      not_invites_of_registry rfl fun _ same => nomatch (Registry.Call.updateState.inj same).2.1
    refine .inr ⟨?_, ?_⟩
    · refine not_retryable_conclusion ?_ fun f failed => ?_
      · refine (reclaim_halts site _ request _).not_retryable fun e he => plain e ?_
        exact List.mem_cons_of_mem _ (List.mem_cons_of_mem _ (List.mem_append_left _ he))
      · refine plain (Hit.last answer site request selected entry.cid s) ?_ f (faultOf?_eq_some.mpr failed)
        exact List.mem_cons_of_mem _ (List.mem_cons_of_mem _
          (List.mem_append_right _ (List.mem_singleton_self _)))
    · refine mt ((exists_invites_cons not_invites_searched).trans ((exists_invites_cons claim).trans
        (exists_invites_concat last))).mp ?_
      rintro ⟨e, he, invites⟩
      exact not_invites_of_reclaim (reclaim_asks _ e he) invites
  | unbuilt accepted pooled missed failed =>
    rw [trace_unbuilt accepted pooled missed failed] at plain ⊢
    have build := build_advised fun e he => plain e (List.mem_cons_of_mem _ he)
    rw [← failed]
    exact build.after (.search _) not_invites_searched
  | @built selected i accepted pooled missed ok =>
    rw [trace_built accepted pooled missed ok] at plain ⊢
    have build := build_advised fun e he => plain e
      (List.mem_cons_of_mem _ (List.mem_append_left _ he))
    have last : ¬ Invites (Miss.last answer site request selected s i) :=
      not_invites_of_registry rfl nofun
    have none := build.resolve_left fun ⟨⟨_, failed, _⟩, _⟩ => nomatch failed.symm.trans ok
    refine .inr ⟨?_, ?_⟩
    · refine not_retryable_registered fun f failed => plain _ (List.mem_cons_of_mem _
        (List.mem_append_right _ (List.mem_singleton_self _))) f (faultOf?_eq_some.mpr failed)
    · exact mt ((exists_invites_cons not_invites_searched).trans
        (exists_invites_concat last)).mp none.2

end Advice

/-! ## 3. What a world holds -/

/-- What an allocation may leave behind in a world: instances with their settings, the entries of the
    pool, and the aliases of hosts. -/
structure Holdings where
  machines : Dict UInt64 Machine
  settings : Dict UInt64 Agent.Settings
  entries : List Entry
  aliases : Dict String Address

/-- What a world holds. -/
def Simulation.World.holdings (w : World) : Holdings where
  machines := w.cloud.machines
  settings := w.cloud.settings
  entries := w.registry.entries
  aliases := w.aliases

namespace Simulation.World

/-- Requests over a transport change nothing that a world holds. -/
theorem http_keeps {α : Type} (p : Program Http α) (w : World) :
    ((p.run answerHttp).run w).2.holdings = w.holdings :=
  http_keeps_view (fun _ _ _ => rfl) p w

theorem serve_search_keeps (wiring : Wiring) (filter : Pool.Filter) (w : World) :
    ((serve wiring (.registry (.findEntries filter))) w).2.holdings = w.holdings := by
  unfold serve
  cases wiring.registry with
  | url base => exact http_keeps _ w
  | memory =>
    show (World.holdings { w with registry := (w.registry.answer (.findEntries filter)).2 }) = _
    unfold RegistryDouble.answer
    dsimp only
    split
    · rfl
    · rfl

theorem Journaled.holdings {w w₁ : World} (h : Journaled w w₁) : w₁.holdings = w.holdings := by
  unfold World.holdings
  rw [h.cloud, h.registry, h.aliases]

/-- Whatever is scripted for a call that changes nothing, it changes nothing. -/
theorem answerCall_keeps {wiring : Wiring} {call : Call}
    (serves : ∀ w, ((serve wiring call) w).2.holdings = w.holdings) (w : World) :
    (answerCall wiring call w).2.holdings = w.holdings := by
  obtain ⟨w₁, journaled, ⟨unserved, -⟩ | ⟨served, -⟩⟩ := answerCall_cases wiring call w
  · rw [unserved]
    exact journaled.holdings
  · rw [served, serves]
    exact journaled.holdings

theorem search_keeps (wiring : Wiring) (filter : Pool.Filter) (w : World) :
    (answer wiring (Registry.Call.findEntries filter).query w).2.holdings = w.holdings :=
  answerCall_keeps (serve_search_keeps wiring filter) w

end Simulation.World

/-! ## 4. Advice in a world -/

/-- A call that reports a fault has changed nothing that the world holds, and gives no advice to try
    again. -/
structure Sincere (e : Exchange (Timed Services) World) : Prop where
  plain : ∀ f, faultOf? e.query e.reply = some f → f.canRetry = false
  harmless : ∀ f, faultOf? e.query e.reply = some f → e.after.holdings = e.before.holdings

/-- Another try is advised in two cases, and then the world holds what it held before. -/
structure SoundAdvice (t : Trace (Timed Services) World Instance) (w : World) : Prop where
  exact : Retryable t.result ↔ ∃ e ∈ t.exchanges, Invites e
  safe : Retryable t.result → t.state.holdings = w.holdings

section World

variable {wiring : Wiring} {site : Site} {request : Request} {w : World}

theorem looks_keeps {q : (Timed Services).Query} (looks : Looks q) (w : World) :
    (World.answer wiring q w).2.holdings = w.holdings := by
  cases looks with
  | search filter => exact World.search_keeps wiring filter w
  | mark => rfl

theorem Invites.failed {σ : Type} {e : Exchange (Timed Services) σ} (invites : Invites e) :
    ∃ f, faultOf? e.query e.reply = some f := by
  rcases invites with ⟨_, f, _, failed, _⟩ | ⟨_, f, _, failed, _⟩
  · exact ⟨f, failed⟩
  · exact ⟨f, failed⟩

/-- A fruitless run leaves a world as it was. -/
theorem Fruitless.keeps {p : Workflow Instance} (h : Fruitless (p.trace (World.answer wiring) w))
    (sincere : ∀ e ∈ (p.trace (World.answer wiring) w).exchanges, Sincere e) :
    (p.trace (World.answer wiring) w).state.holdings = w.holdings := by
  obtain ⟨first, last, ends, invites, before⟩ := h
  refine Program.trace_keeps fun e he => ?_
  have asked := Program.exchanges_asked e he
  have honest := sincere e he
  rw [ends] at he
  rcases List.mem_append.mp he with he | he
  · obtain ⟨q, w', rfl⟩ := asked
    exact looks_keeps (before _ he) w'
  · cases List.mem_singleton.mp he
    obtain ⟨f, failed⟩ := invites.failed
    exact honest.harmless f failed

/-- **Advice to try again is exact and safe**, whatever the world holds and whatever is scripted. -/
theorem retry_advice_sound
    (sincere : ∀ e ∈ ((Allocation.run site request).trace (World.answer wiring) w).exchanges,
      Sincere e) :
    SoundAdvice ((Allocation.run site request).trace (World.answer wiring) w) w := by
  have advised : Advised ((Allocation.run site request).trace (World.answer wiring) w) :=
    allocation_advised fun e he => (sincere e he).plain
  rcases advised with ⟨retry, fruitless⟩ | ⟨final, none⟩
  · refine ⟨iff_of_true retry ?_, fun _ => fruitless.keeps sincere⟩
    obtain ⟨first, last, ends, invites, -⟩ := fruitless
    exact ⟨last, ends ▸ List.mem_append_right _ (List.mem_singleton_self _), invites⟩
  · exact ⟨iff_of_false final none, fun retry => absurd retry final⟩

end World

namespace Sample

/-- A world in which somebody else has won the claim of the one free entry. -/
def contested : World where
  registry := registry.failingUpdate 42 .provisioning (.new .poolConflict "claimed by another writer")

/-- The run of a request in that world. -/
def late : Trace (Timed Services) World Instance :=
  (Allocation.run {} request).trace (World.answer {}) contested

/-- It ends with the claim. -/
theorem late_eq : late = ⟨.error ⟨⟨.poolConflict, "claimed by another writer",
      ["updating pool entry 42 from free to provisioning"], true⟩, []⟩,
    (Hit.claim (World.answer {}) request selected 42 contested).after,
    [searched (World.answer {}) request selected contested,
      Hit.claim (World.answer {}) request selected 42 contested]⟩ := by
  have accepted : Networks.select request.networks = .ok selected := rfl
  have pooled : selected.fixedIp = none := rfl
  have found : (searched (World.answer {}) request selected contested).reply = .ok [entry] := rfl
  have refused : (Hit.claim (World.answer {}) request selected 42 contested).reply =
      .error (.new .poolConflict "claimed by another writer") := rfl
  exact trace_denied accepted pooled found refused

theorem late_sincere : ∀ e ∈ late.exchanges, Sincere e := by
  rw [late_eq]
  refine List.forall_mem_cons.mpr ⟨⟨nofun, nofun⟩, List.forall_mem_singleton.mpr ⟨fun f failed => ?_, ?_⟩⟩
  · cases (faultOf?_eq_some.mp failed : (.error _ : Except Fault Unit) = .error f)
    rfl
  · exact fun f failed => rfl

end Sample

theorem retry_advice_sound_in_contest :
    (∀ e ∈ Sample.late.exchanges, Sincere e) ∧ SoundAdvice Sample.late Sample.contested ∧
      Retryable Sample.late.result := by
  refine ⟨Sample.late_sincere, retry_advice_sound Sample.late_sincere, ?_⟩
  rw [Sample.late_eq]
  exact retryable_error.mpr rfl

end InstancePool
