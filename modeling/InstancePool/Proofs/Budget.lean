import InstancePool.Proofs.Courses
import InstancePool.Proofs.Serving

/-!
# The time an allocation takes

Where every call is answered at once, time passes in pauses only. Then a wait is over no later than its
timeout after it began, whatever its polls are answered and whenever the caller cancels, and has made no
more polls than fit into it. So an allocation takes no longer than the waits on its way.

* `Punctual`: an exchange in which time passes in a pause or not at all;
* `Program.Lasts`, `Program.Takes`: by when a program has ended, and after how many questions;
* `lasts_pollFrom`: the last poll of a wait is made at its deadline, and never later; `pollFrom_idle`:
  where there is time between two polls, nothing else ends it;
* `takes_settle`, `takes_reload`, `takes_reclaim`, `takes_provision`: the waits on each way;
* `allocation_within_budget`: all of them together.
-/

namespace InstancePool

open Simulation (World Clock)

/-! ## 1. Time in a trace -/

section Time

variable {I : Interface} {σ α β : Type}

/-- An exchange in which time passes in a pause or not at all. The clock is read as it stands, and a
    pause is as long as it should be, unless the caller cancels before its end. -/
def Punctual (clock : σ → Duration) : Exchange (Timed I) σ → Prop
  | ⟨.now, reply, before, after⟩ => reply = clock before ∧ clock after = clock before
  | ⟨.cancelled, _, before, after⟩ => clock after = clock before
  | ⟨.nap span, stopped, before, after⟩ =>
    clock before ≤ clock after ∧ clock after ≤ clock before + span ∧
      (stopped = false → clock after = clock before + span)
  | ⟨.other _, _, before, after⟩ => clock after = clock before

/-- Time never runs backwards. -/
theorem Punctual.onward {clock : σ → Duration} {e : Exchange (Timed I) σ} (h : Punctual clock e) :
    clock e.before ≤ clock e.after := by
  obtain ⟨query, reply, before, after⟩ := e
  cases query with
  | now => exact Nat.le_of_eq h.2.symm
  | cancelled => exact Nat.le_of_eq (Eq.symm h)
  | nap span => exact h.1
  | other q => exact Nat.le_of_eq (Eq.symm h)

namespace Program

variable {answer : Answering (Timed I) σ} {clock : σ → Duration} {s : σ} {p : Program (Timed I) α}

theorem trace_onward (punctual : ∀ e ∈ (p.trace answer s).exchanges, Punctual clock e) :
    clock s ≤ clock (p.trace answer s).state := by
  induction p generalizing s with
  | done a => exact Nat.le_refl _
  | fail f => exact Nat.le_refl _
  | ask q k ih =>
    obtain ⟨first, rest⟩ := List.forall_mem_cons.mp punctual
    have begun : clock s ≤ clock (answer q s).2 := first.onward
    exact Nat.le_trans begun (ih _ rest)

/-- Begun at `start` and answered punctually, the program ends at `finish` at the latest, and asks no
    more than so many questions. -/
def Lasts (start finish : Duration) (questions : Nat) (p : Program (Timed I) α) : Prop :=
  ∀ ⦃σ : Type⦄ (answer : Answering (Timed I) σ) (clock : σ → Duration) (s : σ), clock s = start →
    (∀ e ∈ (p.trace answer s).exchanges, Punctual clock e) →
      clock (p.trace answer s).state ≤ finish ∧ (p.trace answer s).exchanges.length ≤ questions

/-- Whenever it begins, the program takes no longer than `span` and no more than so many questions. -/
def Takes (span : Duration) (questions : Nat) (p : Program (Timed I) α) : Prop :=
  ∀ start, p.Lasts start (start + span) questions

-- Durations are numbers here, so that arithmetic sees through them.
variable {start finish mid span span' n n' : Nat} {next : α → Program (Timed I) β}

theorem lasts_done {a : α} (h : start ≤ finish) : (done a : Program (Timed I) α).Lasts start finish n :=
  fun _ _ _ _ begun _ => ⟨Nat.le_trans (Nat.le_of_eq begun) h, Nat.zero_le _⟩

theorem lasts_fail {f : Fault} (h : start ≤ finish) :
    (fail f : Program (Timed I) α).Lasts start finish n :=
  fun _ _ _ _ begun _ => ⟨Nat.le_trans (Nat.le_of_eq begun) h, Nat.zero_le _⟩

theorem Lasts.mono {finish' : Nat} (h : p.Lasts start finish n) (later : finish ≤ finish')
    (more : n ≤ n') : p.Lasts start finish' n' := by
  intro σ answer clock s begun punctual
  obtain ⟨ended, asked⟩ := h answer clock s begun punctual
  exact ⟨Nat.le_trans ended later, Nat.le_trans asked more⟩

theorem lasts_now {k : Duration → Program (Timed I) α} (h : (k start).Lasts start finish n) :
    (ask (I := Timed I) .now k).Lasts start finish (n + 1) := by
  intro σ answer clock s begun punctual
  obtain ⟨first, rest⟩ := List.forall_mem_cons.mp punctual
  have reading : (answer .now s).1 = start := Eq.trans first.1 begun
  have still : clock (answer .now s).2 = start := Eq.trans first.2 begun
  rw [← reading] at h
  obtain ⟨ended, asked⟩ := h answer clock _ (still.trans reading.symm) rest
  exact ⟨ended, Nat.succ_le_succ asked⟩

theorem lasts_cancelled {k : Bool → Program (Timed I) α} (h : ∀ stopped, (k stopped).Lasts start finish n) :
    (ask (I := Timed I) .cancelled k).Lasts start finish (n + 1) := by
  intro σ answer clock s begun punctual
  obtain ⟨first, rest⟩ := List.forall_mem_cons.mp punctual
  obtain ⟨ended, asked⟩ := h _ answer clock _ (Eq.trans first begun) rest
  exact ⟨ended, Nat.succ_le_succ asked⟩

theorem lasts_other {q : I.Query} {k : I.Reply q → Program (Timed I) α}
    (h : ∀ reply, (k reply).Lasts start finish n) :
    (ask (I := Timed I) (.other q) k).Lasts start finish (n + 1) := by
  intro σ answer clock s begun punctual
  obtain ⟨first, rest⟩ := List.forall_mem_cons.mp punctual
  obtain ⟨ended, asked⟩ := h _ answer clock _ (Eq.trans first begun) rest
  exact ⟨ended, Nat.succ_le_succ asked⟩

/-- After a pause, either all of it has passed or the caller has cancelled in it. -/
theorem lasts_nap {k : Bool → Program (Timed I) α} (slept : (k false).Lasts (start + span) finish n)
    (stopped : ∀ t, start ≤ t → t ≤ start + span → (k true).Lasts t finish n) :
    (ask (I := Timed I) (.nap span) k).Lasts start finish (n + 1) := by
  intro σ answer clock s begun punctual
  obtain ⟨⟨onward, bounded, whole⟩, rest⟩ := List.forall_mem_cons.mp punctual
  have next : (k (answer (.nap span) s).1).Lasts (clock (answer (.nap span) s).2) finish n := by
    cases reply : (answer (.nap span) s).1 with
    | false =>
      rw [show clock (answer (.nap span) s).2 = start + span from
        (whole reply).trans (congrArg (· + span) begun)]
      exact slept
    | true =>
      rw [begun] at onward bounded
      exact stopped _ onward bounded
  obtain ⟨ended, asked⟩ := next answer clock _ rfl rest
  exact ⟨ended, Nat.succ_le_succ asked⟩

theorem Lasts.bind (first : p.Lasts start mid n)
    (rest : ∀ a t, start ≤ t → t ≤ mid → (next a).Lasts t finish n') (h : mid ≤ finish) :
    (p.bind next).Lasts start finish (n + n') := by
  intro σ answer clock s begun punctual
  rw [trace_bind] at punctual ⊢
  cases ended : (p.trace answer s).result with
  | error f =>
    simp only [ended] at punctual ⊢
    obtain ⟨last, asked⟩ := first answer clock s begun punctual
    exact ⟨Nat.le_trans last h, Nat.le_add_right_of_le asked⟩
  | ok a =>
    simp only [ended, Trace.precededBy_exchanges, Trace.precededBy_state] at punctual ⊢
    obtain ⟨inFirst, inRest⟩ := List.forall_mem_append.mp punctual
    have onward : start ≤ clock (p.trace answer s).state := begun ▸ trace_onward inFirst
    obtain ⟨last, asked⟩ := first answer clock s begun inFirst
    obtain ⟨last', asked'⟩ := rest a _ onward last answer clock _ rfl inRest
    rw [List.length_append]
    exact ⟨last', Nat.add_le_add asked asked'⟩

theorem Lasts.mapFault {change : Fault → Fault} (h : p.Lasts start finish n) :
    (p.mapFault change).Lasts start finish n := by
  intro σ answer clock s begun punctual
  rw [trace_mapFault] at punctual ⊢
  exact h answer clock s begun punctual

theorem Lasts.attempt (h : p.Lasts start finish n) : p.attempt.Lasts start finish n := by
  intro σ answer clock s begun punctual
  rw [trace_attempt] at punctual ⊢
  exact h answer clock s begun punctual

theorem Takes.bounds (h : p.Takes span n)
    (punctual : ∀ e ∈ (p.trace answer s).exchanges, Punctual clock e) :
    clock (p.trace answer s).state ≤ clock s + span ∧ (p.trace answer s).exchanges.length ≤ n :=
  h (clock s) answer clock s rfl punctual

-- From here on a program is taken apart by these lemmas, and never by running it in a goal.
attribute [irreducible] Lasts

theorem takes_done {a : α} : (done a : Program (Timed I) α).Takes span n :=
  fun _ => lasts_done (Nat.le_add_right _ _)

theorem takes_fail {f : Fault} : (fail f : Program (Timed I) α).Takes span n :=
  fun _ => lasts_fail (Nat.le_add_right _ _)

theorem takes_ofExcept {r : Except Fault α} : (ofExcept r : Program (Timed I) α).Takes span n := by
  cases r with
  | ok a => exact takes_done
  | error f => exact takes_fail

theorem Takes.mono (h : p.Takes span n) (longer : span ≤ span') (more : n ≤ n') : p.Takes span' n' :=
  fun start => (h start).mono (Nat.add_le_add_left longer start) more

theorem takes_other {q : I.Query} {k : I.Reply q → Program (Timed I) α}
    (h : ∀ reply, (k reply).Takes span n) : (ask (I := Timed I) (.other q) k).Takes span (n + 1) :=
  fun start => lasts_other fun reply => h reply start

/-- **One program after another** takes as long as both. -/
theorem Takes.bind (first : p.Takes span n) (rest : ∀ a, (next a).Takes span' n') :
    (p.bind next).Takes (span + span') (n + n') := by
  intro start
  refine (first start).bind (fun a t _ reached => ?_) (by omega)
  exact (rest a t).mono (by omega) (Nat.le_refl _)

/-- What is left when nothing more is asked takes no time. -/
theorem Takes.last (first : p.Takes span n) (rest : ∀ a, (next a).Takes 0 0) :
    (p.bind next).Takes span n :=
  first.bind rest

theorem Takes.mapFault {change : Fault → Fault} (h : p.Takes span n) :
    (p.mapFault change).Takes span n :=
  fun start => (h start).mapFault

theorem Takes.inContext {frame : String} (h : p.Takes span n) : (p.inContext frame).Takes span n :=
  h.mapFault

theorem Takes.attempt (h : p.Takes span n) : p.attempt.Takes span n :=
  fun start => (h start).attempt

end Program

end Time

open Program

/-! ## 2. Waits -/

namespace Wait

/-- How many polls a wait makes at most: one at once, and one after each pause that fits. -/
def polls (interval span : Nat) : Nat := (span + interval - 1) / interval + 1

/-- A pause uses up one poll. -/
theorem polls_after_pause {interval left : Nat} (positive : 0 < interval) (going : 0 < left) :
    polls interval (left - min interval left) + 1 = polls interval left := by
  unfold polls
  by_cases whole : interval ≤ left
  · have split : left + interval - 1 = (left - interval + interval - 1) + interval := by omega
    have fewer : (left + interval - 1) / interval = (left - interval + interval - 1) / interval + 1 := by
      rw [split, Nat.add_div_right _ positive]
    rw [Nat.min_eq_left whole, fewer]
  · have last : (interval - 1) / interval = 0 := Nat.div_eq_of_lt (by omega)
    have one : (left + interval - 1) / interval = 1 := Nat.div_eq_of_lt_le (by omega) (by omega)
    rw [Nat.min_eq_right (by omega), Nat.sub_self, Nat.zero_add, last, one]

section Loop

variable {I : Interface} {interval started deadline n : Nat} {cid : UInt64} {condition : String}
  {poll : Program (Timed I) Bool}

/-- **The last poll of a wait is made at the deadline, and never later**, if polls take no time. -/
theorem lasts_pollFrom (positive : 0 < interval) (instant : poll.Takes 0 n) {start earliest idle : Nat}
    (reached : earliest ≤ start) (running : start ≤ deadline) :
    (pollFrom interval cid condition started deadline poll earliest idle).Lasts start deadline
      ((n + 3) * polls interval (deadline - start)) := by
  have counted : n + 3 ≤ (n + 3) * polls interval (deadline - start) :=
    Nat.le_mul_of_pos_right _ (Nat.succ_pos _)
  unfold pollFrom
  refine Lasts.mono (n := n + ((n + 3) * polls interval (deadline - start) - (n + 1)) + 1)
    (lasts_cancelled fun stopped => ?_) (Nat.le_refl _) (by omega)
  cases stopped with
  | true => exact lasts_fail running
  | false =>
    have polled : (poll.inContext s!"waiting for instance {cid} condition '{condition}'").Lasts start
      start n := Lasts.mapFault (instant start)
    refine polled.bind (fun met t after before => ?_) running
    obtain rfl : t = start := Nat.le_antisymm before after
    cases met with
    | true => exact lasts_done running
    | false =>
      refine Lasts.mono (n := (n + 3) * polls interval (deadline - t) - (n + 2) + 1)
        (lasts_now ?_) (Nat.le_refl _) (by omega)
      dsimp only
      rw [done_bind, Nat.max_eq_right reached]
      by_cases expired : deadline ≤ t ∨ idle = 0
      · rw [if_pos expired]
        exact lasts_fail running
      · rw [if_neg expired]
        have left : 0 < deadline - t := by omega
        have pause : t + min interval (deadline - t) ≤ deadline := by omega
        have fewer := Nat.mul_le_mul_left (n + 3) (Nat.le_of_eq (polls_after_pause positive left))
        have rest : deadline - (t + min interval (deadline - t)) =
          deadline - t - min interval (deadline - t) := by omega
        rw [Nat.mul_add, Nat.mul_one, ← rest] at fewer
        refine Lasts.mono
          (n := (n + 3) * polls interval (deadline - (t + min interval (deadline - t))) + 1)
          (lasts_nap ?_ fun t' _ within => ?_) (Nat.le_refl _) (by omega)
        · exact lasts_pollFrom positive instant (Nat.le_refl _) pause
        · exact lasts_fail (Nat.le_trans within pause)
termination_by (deadline - earliest, idle)
decreasing_by exact pause_lt reached expired

/-- **Where there is time between two polls, only the deadline bounds their number.** -/
theorem pollFrom_idle (positive : 0 < interval) {earliest idle idle' : Nat} (some : idle ≠ 0)
    (some' : idle' ≠ 0) :
    pollFrom interval cid condition started deadline poll earliest idle =
      pollFrom interval cid condition started deadline poll earliest idle' := by
  rw [pollFrom, pollFrom]
  refine congrArg (Bind.bind Timed.cancelled) (funext fun stopped => ?_)
  cases stopped with
  | true => rfl
  | false =>
    refine congrArg (Bind.bind (poll.inContext _)) (funext fun met => ?_)
    cases met with
    | true => rfl
    | false =>
      refine congrArg (Bind.bind Timed.now) (funext fun reading => ?_)
      dsimp only
      by_cases expired : deadline ≤ max earliest reading
      · rw [if_pos (Or.inl expired), if_pos (Or.inl expired)]
      · have going : ¬(deadline ≤ max earliest reading ∨ idle = 0) := by
          rintro (past | none)
          · exact expired past
          · exact some none
        have going' : ¬(deadline ≤ max earliest reading ∨ idle' = 0) := by
          rintro (past | none)
          · exact expired past
          · exact some' none
        have pause : min interval (deadline - max earliest reading) ≠ 0 := by omega
        rw [if_neg going, if_neg going']
        refine congrArg (Bind.bind (Timed.nap _)) (funext fun cut => ?_)
        cases cut with
        | true => rfl
        | false =>
          rw [if_neg pause, if_neg pause]
          exact pollFrom_idle positive some some'
termination_by deadline - earliest
decreasing_by omega

end Loop

end Wait

/-- How many questions a wait asks at most: when it begins, and four with each poll. -/
def Waits.questions (waits : Waits) (timeout : Duration) : Nat :=
  4 * Wait.polls waits.interval timeout + 1

section Waits

variable {waits : Waits} {cid : UInt64}

theorem takes_call (c : Call) : (Workflow.call c).Takes 0 1 :=
  takes_other fun _ => takes_ofExcept

theorem takes_reachable : (Condition.reachable cid).Takes 0 1 := by
  refine (takes_call _).attempt.last fun answer => ?_
  cases answer with
  | ok up => exact takes_done
  | error fault =>
    dsimp only
    split
    · exact takes_done
    · exact takes_fail

/-- A poll is one question, and takes no time. -/
theorem takes_probe (condition : Condition) : (condition.probe cid).Takes 0 1 := by
  cases condition with
  | idle => exact (takes_call _).last fun _ => takes_done
  | busy => exact (takes_call _).last fun _ => takes_done
  | power target => exact (takes_call _).last fun _ => takes_done
  | completed groups => exact (takes_call _).last fun _ => takes_done
  | pingable => exact takes_reachable
  | notPingable => exact takes_reachable.last fun _ => takes_done

theorem takes_order (sizeGb : UInt64) : (Disk.order cid sizeGb).Takes 0 1 := by
  refine (takes_call _).attempt.last fun answer => ?_
  cases answer with
  | ok number => exact takes_done
  | error fault =>
    dsimp only
    split
    · exact takes_done
    · exact takes_fail

variable (positive : 0 < waits.interval)

include positive

/-- **A wait is over no later than its timeout after it began.** -/
theorem takes_awaitWithin (timeout : Duration) (condition : Condition) :
    (condition.awaitWithin waits timeout cid).Takes timeout (waits.questions timeout) := by
  unfold Condition.awaitWithin
  split
  · exact takes_fail
  · intro start
    have wait : (Wait.pollFrom waits.interval cid condition.text start (start + timeout)
        (condition.probe cid) start Wait.idlePauses).Lasts start (start + timeout)
          (4 * Wait.polls waits.interval (start + timeout - start)) :=
      Wait.lasts_pollFrom positive (takes_probe condition) (Nat.le_refl start)
        (Nat.le_add_right start timeout)
    rw [Nat.add_sub_cancel_left] at wait
    exact lasts_now wait

theorem takes_await (condition : Condition) :
    (condition.await waits cid).Takes waits.timeout (waits.questions waits.timeout) :=
  takes_awaitWithin positive _ condition

/-! ## 3. The ways to an instance -/

/-- Four waits follow the order of a disk. -/
theorem takes_finish :
    (Disk.finish waits cid).Takes (4 * waits.timeout) (4 * waits.questions waits.timeout + 1) := by
  have steps : (Disk.finish waits cid).Takes
      (waits.timeout + (waits.timeout + (waits.timeout + (waits.timeout + 0))))
      (waits.questions waits.timeout + (waits.questions waits.timeout +
        (waits.questions waits.timeout + (waits.questions waits.timeout + 1)))) := by
    refine (takes_await positive _).inContext.bind fun _ => ?_
    refine (takes_await positive _).inContext.bind fun _ => ?_
    refine (takes_await positive _).inContext.bind fun _ => ?_
    refine (takes_await positive _).inContext.bind fun _ => ?_
    refine (takes_call _).inContext.last fun devices => ?_
    dsimp only
    split
    · exact takes_fail
    · exact takes_done
  exact steps.mono (by omega) (by omega)

/-- Six waits make up the attachment of a disk. -/
theorem takes_attach (sizeGb : UInt64) :
    (Disk.attach waits cid sizeGb).Takes (6 * waits.timeout)
      (6 * waits.questions waits.timeout + 2) := by
  have steps : (Disk.attach waits cid sizeGb).Takes
      (waits.timeout + (waits.timeout + (0 + 4 * waits.timeout)))
      (waits.questions waits.timeout + (waits.questions waits.timeout +
        (1 + (4 * waits.questions waits.timeout + 1)))) := by
    refine (takes_await positive _).inContext.bind fun _ => ?_
    refine (takes_await positive _).inContext.bind fun _ => ?_
    refine (takes_order sizeGb).bind fun placed => ?_
    cases placed with
    | true => exact takes_finish positive
    | false => exact takes_done
  exact steps.mono (by omega) (by omega)

end Waits

/-- How many waits it takes until an instance is settled, with an extra disk or without one. -/
def Waits.toSettle (disk : Bool) : Nat := if disk then 6 else 1

section Ways

variable {site : Site} {request : Request} {selected : Networks} {cid : UInt64}

theorem takes_settle {waits : Waits} (positive : 0 < waits.interval) (diskSizeGb : Option UInt64) :
    let count := Waits.toSettle (diskSizeGb.filter (0 < ·)).isSome
    (Agent.settle waits cid diskSizeGb).Takes (count * waits.timeout)
      (count * waits.questions waits.timeout + 2) := by
  unfold Agent.settle
  cases diskSizeGb.filter (0 < ·) with
  | some sizeGb => exact (takes_attach positive sizeGb).mapFault
  | none =>
    exact (takes_await positive _).mapFault.mono (by simp [Waits.toSettle]) (by simp [Waits.toSettle])

theorem takes_resolveEndpoints (options : Agent.Options) (i : Instance) (externalIp : Option Address) :
    (Agent.resolveEndpoints options i externalIp).Takes 0 1 := by
  have address : (Agent.resolveAddress i externalIp).Takes 0 1 := by
    unfold Agent.resolveAddress
    split
    · exact takes_done
    · exact (takes_call _).inContext.last fun _ => takes_done
    · exact takes_fail
  exact address.last fun _ => takes_ofExcept

theorem takes_configure (options : Agent.Options) (i : Instance) (endpoints : Agent.Endpoints) :
    (Agent.configure options i request selected endpoints).Takes 0 1 :=
  (takes_call _).inContext.last fun _ => takes_done

theorem takes_applyCredential (options : Agent.Options) :
    (Agent.applyCredential options cid).Takes 0 1 := by
  unfold Agent.applyCredential
  split
  · exact takes_done
  · rename_i credential _
    have allowed : (ofExcept credential.validate : Workflow Unit).Takes 0 0 := takes_ofExcept
    exact allowed.bind fun _ => (takes_call _).inContext

theorem takes_locate (target : Reclaim.Target) : (Reclaim.locate target).Takes 0 1 := by
  cases target with
  | cid cid => exact (takes_call _).inContext
  | ip ip =>
    unfold Reclaim.locate
    dsimp only
    split
    · exact (takes_call _).inContext
    · exact (takes_call _).inContext

theorem takes_transition (before after : Pool.State) : (Pool.transition cid before after).Takes 0 1 := by
  unfold Pool.transition
  split
  · exact (takes_call _).inContext
  · exact takes_fail

variable (positive : 0 < site.waits.interval)

include positive

/-- Only the wait for the end of a reload has the longer timeout. -/
theorem takes_reload (stemcell : Stemcell) :
    (Reclaim.reload site.waits cid stemcell).Takes (site.waits.reloadTimeout + site.waits.timeout)
      (1 + (site.waits.questions site.waits.timeout +
        site.waits.questions site.waits.reloadTimeout)) := by
  have steps : (Reclaim.reload site.waits cid stemcell).Takes
      (0 + (site.waits.timeout + site.waits.reloadTimeout))
      (1 + (site.waits.questions site.waits.timeout +
        site.waits.questions site.waits.reloadTimeout)) := by
    refine (takes_call _).inContext.bind fun _ => ?_
    refine (takes_await positive _).inContext.bind fun _ => ?_
    exact (takes_awaitWithin positive _ _).inContext
  exact steps.mono (by omega) (Nat.le_refl _)

/-- **A reclaim** waits twice for the reload, and until the instance is settled. -/
theorem takes_reclaim (target : Reclaim.Target) :
    let count := Waits.toSettle request.diskSize.isSome
    (Reclaim.run site target request selected).Takes
      (site.waits.reloadTimeout + (count + 1) * site.waits.timeout)
      ((count + 1) * site.waits.questions site.waits.timeout +
        site.waits.questions site.waits.reloadTimeout + 8) := by
  intro count
  have steps : (Reclaim.run site target request selected).Takes
      (0 + (site.waits.reloadTimeout + site.waits.timeout + (count * site.waits.timeout +
        (0 + (0 + (0 + 0))))))
      (1 + (1 + (site.waits.questions site.waits.timeout +
        site.waits.questions site.waits.reloadTimeout) +
          (count * site.waits.questions site.waits.timeout + 2 + (1 + (1 + (1 + 1)))))) := by
    rw [Reclaim.run_eq]
    refine (takes_locate target).bind fun found => ?_
    refine (takes_reload positive _).bind fun _ => ?_
    refine (takes_settle positive _).bind fun _ => ?_
    refine (takes_resolveEndpoints _ _ _).bind fun endpoints => ?_
    refine (takes_call _).inContext.bind fun refreshed => ?_
    refine (takes_configure _ _ _).bind fun _ => ?_
    exact (takes_applyCredential _).last fun _ => takes_done
  refine steps.mono ?_ ?_
  · rw [Nat.add_mul]
    omega
  · rw [Nat.add_mul]
    omega

/-- **Building an instance** waits until it is settled. -/
theorem takes_build :
    let count := Waits.toSettle request.diskSize.isSome
    (Provision.run site request selected).Takes (count * site.waits.timeout)
      (count * site.waits.questions site.waits.timeout + 8) := by
  intro count
  have steps : (Provision.run site request selected).Takes
      (0 + (0 + (count * site.waits.timeout + (0 + (0 + (0 + 0))))))
      (1 + (1 + (count * site.waits.questions site.waits.timeout + 2 + (1 + (1 + (1 + 1)))))) := by
    have marked : Workflow.mark.Takes 0 1 := takes_other fun _ => takes_done
    rw [Provision.run_eq]
    refine marked.bind fun mark => ?_
    refine (takes_call _).inContext.mapFault.bind fun receipt => ?_
    refine (takes_settle positive _).mapFault.bind fun _ => ?_
    refine (takes_call _).inContext.mapFault.bind fun i => ?_
    refine (takes_resolveEndpoints _ _ _).mapFault.bind fun endpoints => ?_
    refine (takes_configure _ _ _).mapFault.bind fun _ => ?_
    exact (takes_applyCredential _).mapFault.last fun _ => takes_done
  exact steps.mono (by omega) (by omega)

/-- A new instance is also entered into the pool. -/
theorem takes_provision :
    let count := Waits.toSettle request.diskSize.isSome
    (Allocation.provision site request selected).Takes (count * site.waits.timeout)
      (count * site.waits.questions site.waits.timeout + 9) := by
  intro count
  have steps : (Allocation.provision site request selected).Takes (count * site.waits.timeout + 0)
      (count * site.waits.questions site.waits.timeout + 8 + 1) := by
    refine (takes_build positive).bind fun i => ?_
    exact (takes_call _).inContext.last fun _ => takes_done
  exact steps

/-- An instance of the pool is also claimed, and its claim ended by one write. -/
theorem takes_reuse :
    let count := Waits.toSettle request.diskSize.isSome
    (Allocation.reuse site cid request selected).Takes
      (site.waits.reloadTimeout + (count + 1) * site.waits.timeout)
      ((count + 1) * site.waits.questions site.waits.timeout +
        site.waits.questions site.waits.reloadTimeout + 10) := by
  intro count
  have ended : ∀ r, (Allocation.finish cid r).Takes 0 1 := by
    intro r
    cases r with
    | ok i => exact (takes_transition _ _).last fun _ => takes_done
    | error fault =>
      refine (takes_transition _ _).attempt.last fun undone => ?_
      cases undone with
      | ok _ => exact takes_fail
      | error compensation => exact takes_fail
  have steps : (Allocation.reuse site cid request selected).Takes
      (0 + (site.waits.reloadTimeout + (count + 1) * site.waits.timeout + 0))
      (1 + ((count + 1) * site.waits.questions site.waits.timeout +
        site.waits.questions site.waits.reloadTimeout + 8 + 1)) := by
    rw [Allocation.reuse_eq]
    refine (takes_transition _ _).mapFault.bind fun _ => ?_
    exact (takes_reclaim positive _).attempt.bind fun r => ended r
  exact steps.mono (by omega) (by omega)

end Ways

/-! ## 4. The budget of an allocation -/

namespace Allocation

/-- The ways to an instance. -/
inductive Route where
  /-- None is sought: the networks are refused, or the pool cannot be searched. -/
  | turnedAway
  /-- A new one is built, since the pool has none that fits. -/
  | built
  /-- One that exists is used again: that of the address the request insists on, or one of the pool. -/
  | reused
deriving DecidableEq

/-- The way that an allocation takes. -/
def route {σ : Type} (answer : Answering (Timed Services) σ) (request : Request) (s : σ) : Route :=
  match Networks.select request.networks with
  | .error _ => .turnedAway
  | .ok selected =>
    match selected.fixedIp with
    | some _ => .reused
    | none =>
      match (searched answer request selected s).reply with
      | .error _ => .turnedAway
      | .ok [] => .built
      | .ok (_ :: _) => .reused

/-- The time that each way takes at most, with an extra disk or without one. -/
def Route.time (waits : Waits) (disk : Bool) : Route → Duration
  | turnedAway => 0
  | built => if disk then 6 * waits.timeout else waits.timeout
  | reused => waits.reloadTimeout + if disk then 7 * waits.timeout else 2 * waits.timeout

/-- The questions that are asked at most on each way. -/
def Route.questions (waits : Waits) (disk : Bool) : Route → Nat
  | turnedAway => 1
  | built => Waits.toSettle disk * waits.questions waits.timeout + 10
  | reused => (Waits.toSettle disk + 1) * waits.questions waits.timeout +
      waits.questions waits.reloadTimeout + 11

theorem Route.time_built (waits : Waits) (disk : Bool) :
    Route.built.time waits disk = Waits.toSettle disk * waits.timeout := by
  cases disk with
  | true => rfl
  | false => exact (Nat.one_mul _).symm

theorem Route.time_reused (waits : Waits) (disk : Bool) :
    Route.reused.time waits disk =
      waits.reloadTimeout + (Waits.toSettle disk + 1) * waits.timeout := by
  cases disk with
  | true => rfl
  | false => rfl

end Allocation

section Allocations

open Allocation

variable {σ : Type} {answer : Answering (Timed Services) σ} {site : Site} {request : Request}
  {clock : σ → Duration} {s : σ}

/-- A search is answered at once. -/
theorem choose_within {selected : Networks} {entries : List Pool.Entry} {span n : Nat}
    (accepted : Networks.select request.networks = .ok selected) (pooled : selected.fixedIp = none)
    (found : (searched answer request selected s).reply = .ok entries)
    (takes : (choose site request selected entries).Takes span n)
    (punctual : ∀ e ∈ ((run site request).trace answer s).exchanges, Punctual clock e) :
    clock ((run site request).trace answer s).state ≤ clock s + span ∧
      ((run site request).trace answer s).exchanges.length ≤ n + 1 := by
  rw [trace_answered accepted pooled found] at punctual ⊢
  obtain ⟨search, rest⟩ := List.forall_mem_cons.mp punctual
  have still : clock (searched answer request selected s).after = clock s := search
  obtain ⟨ended, asked⟩ := takes.bounds rest
  rw [still] at ended
  exact ⟨ended, Nat.succ_le_succ asked⟩

/-- **An allocation ends, and within a budget fixed by the configuration.** Its calls may be answered
    in any way that takes no time, and the caller may cancel whenever it likes. -/
theorem allocation_within_budget (positive : 0 < site.waits.interval)
    (punctual : ∀ e ∈ ((run site request).trace answer s).exchanges, Punctual clock e) :
    let t := (run site request).trace answer s
    let way := route answer request s
    let disk := request.diskSize.isSome
    clock t.state ≤ clock s + way.time site.waits disk ∧
      t.exchanges.length ≤ way.questions site.waits disk := by
  intro t way disk
  cases accepted : Networks.select request.networks with
  | error f =>
    have ended : t = ⟨_, s, []⟩ := trace_invalid accepted
    rw [ended]
    exact ⟨Nat.le_add_right _ _, Nat.zero_le _⟩
  | ok selected =>
    cases pinned : selected.fixedIp with
    | some ip =>
      have went : way = .reused := by simp only [way, route, accepted, pinned]
      have whole : t = _ := trace_fixed accepted pinned
      have reclaimed : ∀ e ∈ ((Reclaim.run site (.ip ip) request selected).trace answer s).exchanges,
          Punctual clock e := by
        intro e he
        exact punctual e (by rw [trace_fixed accepted pinned]; exact he)
      obtain ⟨ended, asked⟩ := (takes_reclaim positive _).bounds reclaimed
      rw [went, Route.time_reused, whole]
      exact ⟨ended, Nat.le_trans asked (Nat.add_le_add_left (by omega) _)⟩
    | none =>
      cases found : (searched answer request selected s).reply with
      | error f =>
        have ended : t = ⟨_, (searched answer request selected s).after,
          [searched answer request selected s]⟩ := trace_unsearched accepted pinned found
        have search : Punctual clock (searched answer request selected s) := by
          refine punctual _ ?_
          rw [trace_unsearched accepted pinned found]
          exact List.mem_singleton_self _
        have went : way = .turnedAway := by simp only [way, route, accepted, pinned, found]
        have still : clock (searched answer request selected s).after = clock s := search
        rw [went, ended]
        exact ⟨Nat.le_of_eq still, Nat.le_refl _⟩
      | ok entries =>
        cases entries with
        | nil =>
          have went : way = .built := by simp only [way, route, accepted, pinned, found]
          rw [went, Route.time_built]
          exact choose_within accepted pinned found (takes_provision positive) punctual
        | cons entry rest =>
          have went : way = .reused := by simp only [way, route, accepted, pinned, found]
          rw [went, Route.time_reused]
          exact choose_within accepted pinned found (takes_reuse positive) punctual

end Allocations

/-! ## 5. Worlds in which calls take no time -/

namespace Simulation.World

variable {wiring : Wiring} {w : World}

/-- Where nothing is scripted a call takes no time. -/
theorem answerCall_keeps_pace (unscripted : w.script = []) (call : Call) :
    (answerCall wiring call w).2.pace = w.pace := by
  have plain : w.script.next? call.operation = none := by
    rw [unscripted]
    rfl
  rw [answerCall_unscripted wiring plain]
  exact serve_keeps_pace wiring call _

/-- A pause on the virtual clock ends at its end, or when the caller cancels. -/
theorem nap_punctual (c : Clock) (span : Nat) :
    c.time ≤ (c.nap span).2.time ∧ (c.nap span).2.time ≤ c.time + span ∧
      ((c.nap span).1 = false → (c.nap span).2.time = c.time + span) := by
  obtain ⟨time, cancelsAt⟩ := c
  cases cancelsAt with
  | none => exact ⟨Nat.le_add_right _ _, Nat.le_refl _, fun _ => rfl⟩
  | some moment =>
    unfold Clock.nap
    dsimp only
    split
    · exact ⟨Nat.le_add_right _ _, Nat.le_refl _, fun _ => rfl⟩
    · rename_i early
      have cut : ∀ t m d : Nat, ¬(t + d ≤ m ∧ t < m) → max t m ≤ t + d := by omega
      exact ⟨Nat.le_max_left _ _, cut time moment span early, nofun⟩

/-- **In a world without a script time passes in pauses only**, whenever the caller cancels. -/
theorem trace_punctual {α : Type} (p : Workflow α) (unscripted : w.script = []) :
    ∀ e ∈ (p.trace (answer wiring) w).exchanges, Punctual (·.clock.time) e := by
  have preserved : ∀ q w, w.script = [] → (answer wiring q w).2.script = [] := by
    intro q w unscripted
    cases q with
    | now => exact unscripted
    | cancelled => exact unscripted
    | nap span => exact unscripted
    | other q =>
      cases q with
      | mark => exact unscripted
      | call call =>
        exact (congrArg Prod.snd (answerCall_keeps_pace unscripted call)).trans unscripted
  intro e he
  have idle := (Program.trace_preserves preserved unscripted).1 e he
  obtain ⟨q, w', rfl⟩ := Program.exchanges_asked e he
  cases q with
  | now => exact ⟨rfl, rfl⟩
  | cancelled => exact rfl
  | nap span => exact nap_punctual w'.clock span
  | other q =>
    cases q with
    | mark => exact rfl
    | call call => exact congrArg (·.1.time) (answerCall_keeps_pace idle call)

end Simulation.World

namespace Sample

/-- A world with an empty pool, in which the caller cancels after seven seconds. -/
def hasty : World := { clock := { cancelsAt := some (Duration.ofSeconds 7) } }

/-- An allocation in that world. -/
def brief : Trace (Timed Services) World Instance :=
  (Allocation.run {} request).trace (World.answer {}) hasty

end Sample

open Sample in
/-- A new instance is built there, without an extra disk, and the default timeout is an hour. -/
theorem allocation_within_budget_in_hasty_world :
    (∀ e ∈ brief.exchanges, Punctual (·.clock.time) e) ∧
      brief.state.clock.time ≤ Duration.ofSeconds 3600 ∧ brief.exchanges.length ≤ 2895 := by
  have punctual : ∀ e ∈ brief.exchanges, Punctual (·.clock.time) e := World.trace_punctual _ rfl
  have way : Allocation.route (World.answer {}) request hasty = .built := rfl
  have positive : 0 < ({} : Site).waits.interval := by decide
  obtain ⟨ended, asked⟩ := allocation_within_budget positive punctual
  rw [way] at ended asked
  exact ⟨punctual, Nat.le_trans ended (by decide), Nat.le_trans asked (by decide)⟩

end InstancePool
