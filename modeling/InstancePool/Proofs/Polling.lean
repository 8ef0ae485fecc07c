import Mathlib
import InstancePool.Simulation.Probes
import InstancePool.Proofs.Budget

/-!
# How a wait polls

A wait polls until it gets an answer that decides, or until a poll has been answered no at its deadline or
later. Where time is kept and nobody cancels, all else follows from that: when each poll is made, how long
each pause is, how many polls there are and what the wait ends with.

* `Steady`: an exchange in which time is kept and nobody cancels;
* `pollFrom_eq`, `trace_decided`, `trace_no`: one round of a wait;
* `Course`, `pollFrom_course`, `await_course`: the rounds of a wait, one after another;
* `Course.inTime`, `Course.starts`, `Course.length_le`, `Course.grid`, `Course.flips`: what they come to;
* `Respondent`: whoever is polled in a wait by itself;
* `first_decisive_poll_decides`: the polls and pauses of any wait, and what decides it;
* `no_condition_is_missed`: a wait for a condition that holds from some moment on.
-/

namespace InstancePool

open Simulation (Clock Probe Probed)

/-! ## 1. Time that is kept -/

/-- An exchange in which time is kept and nobody cancels. The clock is read as it stands, a pause is
    exactly as long as it should be, and a question of another kind takes as long as it takes. -/
def Steady {I : Interface} {σ : Type} (clock : σ → Duration) : Exchange (Timed I) σ → Prop
  | ⟨.now, reply, before, after⟩ => reply = clock before ∧ clock after = clock before
  | ⟨.cancelled, stopped, before, after⟩ => stopped = false ∧ clock after = clock before
  | ⟨.nap span, stopped, before, after⟩ => stopped = false ∧ clock after = clock before + span
  | ⟨.other _, _, before, after⟩ => clock before ≤ clock after

namespace Wait

/-! ## 2. One round -/

/-- A poll as it was made. -/
@[ext]
structure Polled where
  start : Duration
  finish : Duration
  answer : Except Fault Bool

/-- What a wait ends with after its last poll. -/
def outcome (cid : UInt64) (condition : String) (begun : Duration) (last : Polled) : Except Fault Unit :=
  match last.answer with
  | .ok true => .ok ()
  | .ok false => .error (.timeout cid condition (last.finish - begun))
  | .error f => .error (f.inContext s!"waiting for instance {cid} condition '{condition}'")

/-- A wait whose last poll is answered no is out of time. -/
theorem outcome_no {cid : UInt64} {condition : String} {begun : Duration} {last : Polled}
    (no : last.answer = .ok false) :
    outcome cid condition begun last = .error (.timeout cid condition (last.finish - begun)) := by
  rw [outcome, no]

section Rounds

variable {I : Interface} {σ : Type}

/-- A poll that asks one question, and takes its answer from the reply. -/
def asking (q : I.Query) (read : I.Reply q → Except Fault Bool) : Program (Timed I) Bool :=
  .ask (.other q) fun reply => .ofExcept (read reply)

/-- What a wait does after a poll. -/
def afterPoll (interval : Duration) (cid : UInt64) (condition : String) (started deadline : Duration)
    (poll : Program (Timed I) Bool) (earliest : Duration) (idle : Nat) : Bool → Program (Timed I) Unit
  | true => .done ()
  | false => .ask .now fun reading =>
    let now := max earliest reading
    if deadline ≤ now ∨ idle = 0 then .fail (.timeout cid condition (now - started))
    else .ask (.nap (min interval (deadline - now))) fun stopped =>
      if stopped then .fail (.cancelled cid condition)
      else pollFrom interval cid condition started deadline poll (now + min interval (deadline - now))
        (if min interval (deadline - now) = 0 then idle - 1 else idle)

/-- A round: whether to go on, a poll, and what follows it. -/
theorem pollFrom_eq {interval started deadline earliest : Duration} {idle : Nat} {cid : UInt64}
    {condition : String} (poll : Program (Timed I) Bool) :
    pollFrom interval cid condition started deadline poll earliest idle =
      .ask .cancelled fun stopped =>
        if stopped then .fail (.cancelled cid condition)
        else (poll.inContext s!"waiting for instance {cid} condition '{condition}'").bind
          (afterPoll interval cid condition started deadline poll earliest idle) := by
  rw [pollFrom]
  refine congrArg (Program.ask _) (funext fun stopped => ?_)
  cases stopped with
  | true => rfl
  | false =>
    show (poll.inContext _).bind _ = (poll.inContext _).bind _
    refine congrArg (Program.bind _) (funext fun met => ?_)
    cases met with
    | true => rfl
    | false => rfl

namespace Round

variable (answer : Answering (Timed I) σ) (clock : σ → Duration) (q : I.Query)
  (read : I.Reply q → Except Fault Bool) (span : Duration) (s : σ)

/-- The question with which a round begins: whether the caller has cancelled. -/
@[reducible] def begun : Exchange (Timed I) σ := answer.exchange .cancelled s

/-- The poll of a round. -/
@[reducible] def polled : Exchange (Timed I) σ := answer.exchange (.other q) (begun answer s).after

/-- The look at the clock after a poll that was answered no. -/
@[reducible] def looked : Exchange (Timed I) σ := answer.exchange .now (polled answer q s).after

/-- The pause before the next round. -/
@[reducible] def slept : Exchange (Timed I) σ := answer.exchange (.nap span) (looked answer q s).after

/-- In the round that begins in the state `s`, this poll is made, and at once. -/
structure Makes (p : Polled) : Prop where
  start : p.start = clock s
  atOnce : clock (polled answer q s).before = clock s
  finish : p.finish = clock (polled answer q s).after
  onward : p.start ≤ p.finish
  answer : p.answer = read (polled answer q s).reply

end Round

variable {q : I.Query} {read : I.Reply q → Except Fault Bool} {answer : Answering (Timed I) σ}
  {cid : UInt64} {condition : String} {clock : σ → Duration}
  -- Durations are numbers here, so that arithmetic sees through them.
  {interval started deadline : Nat}

/-- A poll is one exchange. -/
theorem trace_asking {s : σ} (frame : String) :
    ((asking q read).inContext frame).trace answer s =
      ⟨(read (answer.exchange (.other q) s).reply).mapError (·.inContext frame),
        (answer.exchange (.other q) s).after, [answer.exchange (.other q) s]⟩ := by
  unfold asking Program.inContext
  rw [Program.trace_mapFault, Program.trace_ask, Program.trace_ofExcept]
  rfl

section Round

variable {earliest idle : Nat} {s : σ}

/-- Nothing is polled once the caller has cancelled. -/
theorem trace_cancelled (stopped : (Round.begun answer s).reply = true) :
    (pollFrom interval cid condition started deadline (asking q read) earliest idle).trace answer s =
      ⟨.error (.cancelled cid condition), (Round.begun answer s).after, [Round.begun answer s]⟩ := by
  rw [pollFrom_eq, Program.trace_ask, stopped, if_pos rfl]
  rfl

variable (going : (Round.begun answer s).reply = false)

include going

/-- A poll that is answered by yes or a fault is the last one. -/
theorem trace_decided {p : Polled} (same : p.answer = read (Round.polled answer q s).reply)
    (decisive : p.answer ≠ .ok false) :
    (pollFrom interval cid condition started deadline (asking q read) earliest idle).trace answer s =
      ⟨outcome cid condition started p, (Round.polled answer q s).after,
        [Round.begun answer s, Round.polled answer q s]⟩ := by
  rw [pollFrom_eq, Program.trace_ask, going, if_neg (by decide), Program.trace_bind, trace_asking, ← same]
  unfold outcome
  match p.answer, decisive with
  | .ok true, _ => rfl
  | .error f, _ => rfl

variable (no : read (Round.polled answer q s).reply = .ok false)

include no

/-- After a poll that is answered no, the wait looks at the clock. -/
theorem trace_no :
    (pollFrom interval cid condition started deadline (asking q read) earliest idle).trace answer s =
      ((afterPoll interval cid condition started deadline (asking q read) earliest idle false).trace answer
        (Round.polled answer q s).after).precededBy [Round.begun answer s, Round.polled answer q s] := by
  rw [pollFrom_eq, Program.trace_ask, going, if_neg (by decide), Program.trace_bind, trace_asking, no]
  rfl

variable {now : Nat} (reading : max earliest (Round.looked answer q s).reply = now)

include reading

/-- If the poll was the last one in time, the wait ends. -/
theorem trace_late (spent : deadline ≤ now) :
    (pollFrom interval cid condition started deadline (asking q read) earliest idle).trace answer s =
      ⟨.error (.timeout cid condition (now - started)), (Round.looked answer q s).after,
        [Round.begun answer s, Round.polled answer q s, Round.looked answer q s]⟩ := by
  rw [trace_no going no, afterPoll, Program.trace_ask]
  dsimp only
  rw [reading, if_pos (Or.inl spent)]
  rfl

/-- If not, there is a pause, and another round after it unless the caller has cancelled. -/
theorem trace_pause (more : ¬(deadline ≤ now ∨ idle = 0)) {span : Nat}
    (whole : span = min interval (deadline - now)) :
    (pollFrom interval cid condition started deadline (asking q read) earliest idle).trace answer s =
      ((if (Round.slept answer q span s).reply then .fail (.cancelled cid condition)
        else pollFrom interval cid condition started deadline (asking q read) (now + span)
          (if span = 0 then idle - 1 else idle)).trace answer (Round.slept answer q span s).after).precededBy
        [Round.begun answer s, Round.polled answer q s, Round.looked answer q s,
          Round.slept answer q span s] := by
  rw [trace_no going no, afterPoll, Program.trace_ask]
  dsimp only
  rw [reading, if_neg more, ← whole, Program.trace_ask]
  rfl

end Round

/-! ## 3. The course of a wait -/

section Course

variable (answer : Answering (Timed I) σ) (clock : σ → Duration) (q : I.Query)
  (read : I.Reply q → Except Fault Bool) (interval deadline : Duration)

/-- How a wait goes on from a state in which a poll is due, where time is kept and nobody cancels: its
    exchanges, the state they leave, the polls that are answered no before the deadline, and the last
    poll. -/
inductive Course : σ → List (Exchange (Timed I) σ) → σ → List Polled → Polled → Prop where
  /-- The poll is answered by yes or a fault. -/
  | decided {s : σ} {p : Polled} (made : Round.Makes answer clock q read s p)
    (decisive : p.answer ≠ .ok false) :
    Course s [Round.begun answer s, Round.polled answer q s] (Round.polled answer q s).after [] p
  /-- The poll is answered no, and ends at the deadline or later. -/
  | late {s : σ} {p : Polled} (made : Round.Makes answer clock q read s p) (no : p.answer = .ok false)
    (spent : deadline ≤ p.finish) (still : clock (Round.looked answer q s).after = p.finish) :
    Course s [Round.begun answer s, Round.polled answer q s, Round.looked answer q s]
      (Round.looked answer q s).after [] p
  /-- The poll is answered no in time, and another round follows after a pause. -/
  | again {s s' : σ} {p last : Polled} {es : List (Exchange (Timed I) σ)} {quiet : List Polled}
    (span : Duration) (whole : span = min interval (deadline - p.finish))
    (made : Round.Makes answer clock q read s p) (no : p.answer = .ok false)
    (early : p.finish < deadline)
    (still : clock (Round.looked answer q s).after = p.finish)
    (slept : clock (Round.slept answer q span s).after = p.finish + span)
    (rest : Course (Round.slept answer q span s).after es s' quiet last) :
    Course s (Round.begun answer s :: Round.polled answer q s :: Round.looked answer q s ::
      Round.slept answer q span s :: es) s' (p :: quiet) last

end Course

section Pauses

variable {start finish : Nat}

/-- There is always time for one poll. -/
theorem polls_zero (positive : 0 < interval) : polls interval 0 = 1 := by
  unfold polls
  rw [Nat.zero_add, Nat.div_eq_of_lt (Nat.sub_lt positive Nat.one_pos)]

/-- A pause ends at the deadline at the latest. -/
theorem pause_within (early : finish < deadline) :
    finish + min interval (deadline - finish) ≤ deadline := by
  omega

/-- After a pause the deadline is nearer. -/
theorem pause_nearer (positive : 0 < interval) (onward : start ≤ finish) (early : ¬deadline ≤ finish) :
    deadline - (finish + min interval (deadline - finish)) < deadline - start := by
  omega

/-- After a poll and a pause one poll less may follow. -/
theorem polls_after_round (positive : 0 < interval) (onward : start ≤ finish) (early : finish < deadline) :
    polls interval (deadline - (finish + min interval (deadline - finish))) + 1 ≤
      polls interval (deadline - start) := by
  have left : 0 < deadline - finish := Nat.sub_pos_of_lt early
  have pause := polls_after_pause positive left
  have longer : polls interval (deadline - finish) ≤ polls interval (deadline - start) :=
    Nat.succ_le_succ (Nat.div_le_div_right (by omega))
  rw [Nat.sub_add_eq]
  exact Nat.le_trans (Nat.le_of_eq pause) longer

/-- The points of the grid after a pause are those before it, without the first one. -/
theorem grid_after_pause (interval deadline start k : Nat) :
    start + min interval (deadline - start) +
        min (k * interval) (deadline - (start + min interval (deadline - start))) =
      start + min ((k + 1) * interval) (deadline - start) := by
  rw [Nat.add_mul, Nat.one_mul]
  omega

theorem ceil_after_interval {left : Nat} (positive : 0 < interval) (going : 0 < left) :
    (left - interval) ⌈/⌉ interval + 1 = left ⌈/⌉ interval := by
  have pause := polls_after_pause positive going
  have same : left - min interval left = left - interval := by omega
  rw [same] at pause
  exact Nat.succ.inj pause

/-- The point of the grid at which a moment is noticed is the same before and after a pause. -/
theorem noticed_after_pause {moment : Nat} (deadline : Nat) (positive : 0 < interval)
    (before : start < moment) :
    start + min interval (deadline - start) +
        min ((moment - (start + min interval (deadline - start))) ⌈/⌉ interval * interval)
          (deadline - (start + min interval (deadline - start))) =
      start + min ((moment - start) ⌈/⌉ interval * interval) (deadline - start) := by
  have left : 0 < moment - start := Nat.sub_pos_of_lt before
  have ceil := ceil_after_interval positive left
  rw [← ceil, Nat.add_mul, Nat.one_mul]
  by_cases whole : interval ≤ deadline - start
  · rw [Nat.min_eq_left whole, Nat.sub_add_eq]
    omega
  · rw [Nat.min_eq_right (Nat.le_of_not_le whole)]
    omega

end Pauses

/-- The rounds of a wait that has pauses left to make take a course. -/
theorem pollFrom_course (positive : 0 < interval) {earliest idle : Nat} {s : σ}
    (reached : earliest ≤ clock s) (some : idle ≠ 0)
    (steady : ∀ e ∈ ((pollFrom interval cid condition started deadline (asking q read) earliest
      idle).trace answer s).exchanges, Steady clock e) :
    ∃ es s' quiet last, Course answer clock q read interval deadline s es s' quiet last ∧
      (pollFrom interval cid condition started deadline (asking q read) earliest idle).trace answer s =
        ⟨outcome cid condition started last, s', es⟩ := by
  have first : Steady clock (Round.begun answer s) := by
    rw [pollFrom_eq, Program.trace_ask] at steady
    exact steady _ List.mem_cons_self
  have going : (Round.begun answer s).reply = false := first.1
  have atOnce : clock (Round.begun answer s).after = clock s := first.2
  let p : Polled := ⟨clock s, clock (Round.polled answer q s).after, read (Round.polled answer q s).reply⟩
  have makes (polled : Steady clock (Round.polled answer q s)) : Round.Makes answer clock q read s p :=
    ⟨rfl, atOnce, rfl, Nat.le_trans (Nat.le_of_eq atOnce.symm) polled, rfl⟩
  by_cases no : p.answer = .ok false
  · have noted := steady
    rw [trace_no going no, afterPoll, Program.trace_ask] at noted
    obtain ⟨-, polled, looked, -⟩ := (List.forall_mem_cons.mp noted).imp_right fun h =>
      (List.forall_mem_cons.mp h).imp_right List.forall_mem_cons.mp
    have made := makes polled
    have reached : earliest ≤ p.finish := Nat.le_trans reached made.onward
    have still : clock (Round.looked answer q s).after = p.finish := looked.2
    have reading : max earliest (Round.looked answer q s).reply = p.finish := by
      rw [show (Round.looked answer q s).reply = p.finish from looked.1]
      exact Nat.max_eq_right reached
    by_cases spent : deadline ≤ p.finish
    · rw [trace_late going no reading spent]
      refine ⟨_, _, [], p, .late made no spent still, ?_⟩
      rw [outcome_no no]
    · have more : ¬(deadline ≤ p.finish ∨ idle = 0) := fun h => h.elim spent some
      have span : min interval (deadline - p.finish) ≠ 0 := by omega
      rw [trace_pause going no reading more rfl, if_neg span] at steady ⊢
      have slept : Steady clock (Round.slept answer q (min interval (deadline - p.finish)) s) :=
        steady _ (by simp)
      have woken : clock (Round.slept answer q (min interval (deadline - p.finish)) s).after =
          p.finish + min interval (deadline - p.finish) := slept.2.trans (congrArg (· + _) still)
      rw [show (Round.slept answer q (min interval (deadline - p.finish)) s).reply = false from slept.1,
        if_neg (by decide)] at steady ⊢
      have nearer := pause_nearer positive reached spent
      obtain ⟨es, s', quiet, last, rest, ended⟩ :=
        pollFrom_course positive (Nat.le_of_eq woken.symm) some
          fun e he => steady e (List.mem_append_right _ he)
      rw [ended]
      exact ⟨_, s', p :: quiet, last,
        .again _ rfl made no (Nat.lt_of_not_le spent) still woken rest, rfl⟩
  · rw [trace_decided going (p := p) rfl no] at steady ⊢
    have polled : Steady clock (Round.polled answer q s) :=
      steady _ (List.mem_cons_of_mem _ (List.mem_singleton_self _))
    exact ⟨_, _, [], p, .decided (makes polled) no, rfl⟩
termination_by deadline - earliest
decreasing_by exact nearer

/-- **A wait takes its course** where time is kept and nobody cancels. -/
theorem await_course (positive : 0 < interval) {timeout : Nat} {s : σ}
    (steady : ∀ e ∈ ((await interval cid condition timeout (asking q read)).trace answer s).exchanges,
      Steady clock e) :
    ∃ es s' quiet last,
      Course answer clock q read interval (clock s + timeout) (answer.exchange .now s).after es s' quiet
        last ∧
      clock (answer.exchange .now s).after = clock s ∧
      (await interval cid condition timeout (asking q read)).trace answer s =
        ⟨outcome cid condition (clock s) last, s', answer.exchange .now s :: es⟩ := by
  obtain ⟨⟨reading, still⟩, -⟩ := List.forall_mem_cons.mp steady
  have reading : (answer .now s).1 = clock s := reading
  have whole : (await interval cid condition timeout (asking q read)).trace answer s =
      ((pollFrom interval cid condition (clock s) (clock s + timeout) (asking q read) (clock s)
        idlePauses).trace answer (answer.exchange .now s).after).precededBy [answer.exchange .now s] := by
    rw [← reading]
    rfl
  rw [whole] at steady ⊢
  obtain ⟨es, s', quiet, last, course, ended⟩ :=
    pollFrom_course positive (Nat.le_of_eq still.symm) (by decide) (List.forall_mem_cons.mp steady).2
  rw [ended]
  exact ⟨es, s', quiet, last, course, still, rfl⟩

/-! ## 4. What a course comes to -/

namespace Course

variable {s s' : σ} {es : List (Exchange (Timed I) σ)} {quiet : List Polled} {last : Polled}

/-- The pause after a poll that took no time ends where it would if it had begun with the round. -/
theorem woken {span : Duration} {p : Polled} (finish : p.finish = clock s) (early : p.finish < deadline)
    (whole : span = min interval (deadline - p.finish))
    (slept : clock (Round.slept answer q span s).after = p.finish + span) :
    clock (Round.slept answer q span s).after = clock s + min interval (deadline - clock s) ∧
      clock (Round.slept answer q span s).after ≤ deadline := by
  rw [slept, whole, finish]
  exact ⟨rfl, pause_within (finish ▸ early)⟩

/-- Every poll is made in a round of its own. -/
theorem made (course : Course answer clock q read interval deadline s es s' quiet last) :
    ∀ p ∈ quiet ++ [last], ∃ s, Round.Makes answer clock q read s p := by
  induction course with
  | decided made => exact List.forall_mem_singleton.mpr ⟨_, made⟩
  | late made => exact List.forall_mem_singleton.mpr ⟨_, made⟩
  | again _ _ made _ _ _ _ _ ih => exact List.forall_mem_cons.mpr ⟨⟨_, made⟩, ih⟩

/-- No poll is made before the course begins. -/
theorem begins (course : Course answer clock q read interval deadline s es s' quiet last) :
    ∀ p ∈ quiet ++ [last], clock s ≤ p.start := by
  induction course with
  | decided made => exact List.forall_mem_singleton.mpr (Nat.le_of_eq made.start.symm)
  | late made => exact List.forall_mem_singleton.mpr (Nat.le_of_eq made.start.symm)
  | @again s s' p last es quiet span whole made no early still slept rest ih =>
    have onward : clock s ≤ clock (Round.slept answer q span s).after := by
      rw [slept, ← made.start]
      exact Nat.le_trans made.onward (Nat.le_add_right _ _)
    exact List.forall_mem_cons.mpr
      ⟨Nat.le_of_eq made.start.symm, fun p hp => Nat.le_trans onward (ih p hp)⟩

/-- The polls before the last one are answered no, and in time. -/
theorem undecided (course : Course answer clock q read interval deadline s es s' quiet last) :
    ∀ p ∈ quiet, p.answer = .ok false ∧ p.finish < deadline := by
  induction course with
  | decided => exact fun p hp => nomatch hp
  | late => exact fun p hp => nomatch hp
  | again _ _ _ no early _ _ _ ih => exact List.forall_mem_cons.mpr ⟨⟨no, early⟩, ih⟩

/-- The last poll decides, or ends at the deadline or later. -/
theorem spent (course : Course answer clock q read interval deadline s es s' quiet last)
    (no : last.answer = .ok false) : deadline ≤ last.finish := by
  induction course with
  | decided made decisive => exact absurd no decisive
  | late made no spent => exact spent
  | again _ _ _ _ _ _ _ _ ih => exact ih no

/-- No time passes after the last poll. -/
theorem ends (course : Course answer clock q read interval deadline s es s' quiet last) :
    clock s' = last.finish := by
  induction course with
  | decided made => exact made.finish.symm
  | late _ _ _ still => exact still
  | again _ _ _ _ _ _ _ _ ih => exact ih

/-- A course takes its time. -/
theorem onward (course : Course answer clock q read interval deadline s es s' quiet last) :
    clock s ≤ clock s' := by
  have included : last ∈ quiet ++ [last] := List.mem_append_right _ (List.mem_singleton_self _)
  obtain ⟨_, made⟩ := course.made last included
  rw [course.ends]
  exact Nat.le_trans (course.begins last included) made.onward

/-- The first poll is made at once, and each later one when the pause after the one before is over. -/
theorem starts (course : Course answer clock q read interval deadline s es s' quiet last) :
    (quiet ++ [last]).map (·.start) =
      clock s :: quiet.map fun p => p.finish + min interval (deadline - p.finish) := by
  induction course with
  | decided made => exact congrArg (· :: []) made.start
  | late made => exact congrArg (· :: []) made.start
  | again span whole made _ _ _ slept _ ih =>
    rw [List.cons_append, List.map_cons, ih, made.start, slept, whole]
    rfl

/-- **No poll starts later than the deadline.** -/
theorem inTime (course : Course answer clock q read interval deadline s es s' quiet last)
    (begun : clock s ≤ deadline) : ∀ p ∈ quiet ++ [last], p.start ≤ deadline := by
  intro p hp
  have start : p.start ∈ (quiet ++ [last]).map (·.start) := List.mem_map_of_mem hp
  rw [course.starts] at start
  rcases List.mem_cons.mp start with first | later
  · exact first ▸ begun
  · obtain ⟨p', hp', pause⟩ := List.mem_map.mp later
    have early := (course.undecided p' hp').2
    exact pause ▸ pause_within early

/-- **No more polls are made than pauses fit**, and one. -/
theorem length_le (positive : 0 < interval)
    (course : Course answer clock q read interval deadline s es s' quiet last) :
    (quiet ++ [last]).length ≤ polls interval (deadline - clock s) := by
  induction course with
  | decided => exact Nat.succ_pos _
  | late => exact Nat.succ_pos _
  | again span whole made _ early _ slept _ ih =>
    have fewer := polls_after_round positive made.onward early
    rw [slept, whole] at ih
    rw [← made.start]
    exact Nat.le_trans (Nat.succ_le_succ ih) fewer

/-- **Polls that take no time are made on a grid**, which the deadline cuts short. -/
theorem grid (positive : 0 < interval)
    (course : Course answer clock q read interval deadline s es s' quiet last) (begun : clock s ≤ deadline)
    (instant : ∀ p ∈ quiet ++ [last], p.answer = .ok false ∧ p.finish = p.start) :
    quiet ++ [last] = (List.range (polls interval (deadline - clock s))).map fun k =>
      let moment := clock s + min (k * interval) (deadline - clock s)
      ⟨moment, moment, .ok false⟩ := by
  induction course with
  | decided made decisive =>
    exact absurd (instant _ (List.mem_singleton_self _)).1 decisive
  | @late s p made no spent still =>
    have finish : p.finish = clock s := (instant _ (List.mem_singleton_self _)).2.trans made.start
    have left : deadline - clock s = 0 := Nat.sub_eq_zero_of_le (finish ▸ spent)
    have only : p = ⟨clock s, clock s, .ok false⟩ := Polled.ext made.start finish no
    rw [left, polls_zero positive, only, List.range_one]
    simp
  | @again s s' p last es quiet span whole made no early still slept rest ih =>
    obtain ⟨first, later⟩ := List.forall_mem_cons.mp instant
    have finish : p.finish = clock s := first.2.trans made.start
    have this : p = ⟨clock s, clock s, .ok false⟩ := Polled.ext made.start finish no
    obtain ⟨woken, inTime⟩ := woken finish early whole slept
    have left : 0 < deadline - clock s := Nat.sub_pos_of_lt (finish ▸ early)
    have more := polls_after_pause positive left
    rw [← Nat.sub_add_eq, ← woken] at more
    rw [List.cons_append, ih inTime later, ← more, List.range_succ_eq_map, List.map_cons, List.map_map, this]
    refine congrArg₂ List.cons (by simp) (List.map_congr_left fun k _ => ?_)
    have point := grid_after_pause interval deadline (clock s) k
    rw [← woken] at point
    exact Polled.ext point point rfl

/-- A poll is answered no only before the condition holds. -/
theorem before_of_no {p : Polled} {start moment : Nat} (answered : p.answer = .ok (decide (moment ≤ start)))
    (no : p.answer = .ok false) : start < moment := by
  have answered : decide (moment ≤ start) = false := Except.ok.inj (answered.symm.trans no)
  exact Nat.lt_of_not_le (of_decide_eq_false answered)

/-- **A condition is noticed at the first point of the grid at which it holds**, if there is one. -/
theorem flips (positive : 0 < interval) {moment : Nat}
    (course : Course answer clock q read interval deadline s es s' quiet last) (begun : clock s ≤ deadline)
    (instant : ∀ p ∈ quiet ++ [last],
      p.answer = .ok (decide (moment ≤ p.start)) ∧ p.finish = p.start) :
    (moment ≤ deadline → last.answer = .ok true ∧
      last.finish = clock s + min ((moment - clock s) ⌈/⌉ interval * interval) (deadline - clock s)) ∧
    (deadline < moment → last.answer = .ok false ∧ last.finish = deadline) := by
  induction course with
  | @decided s p made decisive =>
    obtain ⟨answered, finish⟩ := instant _ (List.mem_singleton_self _)
    rw [made.start] at answered finish
    have holds : moment ≤ clock s := by
      by_contra before
      exact decisive (answered.trans (congrArg Except.ok (decide_eq_false before)))
    refine ⟨fun _ => ⟨?_, ?_⟩, fun missed =>
      absurd (Nat.le_trans holds begun) (Nat.not_le_of_lt missed)⟩
    · rw [answered, decide_eq_true holds]
    · rw [finish, Nat.sub_eq_zero_of_le holds]
      simp
  | @late s p made no spent still =>
    obtain ⟨answered, finish⟩ := instant _ (List.mem_singleton_self _)
    rw [made.start] at answered finish
    have before : clock s < moment := before_of_no answered no
    have last : clock s = deadline := Nat.le_antisymm begun (finish ▸ spent)
    refine ⟨fun noticed => ?_, fun _ => ⟨no, finish.trans last⟩⟩
    exact absurd (last ▸ noticed) (Nat.not_le_of_lt before)
  | @again s s' p last es quiet span whole made no early still slept rest ih =>
    obtain ⟨⟨answered, finish⟩, later⟩ := List.forall_mem_cons.mp instant
    rw [made.start] at answered finish
    have before : clock s < moment := before_of_no answered no
    obtain ⟨woken, inTime⟩ := woken finish early whole slept
    obtain ⟨noticed, missed⟩ := ih inTime later
    have point := noticed_after_pause deadline positive before
    rw [← woken] at point
    exact ⟨fun inTime => ⟨(noticed inTime).1, (noticed inTime).2.trans point⟩, missed⟩

end Course

end Rounds

/-! ## 5. A wait by itself -/

/-- Whoever is polled in a wait by itself: what a poll made at some time is answered, and how long that
    takes. -/
abbrev Respondent (σ : Type) : Type := Duration → StateM σ Probed

/-- A pause as it was begun: when, and for how long. -/
structure Pause where
  start : Duration
  span : Duration

section Alone

variable {σ : Type}

/-- What the questions of a wait by itself are answered with. -/
def Respondent.answer (r : Respondent σ) : Answering (Timed Probe) (Clock × σ)
  | .now => fun w => (w.1.time, w)
  | .cancelled => fun w => (w.1.cancelled, w)
  | .nap span => fun w => ((w.1.nap span).1, (w.1.nap span).2, w.2)
  | .other () => fun w =>
    let reply := r w.1.time w.2
    (reply.1.answer, w.1.pass reply.1.takes, reply.2)

/-- The poll that an exchange is. -/
def polled? : Exchange (Timed Probe) (Clock × σ) → Option Polled
  | ⟨.other (), reply, before, after⟩ => some ⟨before.1.time, after.1.time, reply⟩
  | _ => none

/-- The pause that an exchange is. -/
def paused? : Exchange (Timed Probe) (Clock × σ) → Option Pause
  | ⟨.nap span, _, before, _⟩ => some ⟨before.1.time, span⟩
  | _ => none

/-- The polls among some exchanges, in order. -/
def polledIn (es : List (Exchange (Timed Probe) (Clock × σ))) : List Polled := es.filterMap polled?

/-- The pauses among some exchanges, in order. -/
def pausedIn (es : List (Exchange (Timed Probe) (Clock × σ))) : List Pause := es.filterMap paused?

variable {r : Respondent σ} {interval deadline : Nat} {s s' : Clock × σ}
  {es : List (Exchange (Timed Probe) (Clock × σ))} {quiet : List Polled} {last : Polled}

/-- Where the caller never cancels, time is kept. -/
theorem Respondent.steady {α : Type} (p : Program (Timed Probe) α) (undisturbed : s.1.cancelsAt = none) :
    ∀ e ∈ (p.trace r.answer s).exchanges, Steady (·.1.time) e := by
  have preserved : ∀ q (w : Clock × σ), w.1.cancelsAt = none → (r.answer q w).2.1.cancelsAt = none := by
    rintro q ⟨⟨time, cancelsAt⟩, state⟩ undisturbed
    cases undisturbed
    cases q <;> rfl
  intro e he
  have still := (Program.trace_preserves preserved undisturbed).1 e he
  obtain ⟨q, ⟨⟨time, cancelsAt⟩, state⟩, rfl⟩ := Program.exchanges_asked e he
  cases still
  cases q with
  | now => exact ⟨rfl, rfl⟩
  | cancelled => exact ⟨rfl, rfl⟩
  | nap span => exact ⟨rfl, rfl⟩
  | other q => exact Nat.le_add_right _ _

/-- The poll of a round, as it is seen. -/
theorem Round.Makes.seen {p : Polled} (made : Round.Makes r.answer (·.1.time) () id s p) :
    ⟨(Round.polled r.answer () s).before.1.time, (Round.polled r.answer () s).after.1.time,
      (Round.polled r.answer () s).reply⟩ = p :=
  Polled.ext (made.atOnce.trans made.start.symm) made.finish.symm made.answer.symm

/-- The polls and the pauses of a course are those of its exchanges. -/
theorem Course.seen (course : Course r.answer (·.1.time) () id interval deadline s es s' quiet last) :
    polledIn es = quiet ++ [last] ∧
      pausedIn es = quiet.map fun p => ⟨p.finish, min interval (deadline - p.finish)⟩ := by
  induction course with
  | decided made => exact ⟨congrArg (· :: []) made.seen, rfl⟩
  | late made => exact ⟨congrArg (· :: []) made.seen, rfl⟩
  | again span whole made _ _ still _ _ ih =>
    exact ⟨congrArg₂ List.cons made.seen ih.1,
      congrArg₂ List.cons (congrArg₂ Pause.mk still whole) ih.2⟩

end Alone

/-! ## 6. The first poll that decides -/

section Deciding

variable {σ : Type} {cid : UInt64} {condition : String} {interval : Nat}

/-- How a wait of `timeout` is conducted that began at `begun`: by its polls, of which `last` is the last
    one, and its pauses, and what it comes to at which time. -/
structure Conduct (interval : Duration) (cid : UInt64) (condition : String) (timeout begun : Duration)
    (quiet : List Polled) (last : Polled) (pauses : List Pause) (result : Except Fault Unit)
    (finished : Duration) : Prop where
  /-- No poll starts later than the timeout after the beginning. -/
  inTime : ∀ p ∈ quiet ++ [last], p.start ≤ begun + timeout
  /-- The polls before the last one are answered no, and end before the deadline. -/
  undecided : ∀ p ∈ quiet, p.answer = .ok false ∧ p.finish < begun + timeout
  /-- After each of them there is a pause of the interval, or of what is left if that is less. -/
  paused : pauses = quiet.map fun p => ⟨p.finish, min interval (begun + timeout - p.finish)⟩
  /-- The first poll is made at once, and each later one when a pause is over. -/
  starts : (quiet ++ [last]).map (·.start) = begun :: pauses.map fun pause => pause.start + pause.span
  /-- The last poll is the first one that decides, or it ends at the deadline or later. -/
  spent : last.answer = .ok false → begun + timeout ≤ last.finish
  /-- It decides what the wait comes to, as soon as it ends. -/
  answered : result = outcome cid condition begun last ∧ finished = last.finish
  /-- Time is up only where all polls are answered no and the last one ends at the deadline or later. -/
  expired : ∀ elapsed, result = .error (.timeout cid condition elapsed) →
    (∀ p ∈ quiet ++ [last], p.answer = .ok false) ∧ begun + timeout ≤ last.finish ∧
      result = .error (.timeout cid condition (last.finish - begun))
  /-- There are no more polls than pauses fit, and one. -/
  count : (quiet ++ [last]).length ≤ timeout ⌈/⌉ interval + 1
  /-- If all of them are answered no and take no time, there are exactly that many. -/
  grid : (∀ p ∈ quiet ++ [last], p.answer = .ok false ∧ p.finish = p.start) →
    (quiet ++ [last] = (List.range (timeout ⌈/⌉ interval + 1)).map fun k =>
      let moment := begun + min (k * interval) timeout
      ⟨moment, moment, .ok false⟩) ∧
    finished = begun + timeout ∧ result = .error (.timeout cid condition timeout)

/-- A wait ends with a timeout only if its last poll was answered no. -/
theorem no_of_timeout {begun elapsed : Duration} {last : Polled}
    (expired : outcome cid condition begun last = .error (.timeout cid condition elapsed)) :
    last.answer = .ok false := by
  unfold outcome at expired
  split at expired
  · cases expired
  · assumption
  · -- A fault of the poll has a frame around it, and a timeout has none.
    rename_i f _
    have framed : (f.inContext s!"waiting for instance {cid} condition '{condition}'").context = [] :=
      congrArg (·.context) (Except.error.inj expired)
    exact absurd framed (List.append_ne_nil_of_right_ne_nil _ (List.cons_ne_nil _ _))

/-- **A wait is decided by the first poll that is not answered no**, and it is never given up before its
    time. Whoever is polled may answer as it likes, and take as long as it likes. -/
theorem first_decisive_poll_decides (positive : 0 < interval) (r : Respondent σ)
    (timeout begun : Duration) (state : σ) :
    let t := (await interval cid condition timeout Probe.poll).trace r.answer ({ time := begun }, state)
    ∃ quiet last, polledIn t.exchanges = quiet ++ [last] ∧
      Conduct interval cid condition timeout begun quiet last (pausedIn t.exchanges) t.result
        t.state.1.time := by
  intro t
  have steady : ∀ e ∈ t.exchanges, Steady (·.1.time) e :=
    r.steady (s := ({ time := begun }, state)) (await interval cid condition timeout Probe.poll) rfl
  obtain ⟨es, s', quiet, last, course, still, whole⟩ := await_course positive steady
  have whole : t = ⟨outcome cid condition begun last, s', _ :: es⟩ := whole
  obtain ⟨made, pauses⟩ := course.seen
  have now : (Respondent.answer r .now ({ time := begun }, state)).2.1.time ≤ begun + timeout :=
    Nat.le_add_right _ _
  have left : begun + timeout - begun = timeout := Nat.add_sub_cancel_left _ _
  rw [whole]
  refine ⟨quiet, last, made, ?_⟩
  constructor
  case inTime => exact course.inTime now
  case undecided => exact course.undecided
  case paused => exact pauses
  case starts =>
    have woken : (pausedIn es).map (fun pause => pause.start + pause.span) =
        quiet.map fun p => p.finish + min interval (begun + timeout - p.finish) := by
      rw [pauses, List.map_map]
      rfl
    exact course.starts.trans (congrArg (begun :: ·) woken.symm)
  case spent => exact course.spent
  case answered => exact ⟨rfl, course.ends⟩
  case expired =>
    intro elapsed expired
    have no := no_of_timeout expired
    refine ⟨List.forall_mem_append.mpr ⟨fun p hp => (course.undecided p hp).1, ?_⟩, course.spent no, ?_⟩
    · exact List.forall_mem_singleton.mpr no
    · exact outcome_no no
  case count =>
    have bound : (quiet ++ [last]).length ≤ polls interval (begun + timeout - begun) :=
      course.length_le positive
    rw [left] at bound
    exact bound
  case grid =>
    intro instant
    have points := course.grid positive now instant
    have finish : last.finish = begun + timeout := by
      obtain ⟨no, atOnce⟩ := instant last (List.mem_append_right _ (List.mem_singleton_self _))
      have inTime := course.inTime now last (List.mem_append_right _ (List.mem_singleton_self _))
      exact Nat.le_antisymm (atOnce ▸ inTime) (course.spent no)
    refine ⟨?_, course.ends.trans finish, ?_⟩
    · rw [← left]
      exact points
    · rw [outcome, (instant last (List.mem_append_right _ (List.mem_singleton_self _))).1, finish, left]

/-- Polls that take three seconds each, of which the third one is answered by yes. -/
def Sample.sluggish : Respondent Nat := fun _ made =>
  ({ takes := .ofSeconds 3, answer := .ok (decide (2 ≤ made)) }, made + 1)

/-- The third poll is made at the deadline and is answered after it. -/
theorem first_decisive_poll_decides_after_deadline :
    let wait := (await (.ofSeconds 5) 7 "pingable" (.ofSeconds 12) Probe.poll).trace
      Sample.sluggish.answer ({ time := 0 }, 0)
    0 < Duration.ofSeconds 5 ∧
      (∃ quiet last, polledIn wait.exchanges = quiet ++ [last] ∧
        Conduct (.ofSeconds 5) 7 "pingable" (.ofSeconds 12) 0 quiet last (pausedIn wait.exchanges)
          wait.result wait.state.1.time) ∧
      wait.result = .ok () ∧ wait.state.1.time = .ofSeconds 15 := by
  refine ⟨by decide, first_decisive_poll_decides (by decide) Sample.sluggish _ 0 0, ?_, ?_⟩
  · cbv
  · cbv

end Deciding

/-! ## 7. Conditions that come to hold -/

section Noticing

variable {cid : UInt64} {condition : String} {interval : Nat}

/-- Whoever says at once whether a condition holds, which it does from a moment on. -/
def Respondent.since (moment : Duration) : Respondent Unit := fun now state =>
  ({ answer := .ok (decide (moment ≤ now)) }, state)

/-- The last poll of a wait for such a condition is made when the condition is noticed, or at the
    deadline. -/
theorem await_since (cid : UInt64) (condition : String) (positive : 0 < interval)
    (timeout begun moment : Nat) :
    let t := (await interval cid condition timeout Probe.poll).trace (Respondent.since moment).answer
      ({ time := begun }, ())
    ∃ last, t.result = outcome cid condition begun last ∧ t.state.1.time = last.finish ∧
      (moment ≤ begun + timeout → last.answer = .ok true ∧
        last.finish = begun + min ((moment - begun) ⌈/⌉ interval * interval) timeout) ∧
      (begun + timeout < moment → last.answer = .ok false ∧ last.finish = begun + timeout) := by
  intro t
  have steady : ∀ e ∈ t.exchanges, Steady (·.1.time) e :=
    Respondent.steady (s := ({ time := begun }, ())) (await interval cid condition timeout Probe.poll) rfl
  obtain ⟨es, s', quiet, last, course, still, whole⟩ := await_course positive steady
  have whole : t = ⟨outcome cid condition begun last, s', _ :: es⟩ := whole
  have instant : ∀ p ∈ quiet ++ [last],
      p.answer = .ok (decide (moment ≤ p.start)) ∧ p.finish = p.start := by
    intro p hp
    obtain ⟨s, made⟩ := course.made p hp
    refine ⟨made.answer.trans ?_, made.finish.trans (made.atOnce.trans made.start.symm)⟩
    rw [made.start, ← made.atOnce]
    rfl
  have now : (Respondent.answer (.since moment) .now ({ time := begun }, ())).2.1.time ≤ begun + timeout :=
    Nat.le_add_right _ _
  have left : begun + timeout - begun = timeout := Nat.add_sub_cancel_left _ _
  obtain ⟨noticed, missed⟩ := course.flips positive now instant
  rw [whole]
  refine ⟨last, rfl, course.ends, fun inTime => ⟨(noticed inTime).1, ?_⟩, missed⟩
  rw [← left]
  exact (noticed inTime).2

/-- **No condition that holds by the deadline is missed.** It is noticed at the first point of the grid, or
    at the deadline; if it does not hold by then, the wait ends at the deadline. So a longer timeout
    never turns a success into a failure. -/
theorem no_condition_is_missed (positive : 0 < interval) (begun delay : Duration) :
    let wait (timeout : Duration) := (await interval cid condition timeout Probe.poll).trace
      (Respondent.since (begun + delay)).answer ({ time := begun }, ())
    (∀ timeout,
      ((wait timeout).result = .ok () ↔ delay ≤ timeout) ∧
      (delay ≤ timeout →
        (wait timeout).state.1.time = begun + min (delay ⌈/⌉ interval * interval) timeout) ∧
      (timeout < delay → (wait timeout).result = .error (.timeout cid condition timeout) ∧
        (wait timeout).state.1.time = begun + timeout)) ∧
    ∀ shorter longer, shorter ≤ longer →
      (wait shorter).result = .ok () → (wait longer).result = .ok () := by
  intro wait
  have each : ∀ timeout,
      ((wait timeout).result = .ok () ↔ delay ≤ timeout) ∧
      (delay ≤ timeout →
        (wait timeout).state.1.time = begun + min (delay ⌈/⌉ interval * interval) timeout) ∧
      (timeout < delay → (wait timeout).result = .error (.timeout cid condition timeout) ∧
        (wait timeout).state.1.time = begun + timeout) := by
    intro timeout
    obtain ⟨last, result, finished, noticed, missed⟩ :=
      await_since cid condition positive timeout begun (begun + delay)
    rw [Nat.add_sub_cancel_left] at noticed
    rw [show (wait timeout).result = _ from result, show (wait timeout).state.1.time = _ from finished]
    by_cases inTime : delay ≤ timeout
    · obtain ⟨yes, finish⟩ := noticed (Nat.add_le_add_left inTime begun)
      have met : outcome cid condition begun last = .ok () := by rw [outcome, yes]
      exact ⟨iff_of_true met inTime, fun _ => finish, fun late => absurd inTime (Nat.not_le_of_lt late)⟩
    · obtain ⟨no, finish⟩ := missed (Nat.add_lt_add_left (Nat.lt_of_not_le inTime) begun)
      have late : outcome cid condition begun last = .error (.timeout cid condition timeout) := by
        rw [outcome_no no, finish, Nat.add_sub_cancel_left]
      refine ⟨iff_of_false (by rw [late]; exact nofun) inTime, fun early => absurd early inTime,
        fun _ => ⟨late, finish⟩⟩
  refine ⟨each, fun shorter longer le met => ?_⟩
  exact (each longer).1.mpr (Nat.le_trans ((each shorter).1.mp met) le)

/-- A condition that holds after twelve seconds is noticed at a deadline of twelve seconds, and missed at
    one of eleven. -/
theorem no_condition_is_missed_at_deadline :
    let wait (timeout : Duration) := (await (.ofSeconds 5) 7 "pingable" timeout Probe.poll).trace
      (Respondent.since (.ofSeconds 12)).answer ({ time := 0 }, ())
    0 < Duration.ofSeconds 5 ∧ (wait (.ofSeconds 12)).result = .ok () ∧
      (wait (.ofSeconds 12)).state.1.time = .ofSeconds 12 ∧
      (wait (.ofSeconds 11)).result = .error (.timeout 7 "pingable" (.ofSeconds 11)) := by
  obtain ⟨each, -⟩ :=
    @no_condition_is_missed 7 "pingable" (Duration.ofSeconds 5) (by decide) 0 (.ofSeconds 12)
  rw [Nat.zero_add] at each
  have noticed := each (.ofSeconds 12)
  exact ⟨by decide, noticed.1.mpr (Nat.le_refl _), (noticed.2.1 (Nat.le_refl _)).trans (by decide),
    ((each (.ofSeconds 11)).2.2 (by decide)).1⟩

end Noticing

end Wait

end InstancePool
