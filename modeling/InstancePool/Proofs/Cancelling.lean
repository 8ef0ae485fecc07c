import InstancePool.Proofs.Polling

/-!
# Waits that are cancelled

A caller may cancel at any moment: before the first poll of a wait, while a poll is under way, in a pause,
or just when one of them ends. Its token competes with the answer of the poll and with the deadline. This
file compares the wait with the one that would have been had the caller not cancelled.

* `Polled.InFlight`, `Polled.Ends`: a poll that is under way at a moment, and one that ends its wait;
* `cancelling`: a state in which the caller is to cancel;
* `CutShort`: what the moment changes, and what it does not;
* `cutShort_pollFrom`: round by round; `cancellation_is_prompt`: the whole wait.
-/

namespace InstancePool.Wait

open Simulation (Clock Probe Probed)

/-! ## 1. What a moment changes -/

/-- A poll that is under way at a moment. -/
def Polled.InFlight (moment : Duration) (p : Polled) : Prop := p.start < moment ∧ moment ≤ p.finish

/-- A poll after which a wait with this deadline does not go on. -/
def Polled.Ends (deadline : Duration) (p : Polled) : Prop := p.answer ≠ .ok false ∨ deadline ≤ p.finish

/-- Whether a wait is settled when the caller cancels: it has ended before, or the poll that is under way
    ends it. -/
def Settled (deadline moment : Duration) (polls : List Polled) (finished : Duration) : Prop :=
  finished < moment ∨ ∃ p ∈ polls, p.InFlight moment ∧ p.Ends deadline

variable {σ : Type}

/-- A state with a caller who is to cancel at a moment. -/
def cancelling (moment : Duration) (s : Clock × σ) : Clock × σ :=
  ({ s.1 with cancelsAt := some moment }, s.2)

/-- What becomes of a wait that began at `begun` if the caller cancels at `moment`, where otherwise it
    would have made the polls `polls` and ended with `result` in the state `final`. -/
structure CutShort (cid : UInt64) (condition : String) (begun deadline moment : Duration)
    (polls : List Polled) (result : Except Fault Unit) (final : Clock × σ)
    (cut : Trace (Timed Probe) (Clock × σ) Unit) : Prop where
  /-- The polls that start before the moment are made, and no others. -/
  made : polledIn cut.exchanges = polls.filter (·.start < moment)
  /-- If the wait is settled, nothing else is changed. -/
  kept : Settled deadline moment polls final.1.time →
    cut.result = result ∧ cut.state = cancelling moment final
  /-- If not, it is cancelled, -/
  cancelled : ¬Settled deadline moment polls final.1.time →
    cut.result = .error (.cancelled cid condition)
  /-- when the poll that is under way ends, -/
  polling : ¬Settled deadline moment polls final.1.time →
    ∀ p ∈ polls, p.InFlight moment → cut.state.1.time = p.finish
  /-- and if none is, at once. -/
  sleeping : ¬Settled deadline moment polls final.1.time →
    (∀ p ∈ polls, ¬p.InFlight moment) → cut.state.1.time = max begun moment

/-! ## 2. Round by round -/

section Rounds

variable {r : Respondent σ} {cid : UInt64} {condition : String} {interval started deadline moment : Nat}
  {s s' : Clock × σ} {es : List (Exchange (Timed Probe) (Clock × σ))} {quiet : List Polled} {last : Polled}
  {cut : Trace (Timed Probe) (Clock × σ) Unit}

/-- Nothing is polled once the caller has cancelled. -/
theorem cutShort_before (course : Course r.answer (·.1.time) () id interval deadline s es s' quiet last)
    (before : moment ≤ s.1.time) {earliest idle : Nat}
    (run : (pollFrom interval cid condition started deadline (asking () id) earliest idle).trace r.answer
      (cancelling moment s) = cut) :
    CutShort cid condition s.1.time deadline moment (quiet ++ [last]) (outcome cid condition started last) s'
      cut := by
  have stopped : (Round.begun r.answer (cancelling moment s)).reply = true := decide_eq_true before
  have later : ∀ p ∈ quiet ++ [last], moment ≤ p.start := fun p hp =>
    Nat.le_trans before (course.begins p hp)
  have asleep : ∀ p ∈ quiet ++ [last], ¬p.InFlight moment := fun p hp inFlight =>
    absurd (later p hp) (Nat.not_le_of_lt inFlight.1)
  have unsettled : ¬Settled deadline moment (quiet ++ [last]) s'.1.time := by
    rintro (ended | ⟨p, hp, inFlight, -⟩)
    · exact absurd ended (Nat.not_lt_of_le (Nat.le_trans before course.onward))
    · exact asleep p hp inFlight
  obtain rfl := run.symm.trans (trace_cancelled stopped)
  constructor
  case made =>
    refine (List.filter_eq_nil_iff.mpr fun p hp => ?_).symm
    rw [decide_eq_true_eq]
    exact Nat.not_lt_of_le (later p hp)
  case kept => exact fun settled => absurd settled unsettled
  case cancelled => exact fun _ => rfl
  case polling => exact fun _ p hp inFlight => absurd inFlight (asleep p hp)
  case sleeping => exact fun _ _ => (Nat.max_eq_left before).symm

/-- A poll that has started is the last one, if it ends the wait. -/
theorem cutShort_last {p : Polled} {begun : Duration} {result : Except Fault Unit}
    (started : p.start < moment) (ends : p.Ends deadline) (finish : s'.1.time = p.finish)
    (made : polledIn cut.exchanges = [p]) (same : cut.result = result ∧ cut.state = cancelling moment s') :
    CutShort cid condition begun deadline moment [p] result s' cut := by
  have settled : Settled deadline moment [p] s'.1.time := by
    rcases Nat.lt_or_ge p.finish moment with ended | going
    · exact .inl (finish ▸ ended)
    · exact .inr ⟨p, List.mem_singleton_self p, ⟨started, going⟩, ends⟩
  constructor
  case made => simp [made, started]
  case kept => exact fun _ => same
  case cancelled => exact fun unsettled => absurd settled unsettled
  case polling => exact fun unsettled => absurd settled unsettled
  case sleeping => exact fun unsettled => absurd settled unsettled

/-- What is said of the rounds after a pause holds with the round before it. -/
theorem CutShort.after_round {p : Polled} {polls : List Polled} {result : Except Fault Unit}
    {begun woken : Duration} {first : List (Exchange (Timed Probe) (Clock × σ))}
    (h : CutShort cid condition woken deadline moment polls result s' cut)
    (started : p.start < moment) (finished : p.finish < moment) (passed : woken ≤ moment)
    (earlier : begun ≤ moment) (made : polledIn first = [p]) :
    CutShort cid condition begun deadline moment (p :: polls) result s' (cut.precededBy first) := by
  have ended : ¬p.InFlight moment := fun inFlight => absurd finished (Nat.not_lt_of_le inFlight.2)
  have same : Settled deadline moment (p :: polls) s'.1.time ↔ Settled deadline moment polls s'.1.time := by
    refine or_congr_right ?_
    rw [List.exists_mem_cons_iff]
    exact or_iff_right fun h => ended h.1
  constructor
  case made =>
    have split : polledIn (first ++ cut.exchanges) = polledIn first ++ polledIn cut.exchanges :=
      List.filterMap_append
    rw [Trace.precededBy_exchanges, split, made, h.made]
    simp [started]
  case kept => exact fun settled => h.kept (same.mp settled)
  case cancelled => exact fun unsettled => h.cancelled (mt same.mpr unsettled)
  case polling =>
    exact fun unsettled => List.forall_mem_cons.mpr
      ⟨fun inFlight => absurd inFlight ended, h.polling (mt same.mpr unsettled)⟩
  case sleeping =>
    intro unsettled asleep
    rw [Nat.max_eq_right earlier, ← Nat.max_eq_right passed]
    exact h.sleeping (mt same.mpr unsettled) (List.forall_mem_cons.mp asleep).2

/-- A pause in which the caller cancels is the end. The poll before it may have been under way then. -/
theorem cutShort_pause {p : Polled} {polls : List Polled} {result : Except Fault Unit} {begun woken : Duration}
    (started : p.start < moment) (earlier : begun < moment) (no : p.answer = .ok false)
    (early : p.finish < deadline) (stopped : moment < woken) (later : ∀ p ∈ polls, woken ≤ p.start)
    (ended : woken ≤ s'.1.time) (made : polledIn cut.exchanges = [p])
    (cancelled : cut.result = .error (.cancelled cid condition))
    (time : cut.state.1.time = max p.finish moment) :
    CutShort cid condition begun deadline moment (p :: polls) result s' cut := by
  have notStarted : ∀ p ∈ polls, ¬p.start < moment := fun p hp =>
    Nat.not_lt_of_le (Nat.le_of_lt (Nat.lt_of_lt_of_le stopped (later p hp)))
  have unsettled : ¬Settled deadline moment (p :: polls) s'.1.time := by
    rintro (before | ⟨p', hp', inFlight, ends⟩)
    · exact absurd (Nat.lt_of_lt_of_le stopped ended) (Nat.not_lt_of_lt before)
    · rcases List.mem_cons.mp hp' with rfl | hp'
      · exact ends.elim (fun decisive => decisive no) (Nat.not_le_of_lt early)
      · exact notStarted p' hp' inFlight.1
  constructor
  case made =>
    have none : polls.filter (·.start < moment) = [] := List.filter_eq_nil_iff.mpr fun p hp => by
      rw [decide_eq_true_eq]
      exact notStarted p hp
    simp [made, started, none]
  case kept => exact fun settled => absurd settled unsettled
  case cancelled => exact fun _ => cancelled
  case polling =>
    refine fun _ => List.forall_mem_cons.mpr ⟨fun inFlight => ?_, fun p hp inFlight => ?_⟩
    · exact time.trans (Nat.max_eq_left inFlight.2)
    · exact absurd inFlight.1 (notStarted p hp)
  case sleeping =>
    intro _ asleep
    have ended : p.finish < moment := by
      by_contra going
      exact (List.forall_mem_cons.mp asleep).1 ⟨started, Nat.le_of_not_lt going⟩
    rw [time, Nat.max_eq_right (Nat.le_of_lt ended), Nat.max_eq_right (Nat.le_of_lt earlier)]

/-- What the clock says after a poll. -/
theorem reading {earliest : Nat} {p : Polled} (made : Round.Makes r.answer (·.1.time) () id s p)
    (reached : earliest ≤ s.1.time) :
    max earliest (Round.looked r.answer () (cancelling moment s)).reply = p.finish := by
  have finish : (Round.looked r.answer () (cancelling moment s)).reply = p.finish := made.finish.symm
  have onward : s.1.time ≤ p.finish := made.start ▸ made.onward
  rw [finish]
  exact Nat.max_eq_right (Nat.le_trans reached onward)

/-- A pause that is over before the caller cancels is the pause that would have been. -/
theorem slept_through {span : Nat} {p : Polled} (undisturbed : s.1.cancelsAt = none)
    (still : (Round.looked r.answer () s).after.1.time = p.finish)
    (through : p.finish + span ≤ moment ∧ p.finish < moment) :
    (Round.slept r.answer () span (cancelling moment s)).reply = false ∧
      (Round.slept r.answer () span (cancelling moment s)).after =
        cancelling moment (Round.slept r.answer () span s).after := by
  obtain ⟨⟨time, cancelsAt⟩, state⟩ := s
  cases undisturbed
  rw [← still] at through
  have passes : ((cancelling moment (Round.looked r.answer () (⟨time, none⟩, state)).after).1.nap span) =
      (false, (cancelling moment (Round.looked r.answer () (⟨time, none⟩, state)).after).1.pass span) :=
    if_pos through
  exact ⟨congrArg Prod.fst passes, Prod.ext (congrArg Prod.snd passes) rfl⟩

/-- A pause in which the caller cancels ends at once. -/
theorem slept_cut {span : Nat} {p : Polled}
    (still : (Round.looked r.answer () s).after.1.time = p.finish)
    (cut : ¬(p.finish + span ≤ moment ∧ p.finish < moment)) :
    (Round.slept r.answer () span (cancelling moment s)).reply = true ∧
      (Round.slept r.answer () span (cancelling moment s)).after.1.time = max p.finish moment := by
  rw [← still] at cut ⊢
  have stops : ((cancelling moment (Round.looked r.answer () s).after).1.nap span) =
      (true, { (cancelling moment (Round.looked r.answer () s).after).1 with
        time := max (Round.looked r.answer () s).after.1.time moment }) :=
    if_neg cut
  exact ⟨congrArg Prod.fst stops, congrArg (·.2.time) stops⟩

theorem slept_undisturbed {span : Nat} (undisturbed : s.1.cancelsAt = none) :
    (Round.slept r.answer () span s).after.1.cancelsAt = none := by
  obtain ⟨⟨time, cancelsAt⟩, state⟩ := s
  cases undisturbed
  rfl

theorem pause_nonempty {finish span : Nat} (positive : 0 < interval) (early : finish < deadline)
    (whole : span = min interval (deadline - finish)) : span ≠ 0 := by
  omega

theorem stopped_in_pause {finish span : Nat} (nonempty : 0 < span)
    (cut : ¬(finish + span ≤ moment ∧ finish < moment)) : moment < finish + span := by
  omega

/-- **Round by round**, a wait goes as it would have gone, until the caller cancels. -/
theorem cutShort_pollFrom (positive : 0 < interval)
    (course : Course r.answer (·.1.time) () id interval deadline s es s' quiet last)
    (undisturbed : s.1.cancelsAt = none) {earliest idle : Nat} (reached : earliest ≤ s.1.time)
    (some : idle ≠ 0)
    (run : (pollFrom interval cid condition started deadline (asking () id) earliest idle).trace r.answer
      (cancelling moment s) = cut) :
    CutShort cid condition s.1.time deadline moment (quiet ++ [last]) (outcome cid condition started last) s'
      cut := by
  induction course generalizing earliest idle cut with
  | @decided s p made decisive =>
    rcases Nat.lt_or_ge s.1.time moment with going | before
    · have on : (Round.begun r.answer (cancelling moment s)).reply = false :=
        decide_eq_false (Nat.not_le_of_lt going)
      obtain rfl := run.symm.trans (trace_decided on (p := p) made.answer decisive)
      exact cutShort_last (made.start ▸ going) (.inl decisive) made.finish.symm
        (congrArg (· :: []) made.seen) ⟨rfl, rfl⟩
    · exact cutShort_before (.decided made decisive) before run
  | @late s p made no spent still =>
    rcases Nat.lt_or_ge s.1.time moment with going | before
    · have on : (Round.begun r.answer (cancelling moment s)).reply = false :=
        decide_eq_false (Nat.not_le_of_lt going)
      obtain rfl := run.symm.trans
        (trace_late on (made.answer.symm.trans no) (reading made reached) spent)
      exact cutShort_last (made.start ▸ going) (.inr spent) still (congrArg (· :: []) made.seen)
        ⟨(outcome_no no).symm, rfl⟩
    · exact cutShort_before (.late made no spent still) before run
  | @again s s' p last es quiet span whole made no early still slept rest ih =>
    rcases Nat.lt_or_ge s.1.time moment with going | before
    · have on : (Round.begun r.answer (cancelling moment s)).reply = false :=
        decide_eq_false (Nat.not_le_of_lt going)
      have nonempty : span ≠ 0 := pause_nonempty positive early whole
      have more : ¬(deadline ≤ p.finish ∨ idle = 0) := fun h => h.elim (Nat.not_le_of_lt early) some
      have paused := run.symm.trans
        (trace_pause on (made.answer.symm.trans no) (reading made reached) more whole)
      by_cases through : p.finish + span ≤ moment ∧ p.finish < moment
      · obtain ⟨woken, after⟩ := slept_through undisturbed still through
        rw [woken, if_neg (by decide), if_neg nonempty, after] at paused
        obtain rfl := paused
        have calm : (Round.slept r.answer () span s).after.1.cancelsAt = none :=
          slept_undisturbed undisturbed
        have later := ih calm (Nat.le_of_eq slept.symm) some rfl
        exact later.after_round (made.start ▸ going) through.2 (slept ▸ through.1) (Nat.le_of_lt going)
          (congrArg (· :: []) made.seen)
      · obtain ⟨stopped, time⟩ := slept_cut still through
        rw [stopped, if_pos rfl] at paused
        obtain rfl := paused
        have before := stopped_in_pause (Nat.pos_of_ne_zero nonempty) through
        exact cutShort_pause (made.start ▸ going) going no early before
          (fun p hp => slept ▸ rest.begins p hp) (slept ▸ rest.onward) (congrArg (· :: []) made.seen) rfl
          time
    · exact cutShort_before (.again span whole made no early still slept rest) before run

end Rounds

/-! ## 3. The whole wait -/

/-- **A wait that is cancelled ends promptly**, and is otherwise the wait it would have been. The polls that
    start before the moment are made, and none later. If the wait has ended by then, or the poll that is
    under way ends it, it comes to what it would have come to. If not, it is cancelled: when that poll
    ends, or at once. -/
theorem cancellation_is_prompt {cid : UInt64} {condition : String} {interval : Nat} (positive : 0 < interval)
    (r : Respondent σ) (timeout begun moment : Duration) (state : σ) :
    let wait (clock : Clock) := (await interval cid condition timeout Probe.poll).trace r.answer (clock, state)
    let free := wait { time := begun }
    let cut := wait { time := begun, cancelsAt := some moment }
    CutShort cid condition begun (begun + timeout) moment (polledIn free.exchanges) free.result free.state
      cut ∧
    ∀ p ∈ polledIn cut.exchanges, p.start < moment := by
  intro wait free cut
  have steady : ∀ e ∈ free.exchanges, Steady (·.1.time) e :=
    r.steady (s := ({ time := begun }, state)) (await interval cid condition timeout Probe.poll) rfl
  obtain ⟨es, s', quiet, last, course, -, whole⟩ := await_course positive steady
  have whole : free = ⟨outcome cid condition begun last, s', _ :: es⟩ := whole
  have rounds : CutShort cid condition begun (begun + timeout) moment (quiet ++ [last])
      (outcome cid condition begun last) s'
      ((pollFrom interval cid condition begun (begun + timeout) (asking () id) begun idlePauses).trace r.answer
        (cancelling moment ({ time := begun }, state))) :=
    cutShort_pollFrom positive course rfl (Nat.le_refl begun) (by decide) rfl
  -- A wait looks at the clock before its first round, and that is no poll.
  have same : CutShort cid condition begun (begun + timeout) moment (quiet ++ [last])
      (outcome cid condition begun last) s' cut :=
    ⟨rounds.made, rounds.kept, rounds.cancelled, rounds.polling, rounds.sleeping⟩
  refine ⟨?_, fun p hp => ?_⟩
  · rw [whole]
    exact course.seen.1.symm ▸ same
  · rw [same.made] at hp
    exact of_decide_eq_true (List.mem_filter.mp hp).2

/-- A caller who cancels in the pause after the first poll, while the second one is under way, and while the
    third one is, which decides. -/
theorem cancellation_is_prompt_between_polls :
    let wait (clock : Clock) := (await (.ofSeconds 5) 7 "pingable" (.ofSeconds 12) Probe.poll).trace
      Sample.sluggish.answer (clock, 0)
    let free := wait { time := 0 }
    let cut (moment : Duration) := wait { time := 0, cancelsAt := some moment }
    0 < Duration.ofSeconds 5 ∧
      (∀ moment, CutShort 7 "pingable" 0 (.ofSeconds 12) moment (polledIn free.exchanges) free.result
        free.state (cut moment)) ∧
      (cut (.ofSeconds 6)).result = .error (.cancelled 7 "pingable") ∧
      (cut (.ofSeconds 6)).state.1.time = .ofSeconds 6 ∧
      (cut (.ofSeconds 9)).result = .error (.cancelled 7 "pingable") ∧
      (cut (.ofSeconds 9)).state.1.time = .ofSeconds 11 ∧
      (cut (.ofSeconds 14)).result = .ok () := by
  refine ⟨by decide, fun moment => ?_, ?_, ?_, ?_, ?_, ?_⟩
  · have prompt := @cancellation_is_prompt Nat 7 "pingable" (Duration.ofSeconds 5) (by decide)
      Sample.sluggish (.ofSeconds 12) 0 moment 0
    rw [Nat.zero_add] at prompt
    exact prompt.1
  · cbv
  · cbv
  · cbv
  · cbv
  · cbv

end InstancePool.Wait
