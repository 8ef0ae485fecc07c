import InstancePool.Upkeep
import InstancePool.Proofs.Observing

/-!
# Reboots

A reboot is over once the instance was seen to go down, to come back, and to run. While it is expected to
go down, and while it is expected back, the same question is asked, and the two waits take its answers in
opposite ways. A ping that fails remotely is an answer in both: the instance cannot be reached.

* `Reached`, `Unreached`, `Reports`: what pings and reports of a power state tell, and `Shows` in their
  terms;
* `answered`: the calls among some exchanges, as they were answered;
* `Cycled`, `cycled_iff_observed`: answers that show a whole cycle, down and up;
* `Stalled.not_observed`: what breaks off is not seen to its end;
* `Outcome`, `rebooted_iff_cycled`: what becomes of a reboot.
-/

namespace InstancePool

variable {σ : Type}

/-! ## 1. Pings and power states -/

/-- A ping that reaches the instance. -/
def Reached (cid : UInt64) (h : Heard) : Prop := h = ⟨(Cloud.Call.pingable cid).query, .ok true⟩

/-- A ping that does not: the answer is no, or the call fails remotely. -/
inductive Unreached (cid : UInt64) : Heard → Prop where
  | no : Unreached cid ⟨(Cloud.Call.pingable cid).query, .ok false⟩
  | lost (f : Fault) (remote : f.kind = .cloud) :
      Unreached cid ⟨(Cloud.Call.pingable cid).query, .error f⟩

/-- A report of a power state. -/
def Reports (cid : UInt64) (state : PowerState) (h : Heard) : Prop :=
  h = ⟨(Cloud.Call.powerState cid).query, .ok state⟩

namespace Condition

section Sights

variable {cid : UInt64} {c : Condition} {holds : Prop} {h : Heard}

/-- An instance is seen up where a ping reaches it, and is not where none does. -/
theorem shows_pingable :
    pingable.Shows cid holds h ↔ (holds ∧ Reached cid h) ∨ (¬holds ∧ Unreached cid h) := by
  constructor
  · intro shown
    cases shown with
    | told up same =>
      cases up with
      | true => exact .inl ⟨same.mpr rfl, rfl⟩
      | false => exact .inr ⟨fun held => absurd (same.mp held) Bool.false_ne_true, .no⟩
    | lost f _ remote same => exact .inr ⟨fun held => (nomatch same.mp held), .lost f remote⟩
  · rintro (⟨held, rfl⟩ | ⟨failed, unreached⟩)
    · exact .told (c := pingable) true (iff_of_true held rfl)
    · cases unreached with
      | no => exact .told (c := pingable) false (iff_of_false failed Bool.false_ne_true)
      | lost f remote => exact .lost f (.inl rfl) remote (iff_of_false failed nofun)

/-- It is seen down by the same answers, the other way round. -/
theorem shows_notPingable :
    notPingable.Shows cid holds h ↔ (holds ∧ Unreached cid h) ∨ (¬holds ∧ Reached cid h) := by
  constructor
  · intro shown
    cases shown with
    | told up same =>
      cases up with
      | true => exact .inr ⟨fun held => absurd (same.mp held) (Ne.symm Bool.false_ne_true), rfl⟩
      | false => exact .inl ⟨same.mpr rfl, .no⟩
    | lost f _ remote same => exact .inl ⟨same.mpr rfl, .lost f remote⟩
  · rintro (⟨held, unreached⟩ | ⟨failed, rfl⟩)
    · cases unreached with
      | no => exact .told (c := notPingable) false (iff_of_true held rfl)
      | lost f remote => exact .lost f (.inr rfl) remote (iff_of_true held rfl)
    · exact .told (c := notPingable) true (iff_of_false failed (Ne.symm Bool.false_ne_true))

/-- A power state is seen by a report of it, and not by a report of another one. -/
theorem shows_power {target : PowerState} :
    (power target).Shows cid holds h ↔ ∃ state, Reports cid state h ∧ (holds ↔ state = target) := by
  constructor
  · intro shown
    cases shown with
    | told state same => exact ⟨state, rfl, same⟩
    | lost _ ping => exact absurd ping (by simp)
  · rintro ⟨state, rfl, same⟩
    exact .told (c := power target) state same

/-- What shows something of a condition is the answer to its question, and the probe says the same. -/
theorem Shows.read (shown : c.Shows cid holds h) : ∃ reply yes,
    h = ⟨(c.question cid).query, reply⟩ ∧ c.read cid reply = .ok yes ∧ (holds ↔ yes = true) := by
  cases shown with
  | told value same =>
    obtain ⟨yes, read, fits⟩ := @read_ok cid c value
    exact ⟨.ok value, yes, rfl, read, same.trans fits.symm⟩
  | lost f ping remote same =>
    have lost : reached (.error f) = .ok false := reached_remote remote
    rcases ping with rfl | rfl
    · exact ⟨.error f, false, rfl, lost, same.trans (by decide)⟩
    · exact ⟨.error f, true, rfl, congrArg (Except.map (!·)) lost, same.trans (by decide)⟩

/-- Nothing that is heard shows a condition both ways. -/
theorem Shows.unique (yes : c.Shows cid True h) (no : c.Shows cid False h) : False := by
  obtain ⟨reply, held, rfl, told, same⟩ := yes.read
  obtain ⟨reply', held', again, told', same'⟩ := no.read
  cases again
  cases told.symm.trans told'
  exact same'.mpr (same.mp trivial)

/-- A call that fails, and is no lost ping, shows nothing. -/
theorem not_shows_of_mute {f : Fault} (mute : c = .pingable ∨ c = .notPingable → f.kind ≠ .cloud) :
    ¬c.Shows cid holds ⟨(c.question cid).query, .error f⟩ := by
  intro shown
  cases shown with
  | lost f ping remote => exact mute ping remote

end Sights

section Rows

variable {cid : UInt64} {c : Condition} {e : Exchange (Timed Services) σ}

/-- Where a condition is not seen, it is not shown to hold. -/
theorem Unseen.not_shows (unseen : c.Unseen cid e) : ¬c.Shows cid True e.heard := by
  intro shown
  rcases unseen with silent | no
  · have call : callOf? e.query = some (.cloud (c.question cid)) := congrArg callOf? shown.query
    cases silent.symm.trans call
  · exact shown.unique no

/-- A call that fails and shows something of a condition is a lost ping. -/
theorem Shows.unreached {holds : Prop} {f : Fault} (shown : c.Shows cid holds e.heard)
    (fails : faultOf? e.query e.reply = some f) : Unreached cid e.heard := by
  have fails : faultOf? e.heard.query e.heard.reply = some f := fails
  generalize e.heard = h at shown fails
  cases shown with
  | told => cases fails
  | lost f ping remote =>
    rcases ping with rfl | rfl
    · exact .lost f remote
    · exact .lost f remote

theorem Unseen.unreached {f : Fault} (unseen : c.Unseen cid e)
    (fails : faultOf? e.query e.reply = some f) : Unreached cid e.heard := by
  rcases unseen with silent | no
  · cases (faultOf?_of_silent silent).symm.trans fails
  · exact no.unreached fails

end Rows

end Condition

/-! ## 2. Calls as they were answered -/

/-- The calls among some exchanges, as they were answered. -/
def answered (es : List (Exchange (Timed Services) σ)) : List (Exchange (Timed Services) σ) :=
  es.filter fun e => (callOf? e.query).isSome

section Answered

variable {es later : List (Exchange (Timed Services) σ)} {e : Exchange (Timed Services) σ}

theorem mem_answered : e ∈ answered es ↔ e ∈ es ∧ callOf? e.query ≠ none := by
  unfold answered
  rw [List.mem_filter, Option.isSome_iff_ne_none]

theorem answered_append : answered (es ++ later) = answered es ++ answered later :=
  List.filter_append ..

theorem answered_cons_of_shown {cid : UInt64} {c : Condition} {holds : Prop}
    (shown : c.Shows cid holds e.heard) : answered (e :: es) = e :: answered es := by
  have call : callOf? e.query = some (.cloud (c.question cid)) := congrArg callOf? shown.query
  exact List.filter_cons_of_pos (by rw [call]; rfl)

/-- There is one way to cut a list at the first place of a kind. -/
theorem cut_unique {α : Type} {P : α → Prop} {front front' back back' : List α} {x x' : α}
    (before : ∀ y ∈ front, ¬P y) (here : P x) (before' : ∀ y ∈ front', ¬P y) (here' : P x')
    (same : front ++ x :: back = front' ++ x' :: back') : front = front' ∧ x = x' ∧ back = back' := by
  induction front generalizing front' with
  | nil =>
    cases front' with
    | nil => simpa using same
    | cons y rest =>
      obtain ⟨rfl, -⟩ := List.cons.inj same
      exact absurd here (before' _ List.mem_cons_self)
  | cons y rest ih =>
    obtain ⟨first, others⟩ := List.forall_mem_cons.mp before
    cases front' with
    | nil =>
      obtain ⟨rfl, -⟩ := List.cons.inj same
      exact absurd here' first
    | cons y' rest' =>
      obtain ⟨rfl, tails⟩ := List.cons.inj same
      obtain ⟨fronts, rfl, backs⟩ := ih others (List.forall_mem_cons.mp before').2 tails
      exact ⟨congrArg _ fronts, rfl, backs⟩

variable {clock : σ → Duration} {timeout begun ended : Duration} {cid : UInt64} {cs : List Condition}
  {f : Fault}

/-- A row is seen in the calls alone. -/
theorem Observed.inCalls (observed : Observed clock timeout cid begun cs es ended) :
    ∃ ended', Observed clock timeout cid begun cs (answered es) ended' := by
  induction observed with
  | nil now => exact ⟨now, .nil now⟩
  | @cons _ _ c cs earlier later e unseen met inTime _ ih =>
    obtain ⟨ended', rest⟩ := ih
    refine ⟨ended', ?_⟩
    rw [answered_append, answered_cons_of_shown met]
    exact .cons (fun e' he' => unseen e' (mem_answered.mp he').1) met inTime rest

/-- Every call that fails where a row is seen is a lost ping. -/
theorem Observed.unreached (observed : Observed clock timeout cid begun cs es ended) :
    ∀ e ∈ es, faultOf? e.query e.reply = some f → Unreached cid e.heard := by
  induction observed with
  | nil => exact fun e he => nomatch he
  | cons unseen met _ _ ih =>
    refine List.forall_mem_append.mpr ⟨fun e he fails => ?_, List.forall_mem_cons.mpr ⟨?_, ih⟩⟩
    · exact (unseen e he).unreached fails
    · exact fun fails => met.unreached fails

/-- Nothing is seen of a row whose first condition is never shown to hold. -/
theorem not_observed_of_unmet {c : Condition} (unmet : ∀ e ∈ es, ¬c.Shows cid True e.heard) :
    ¬Observed clock timeout cid begun (c :: cs) (answered es) ended := by
  intro observed
  generalize calls : answered es = row at observed
  cases observed with
  | @cons _ _ _ _ earlier later e _ met =>
    have heard : e ∈ answered es := calls ▸ List.mem_append_right _ List.mem_cons_self
    exact unmet e (mem_answered.mp heard).1 met

/-- **A row that breaks off is not seen to its end**, in the calls alone, either. -/
theorem Stalled.not_observed (stalled : Stalled clock timeout cid begun cs es f) {begun' ended : Duration} :
    ¬Observed clock timeout cid begun' cs (answered es) ended := by
  induction stalled generalizing begun' with
  | @failed _ c _ earlier e f unseen fails mute =>
    have mute : ¬c.Shows cid True e.heard := fails ▸ Condition.not_shows_of_mute mute
    exact not_observed_of_unmet (List.forall_mem_append.mpr
      ⟨fun e' he' => (unseen e' he').not_shows, List.forall_mem_singleton.mpr mute⟩)
  | @overdue _ c _ earlier e unseen silent =>
    have silent : ¬c.Shows cid True e.heard := Condition.Unseen.not_shows (.inl silent)
    exact not_observed_of_unmet (List.forall_mem_append.mpr
      ⟨fun e' he' => (unseen e' he').not_shows, List.forall_mem_singleton.mpr silent⟩)
  | @after _ c cs earlier later e f unseen met _ _ ih =>
    intro observed
    rw [answered_append, answered_cons_of_shown met] at observed
    generalize calls : answered earlier ++ e :: answered later = row at observed
    cases observed with
    | cons unseen' met' _ rest =>
      -- Both rows see the first condition in the same exchange.
      obtain ⟨-, rfl, rfl⟩ := cut_unique
        (fun e he => (unseen e (mem_answered.mp he).1).not_shows) met
        (fun e he => (unseen' e he).not_shows) met' calls
      exact ih rest

/-- A question that fails, and whose fault is passed on, is no lost ping. -/
theorem not_unreached_of_mute {c : Condition}
    (mute : c = .pingable ∨ c = .notPingable → f.kind ≠ .cloud) :
    ¬Unreached cid ⟨(c.question cid).query, .error f⟩ := by
  intro unreached
  cases c with
  | pingable => cases unreached with | lost f remote => exact mute (.inl rfl) remote
  | notPingable => cases unreached with | lost f remote => exact mute (.inr rfl) remote
  | _ => cases unreached

/-- Of a row that breaks off, a call that fails and is no lost ping is the last exchange, and its fault is
    that of the row. -/
theorem Stalled.fatal (stalled : Stalled clock timeout cid begun cs es f) {g : Fault} :
    ∀ e ∈ es, faultOf? e.query e.reply = some g → ¬Unreached cid e.heard →
      (∃ earlier, es = earlier ++ [e]) ∧ g = f := by
  induction stalled with
  | @failed _ _ _ earlier e f unseen fails =>
    refine List.forall_mem_append.mpr ⟨fun e' he' fails' fatal => ?_, List.forall_mem_singleton.mpr ?_⟩
    · exact absurd ((unseen e' he').unreached fails') fatal
    · intro fails' _
      have fails' : faultOf? e.heard.query e.heard.reply = some g := fails'
      rw [fails] at fails'
      exact ⟨⟨earlier, rfl⟩, (Option.some.inj fails').symm⟩
  | @overdue _ _ _ earlier e unseen silent =>
    refine List.forall_mem_append.mpr ⟨fun e' he' fails' fatal => ?_, List.forall_mem_singleton.mpr ?_⟩
    · exact absurd ((unseen e' he').unreached fails') fatal
    · intro fails' _
      cases (faultOf?_of_silent silent).symm.trans fails'
  | @after _ _ _ earlier later e _ unseen met _ _ ih =>
    refine List.forall_mem_append.mpr ⟨fun e' he' fails' fatal => ?_, List.forall_mem_cons.mpr ⟨?_, ?_⟩⟩
    · exact absurd ((unseen e' he').unreached fails') fatal
    · exact fun fails' fatal => absurd (met.unreached fails') fatal
    · intro e' he' fails' fatal
      obtain ⟨⟨front, rfl⟩, same⟩ := ih e' he' fails' fatal
      exact ⟨⟨earlier ++ e :: front, by rw [List.append_assoc, List.cons_append]⟩, same⟩

/-- And it breaks off for no other reason than such a call, or a wait whose time is up. -/
theorem Stalled.cause (stalled : Stalled clock timeout cid begun cs es f) :
    (∃ e ∈ es, faultOf? e.query e.reply = some f ∧ ¬Unreached cid e.heard) ∨
    ∃ c ∈ cs, ∃ elapsed, f = .timeout cid c.text elapsed := by
  induction stalled with
  | @failed _ _ _ earlier e f _ fails mute =>
    have faulty : faultOf? e.heard.query e.heard.reply = some f := by
      rw [fails]
      rfl
    have fatal : ¬Unreached cid e.heard := fails ▸ not_unreached_of_mute mute
    exact .inl ⟨e, List.mem_append_right _ (List.mem_singleton_self e), faulty, fatal⟩
  | @overdue _ c => exact .inr ⟨c, List.mem_cons_self, _, rfl⟩
  | @after _ _ _ earlier _ e _ _ _ _ _ ih =>
    rcases ih with ⟨e', he', fatal⟩ | ⟨c, hc, expired⟩
    · exact .inl ⟨e', List.mem_append_right _ (List.mem_cons_of_mem e he'), fatal⟩
    · exact .inr ⟨c, List.mem_cons_of_mem _ hc, expired⟩

end Answered

namespace Upkeep

/-! ## 3. A whole cycle -/

/-- Answers that show an instance going down, coming back, and running. Each of the three is shown by the
    answer to a poll that starts within the timeout of its wait, and none of them by an answer before. -/
inductive Cycled (clock : σ → Duration) (timeout : Duration) (cid : UInt64) (begun : Duration) :
    List (Exchange (Timed Services) σ) → Prop where
  | mk {ups downs states : List (Exchange (Timed Services) σ)} {down up on : Exchange (Timed Services) σ}
    (stillUp : ∀ e ∈ ups, Reached cid e.heard)
    (goneDown : Unreached cid down.heard) (downInTime : clock down.before ≤ begun + timeout)
    (stillDown : ∀ e ∈ downs, Unreached cid e.heard)
    (cameBack : Reached cid up.heard) (upInTime : clock up.before ≤ clock down.after + timeout)
    (notYet : ∀ e ∈ states, ∃ state, state ≠ .running ∧ Reports cid state e.heard)
    (running : Reports cid .running on.heard) (onInTime : clock on.before ≤ clock up.after + timeout) :
    Cycled clock timeout cid begun (ups ++ down :: (downs ++ up :: (states ++ [on])))

/-- What is to be seen after an order to reboot. -/
def cycle : List Condition := [.notPingable, .pingable, .power .running]

section Cycle

variable {clock : σ → Duration} {timeout begun : Duration} {cid : UInt64}
  {row : List (Exchange (Timed Services) σ)}

/-- A row of calls sees the three conditions one after another if and only if it shows a whole cycle. -/
theorem cycled_iff_observed (calls : ∀ e ∈ row, callOf? e.query ≠ none) :
    Cycled clock timeout cid begun row ↔ ∃ ended, Observed clock timeout cid begun cycle row ended := by
  constructor
  · intro cycled
    cases cycled with
    | mk stillUp goneDown downInTime stillDown cameBack upInTime notYet running onInTime =>
      refine ⟨_, .cons (fun e he => .inr ?_) ?_ downInTime <| .cons (fun e he => .inr ?_) ?_ upInTime <|
        .cons (fun e he => .inr ?_) ?_ onInTime <| .nil _⟩
      · exact Condition.shows_notPingable.mpr (.inr ⟨not_false, stillUp e he⟩)
      · exact Condition.shows_notPingable.mpr (.inl ⟨trivial, goneDown⟩)
      · exact Condition.shows_pingable.mpr (.inr ⟨not_false, stillDown e he⟩)
      · exact Condition.shows_pingable.mpr (.inl ⟨trivial, cameBack⟩)
      · obtain ⟨state, other, reports⟩ := notYet e he
        exact Condition.shows_power.mpr ⟨state, reports, iff_of_false not_false other⟩
      · exact Condition.shows_power.mpr ⟨.running, running, iff_of_true trivial rfl⟩
  · rintro ⟨ended, observed⟩
    cases observed with
    | @cons _ _ _ _ ups _ down unseenDown goneDown downInTime observed => cases observed with
      | @cons _ _ _ _ downs _ up unseenUp cameBack upInTime observed => cases observed with
        | @cons _ _ _ _ states _ on unseenOn running onInTime observed => cases observed with
          | nil =>
            simp only [List.forall_mem_append, List.forall_mem_cons] at calls
            obtain ⟨upsCalls, -, downsCalls, -, statesCalls, -⟩ := calls
            have stillUp : ∀ e ∈ ups, Reached cid e.heard := by
              intro e he
              have shown := (unseenDown e he).resolve_left (upsCalls e he)
              simpa [Condition.shows_notPingable] using shown
            have stillDown : ∀ e ∈ downs, Unreached cid e.heard := by
              intro e he
              have shown := (unseenUp e he).resolve_left (downsCalls e he)
              simpa [Condition.shows_pingable] using shown
            have notYet : ∀ e ∈ states, ∃ state, state ≠ .running ∧ Reports cid state e.heard := by
              intro e he
              have shown := (unseenOn e he).resolve_left (statesCalls e he)
              obtain ⟨state, reports, other⟩ := Condition.shows_power.mp shown
              exact ⟨state, other.mpr, reports⟩
            have goneDown : Unreached cid down.heard := by
              simpa [Condition.shows_notPingable] using goneDown
            have cameBack : Reached cid up.heard := by simpa [Condition.shows_pingable] using cameBack
            have running : Reports cid .running on.heard := by
              simpa [Condition.shows_power] using running
            exact .mk stillUp goneDown downInTime stillDown cameBack upInTime notYet running onInTime

end Cycle

/-! ## 4. The whole reboot -/

/-- What becomes of an order to reboot that is answered by `reply`: the exchanges after it, which began at
    `begun`, and the result. -/
structure Outcome (clock : σ → Duration) (timeout : Duration) (cid : UInt64) (reply : Except Fault Unit)
    (begun : Duration) (later : List (Exchange (Timed Services) σ)) (result : Except Fault Unit) :
    Prop where
  /-- It is not ordered again. -/
  once : .reboot ∉ operations later
  /-- Where the order fails, that is the end. -/
  refused : ∀ f, reply = .error f →
    later = [] ∧ result = .error (f.inContext s!"rebooting instance {cid}")
  /-- All ends well if and only if the order succeeds and the answers after it show a whole cycle. -/
  cycled : result = .ok () ↔ reply = .ok () ∧ Cycled clock timeout cid begun (answered later)
  /-- Any call that fails after the order, and is no lost ping, is the end, and its fault that of all. -/
  fatal : ∀ e ∈ later, ∀ f, faultOf? e.query e.reply = some f → ¬Unreached cid e.heard →
    (∃ earlier, later = earlier ++ [e]) ∧ ∃ g, result = .error g ∧ g.Extends f
  /-- There is no other way to fail, but for a wait whose time is up. -/
  failed : ∀ g, result = .error g →
    (∃ f, reply = .error f) ∨
    (∃ e ∈ later, ∃ f, faultOf? e.query e.reply = some f ∧ ¬Unreached cid e.heard ∧ g.Extends f) ∨
    ∃ c ∈ cycle, ∃ elapsed, g.Extends (.timeout cid c.text elapsed)

section Reboot

variable {answer : Answering (Timed Services) σ} {clock : σ → Duration} {waits : Waits} {cid : UInt64}
  {s : σ}

/-- What is waited for after an order. -/
def comeBack (waits : Waits) (cid : UInt64) : Workflow Unit :=
  awaitEach waits cid ((Condition.power .running).await waits cid)
    [(.notPingable, "waiting for instance to go down"), (.pingable, "waiting for instance to come back")]

theorem reboot_eq : reboot waits cid =
    ((Workflow.call (.cloud (.reboot cid))).inContext s!"rebooting instance {cid}").bind fun _ =>
      comeBack waits cid := rfl

/-- **The waits after an order** see the whole row, or it breaks off. -/
theorem comeBack_course (positive : 0 < waits.interval)
    (steady : ∀ e ∈ ((comeBack waits cid).trace answer s).exchanges, Steady clock e) :
    let t := (comeBack waits cid).trace answer s
    (t.result = .ok () ∧ ∃ ended, Observed clock waits.timeout cid (clock s) cycle t.exchanges ended) ∨
    Stalls clock waits.timeout cid (clock s) cycle t := by
  intro t
  rcases trace_awaitEach positive (by simp) steady with ⟨f, g, stalled, failed, more⟩ |
    ⟨es, s', observed, went⟩
  · exact .inr ⟨f, g, stalled.extend [.power .running], failed, more⟩
  · have went : t = _ := went
    have steady : ∀ e ∈ t.exchanges, Steady clock e := steady
    rw [went] at steady ⊢
    have waited : (Condition.power .running).Waited clock (clock s') (clock s' + waits.timeout) cid
        (((Condition.power .running).await waits cid).trace answer s') :=
      Condition.awaitWithin_waited positive nofun (List.forall_mem_append.mp steady).2
    rcases waited.stalls [] with ⟨earlier, e, unseen, met, inTime, ended⟩ | ⟨f, g, stalled, failed, more⟩
    · rw [ended]
      exact .inl ⟨rfl, _, observed.append (.cons unseen met inTime (.nil _))⟩
    · exact .inr ⟨f, g, observed.stalled stalled, failed, more⟩

/-- No poll is an order to reboot. -/
theorem unordered_of_polls {cs : List Condition} {es : List (Exchange (Timed Services) σ)}
    (polls : ∀ e ∈ es, Condition.PollsFor cid cs e) : .reboot ∉ operations es := by
  intro ordered
  cases Condition.operations_of_polls polls _ ordered

/-- What follows an order that succeeds. -/
theorem outcome_of_ordered (positive : 0 < waits.interval)
    (steady : ∀ e ∈ ((comeBack waits cid).trace answer s).exchanges, Steady clock e) :
    let t := (comeBack waits cid).trace answer s
    Outcome clock waits.timeout cid (.ok ()) (clock s) t.exchanges t.result := by
  intro t
  have calls : ∀ e ∈ answered t.exchanges, callOf? e.query ≠ none := fun e he => (mem_answered.mp he).2
  rcases comeBack_course positive steady with ⟨ok, ended, observed⟩ | ⟨f, g, stalled, failed, more⟩
  · have ok : t.result = .ok () := ok
    constructor
    case once => exact unordered_of_polls observed.pollsFor
    case refused => exact nofun
    case cycled => exact iff_of_true ok ⟨rfl, (cycled_iff_observed calls).mpr observed.inCalls⟩
    case fatal => exact fun e he f fails fatal => absurd (observed.unreached e he fails) fatal
    case failed => exact fun g failed => nomatch ok.symm.trans failed
  · have failed : t.result = .error g := failed
    constructor
    case once => exact unordered_of_polls stalled.pollsFor
    case refused => exact nofun
    case cycled =>
      refine iff_of_false (fun ok => nomatch ok.symm.trans failed) fun ⟨_, cycled⟩ => ?_
      obtain ⟨ended, observed⟩ := (cycled_iff_observed calls).mp cycled
      exact stalled.not_observed observed
    case fatal =>
      intro e he f' fails fatal
      obtain ⟨last, rfl⟩ := stalled.fatal e he fails fatal
      exact ⟨last, g, failed, more⟩
    case failed =>
      intro g' failed'
      cases failed.symm.trans failed'
      rcases stalled.cause with ⟨e, he, fails, fatal⟩ | ⟨c, hc, elapsed, rfl⟩
      · exact .inr (.inl ⟨e, he, f, fails, fatal, more⟩)
      · exact .inr (.inr ⟨c, hc, elapsed, more⟩)

/-- Where the order fails, nothing follows it. -/
theorem outcome_of_refused {timeout begun : Duration} (f : Fault) :
    Outcome clock timeout cid (.error f) begun [] (.error (f.inContext s!"rebooting instance {cid}")) where
  once := List.not_mem_nil
  refused _ same := ⟨rfl, congrArg (fun f => Except.error (Fault.inContext f _)) (Except.error.inj same)⟩
  cycled := iff_of_false nofun fun ⟨ok, _⟩ => nomatch ok
  fatal _ he := nomatch he
  failed _ _ := .inl ⟨f, rfl⟩

/-- **A reboot succeeds exactly where a whole cycle was seen**, down and up, after an order that was made
    once and first. -/
theorem rebooted_iff_cycled (positive : 0 < waits.interval)
    (steady : ∀ e ∈ ((reboot waits cid).trace answer s).exchanges, Steady clock e) :
    let t := (reboot waits cid).trace answer s
    ∃ e reply later, t.exchanges = e :: later ∧ e.heard = ⟨(Cloud.Call.reboot cid).query, reply⟩ ∧
      Outcome clock waits.timeout cid reply (clock e.after) later t.result := by
  intro t
  let e := answer.exchange (Cloud.Call.reboot cid).query s
  have steady : ∀ e' ∈ t.exchanges, Steady clock e' := steady
  cases answered : e.reply with
  | error f =>
    have went : t = ⟨.error (f.inContext s!"rebooting instance {cid}"), e.after, [e]⟩ :=
      trace_framed_bind_error answered
    rw [went]
    exact ⟨e, .error f, [], rfl, congrArg (Heard.mk _) answered, outcome_of_refused f⟩
  | ok =>
    have went : t = ((comeBack waits cid).trace answer e.after).precededBy [e] :=
      trace_framed_bind_ok answered
    rw [went] at steady ⊢
    have later := (List.forall_mem_cons.mp steady).2
    exact ⟨e, .ok (), _, rfl, congrArg (Heard.mk _) answered, outcome_of_ordered positive later⟩

end Reboot

open Simulation

/-- A world in which an instance is still up when it is first asked for, then a ping fails remotely, one is
    answered no, and one is answered yes. The first report of a power state says that it is off. -/
def Sample.slow : World where
  cloud := ({} : CloudDouble).enroll { cid := 42, hostname := "vm-42" }
  script := [⟨.pingable, { takes := .ofSeconds 1, outcome := .answers true }⟩,
    ⟨.pingable, { outcome := .fails (.cloud "connection reset") }⟩,
    ⟨.pingable, { outcome := .answers false }⟩,
    ⟨.pingable, { outcome := .answers true }⟩,
    ⟨.powerState, { outcome := .answers .halted }⟩]

/-- There the whole cycle is seen, and the reboot succeeds. -/
theorem rebooted_iff_cycled_past_lost_ping :
    let t := (reboot {} 42).trace (World.answer {}) Sample.slow
    0 < ({} : Waits).interval ∧ (∀ e ∈ t.exchanges, Steady (·.clock.time) e) ∧
      (∃ e reply later, t.exchanges = e :: later ∧ e.heard = ⟨(Cloud.Call.reboot 42).query, reply⟩ ∧
        Outcome (·.clock.time) ({} : Waits).timeout 42 reply e.after.clock.time later t.result) ∧
      t.result = .ok () := by
  have steady : ∀ e ∈ ((reboot {} 42).trace (World.answer {}) Sample.slow).exchanges,
      Steady (·.clock.time) e := World.trace_steady _ rfl
  refine ⟨by decide, steady, rebooted_iff_cycled (by decide) steady, ?_⟩
  simp only [reboot_eq, comeBack, awaitEach, Condition.await, Condition.awaitWithin, reduceCtorEq, if_false]
  -- What the conditions are called does not matter where none of the waits fails.
  generalize Condition.text _ = down
  generalize Condition.text _ = up
  generalize Condition.text _ = running
  cbv

end Upkeep

end InstancePool
