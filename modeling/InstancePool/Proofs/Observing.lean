import InstancePool.Proofs.Halting
import InstancePool.Proofs.Polling

/-!
# What waits observe

A wait for a condition asks one question of the cloud, over and over. What it is answered shows that the
condition holds, or that it does not yet, and the wait goes on or ends accordingly. So a workflow that
waits for one condition after another has seen each of them, in order and in time, or it has stopped.

* `Condition.question`, `Condition.read`, `Condition.probe_eq`: a probe as one question;
* `Condition.Fits`, `Condition.Shows`: what an answer shows;
* `Condition.Waited`, `awaitWithin_waited`: how a wait ends;
* `Observed`, `Stalled`: conditions that are seen to hold, one after another, and a row that breaks off;
* `awaitEach`, `trace_awaitEach`: waits for one condition after another, which see them all or stall;
* `Simulation.World.trace_steady`: worlds in which time is kept.
-/

namespace InstancePool

variable {σ α : Type}

/-! ## 1. Conditions as questions -/

namespace Condition

/-- The question by which a condition is probed. -/
@[reducible] def question (cid : UInt64) : Condition → Cloud.Call
  | idle => .activeTransactions cid
  | busy => .activeTransactions cid
  | power _ => .powerState cid
  | completed _ => .lastTransaction cid
  | pingable => .pingable cid
  | notPingable => .pingable cid

/-- The same among all questions to services. -/
@[reducible] def asks (cid : UInt64) (c : Condition) : Services.Query := .call (.cloud (c.question cid))

/-- What a ping makes known. -/
def reached : Except Fault Bool → Except Fault Bool
  | .ok answer => .ok answer
  | .error f => if f.kind = .cloud then .ok false else .error f

/-- What a probe makes of the answer to its question. -/
def read (cid : UInt64) : (c : Condition) → (c.question cid).Answer → Except Fault Bool
  | idle, reply => reply.map (·.isEmpty)
  | busy, reply => reply.map (!·.isEmpty)
  | power target, reply => reply.map (· == target)
  | completed groups, reply => reply.map (·.any (settledIn groups))
  | pingable, reply => reached reply
  | notPingable, reply => (reached reply).map (!·)

variable {cid : UInt64} {c : Condition}

theorem ofExcept_bind_done {I : Interface} {β : Type} (r : Except Fault α) (value : α → β) :
    ((.ofExcept r : Program I α).bind fun a => .done (value a)) = .ofExcept (r.map value) := by
  cases r <;> rfl

theorem reachable_eq : reachable cid = .ask (Cloud.Call.pingable cid).query fun reply =>
    .ofExcept (reached reply) := by
  refine congrArg (Program.ask _) (funext fun reply => ?_)
  cases reply with
  | ok answer => rfl
  | error f => exact (apply_ite Program.ofExcept (f.kind = .cloud) (.ok false) (.error f)).symm

/-- **A probe is one question**, and what is made of its answer. -/
theorem probe_eq : c.probe cid = Wait.asking (c.asks cid) (c.read cid) := by
  cases c with
  | pingable => exact reachable_eq
  | notPingable =>
    show (reachable cid).bind (fun up => .done !up) = _
    rw [reachable_eq]
    exact congrArg (Program.ask _) (funext fun reply => ofExcept_bind_done (reached reply) _)
  | _ => exact congrArg (Program.ask _) (funext fun reply => ofExcept_bind_done reply _)

/-! ## 2. What answers show -/

/-- Whether the answer to the question of a condition says that it holds. -/
def Fits (cid : UInt64) : (c : Condition) → (c.question cid).operation.Result → Prop
  | idle, underWay => underWay = []
  | busy, underWay => underWay ≠ []
  | power target, state => state = target
  | completed groups, last =>
    ∃ t, last = some t ∧ t.status = some Transaction.complete ∧ ∃ group ∈ groups, t.group = some group
  | pingable, up => up = true
  | notPingable, up => up = false

/-- What is heard when a condition is probed, and shows that it holds or that it does not. Where a ping
    fails remotely, the instance cannot be reached. -/
inductive Shows (cid : UInt64) (c : Condition) (holds : Prop) : Heard → Prop where
  | told (value : (c.question cid).operation.Result) (same : holds ↔ c.Fits cid value) :
      Shows cid c holds ⟨(c.question cid).query, .ok value⟩
  | lost (f : Fault) (ping : c = .pingable ∨ c = .notPingable) (remote : f.kind = .cloud)
      (same : holds ↔ c = .notPingable) : Shows cid c holds ⟨(c.question cid).query, .error f⟩

theorem settledIn_iff {groups : List String} {t : Transaction} : settledIn groups t = true ↔
    t.status = some Transaction.complete ∧ ∃ group ∈ groups, t.group = some group := by
  simp [settledIn, Transaction.isComplete, Transaction.inGroup]

/-- A probe says what its answer says. -/
theorem read_ok (value : (c.question cid).operation.Result) :
    ∃ holds, c.read cid (.ok value) = .ok holds ∧ (holds = true ↔ c.Fits cid value) := by
  cases c with
  | idle => exact ⟨_, rfl, List.isEmpty_iff⟩
  | busy => exact ⟨_, rfl, by simp [Fits]⟩
  | power target => exact ⟨_, rfl, beq_iff_eq⟩
  | completed groups => exact ⟨_, rfl, by simp [Fits, Option.any_eq_true, settledIn_iff]⟩
  | pingable => exact ⟨_, rfl, Iff.rfl⟩
  | notPingable => exact ⟨_, rfl, by simp [Fits]⟩

/-- A ping that fails remotely says that the instance cannot be reached. -/
theorem reached_remote {f : Fault} (remote : f.kind = .cloud) : reached (.error f) = .ok false :=
  if_pos remote

theorem reached_other {f : Fault} (other : f.kind ≠ .cloud) : reached (.error f) = .error f :=
  if_neg other

/-- What a probe says was shown by the answer to its question. -/
theorem shows_of_read {reply : (c.question cid).Answer} {yes : Bool} (told : c.read cid reply = .ok yes)
    {holds : Prop} (same : holds ↔ yes = true) : c.Shows cid holds ⟨(c.question cid).query, reply⟩ := by
  match reply with
  | .ok value =>
    obtain ⟨_, read, fits⟩ := @read_ok cid c value
    cases read.symm.trans told
    exact .told value (same.trans fits)
  | .error f =>
    cases c with
    | pingable =>
      by_cases remote : f.kind = .cloud
      · cases (reached_remote remote).symm.trans told
        exact .lost f (.inl rfl) remote (same.trans (by decide))
      · cases (reached_other remote).symm.trans told
    | notPingable =>
      have told : (reached (.error f)).map (!·) = .ok yes := told
      by_cases remote : f.kind = .cloud
      · rw [reached_remote remote] at told
        cases told
        exact .lost f (.inr rfl) remote (same.trans (by decide))
      · rw [reached_other remote] at told
        cases told
    | _ => cases told

/-- A probe fails only with the fault that its question is answered with. -/
theorem error_of_read {reply : (c.question cid).Answer} {f : Fault} (told : c.read cid reply = .error f) :
    reply = .error f ∧ (c = .pingable ∨ c = .notPingable → f.kind ≠ .cloud) := by
  match reply with
  | .ok value =>
    obtain ⟨_, read, -⟩ := @read_ok cid c value
    cases read.symm.trans told
  | .error f' =>
    cases c with
    | pingable =>
      by_cases remote : f'.kind = .cloud
      · cases (reached_remote remote).symm.trans told
      · cases (reached_other remote).symm.trans told
        exact ⟨rfl, fun _ => remote⟩
    | notPingable =>
      have told : (reached (.error f')).map (!·) = .error f := told
      by_cases remote : f'.kind = .cloud
      · rw [reached_remote remote] at told
        cases told
      · rw [reached_other remote] at told
        cases told
        exact ⟨rfl, fun _ => remote⟩
    | _ =>
      cases told
      exact ⟨rfl, fun ping => ping.elim nofun nofun⟩

/-! ## 3. One wait -/

/-- An exchange in which a condition is not seen: no call is made, or the answer shows that the condition
    does not hold. -/
def Unseen (cid : UInt64) (c : Condition) (e : Exchange (Timed Services) σ) : Prop :=
  callOf? e.query = none ∨ c.Shows cid False e.heard

/-- How a wait for a condition ends that began at `begun`. -/
inductive Waited (clock : σ → Duration) (begun deadline : Duration) (cid : UInt64) (c : Condition) :
    Trace (Timed Services) σ Unit → Prop where
  /-- The condition is seen to hold, by a poll that starts at the deadline at the latest. -/
  | met {earlier : List (Exchange (Timed Services) σ)} {e : Exchange (Timed Services) σ}
    (unseen : ∀ e' ∈ earlier, c.Unseen cid e') (met : c.Shows cid True e.heard)
    (inTime : clock e.before ≤ deadline) :
    Waited clock begun deadline cid c ⟨.ok (), e.after, earlier ++ [e]⟩
  /-- A call fails, and that does not show anything of the condition. -/
  | failed {earlier : List (Exchange (Timed Services) σ)} {e : Exchange (Timed Services) σ} {f : Fault}
    (unseen : ∀ e' ∈ earlier, c.Unseen cid e') (fails : e.heard = ⟨(c.question cid).query, .error f⟩)
    (mute : c = .pingable ∨ c = .notPingable → f.kind ≠ .cloud) :
    Waited clock begun deadline cid c
      ⟨.error (f.inContext s!"waiting for instance {cid} condition '{c.text}'"), e.after, earlier ++ [e]⟩
  /-- The deadline has come, and the condition was never seen to hold. -/
  | overdue {earlier : List (Exchange (Timed Services) σ)} {e : Exchange (Timed Services) σ}
    (unseen : ∀ e' ∈ earlier, c.Unseen cid e') (silent : callOf? e.query = none)
    (late : deadline ≤ clock e.before) :
    Waited clock begun deadline cid c
      ⟨.error (.timeout cid c.text (clock e.before - begun)), e.after, earlier ++ [e]⟩

variable {answer : Answering (Timed Services) σ} {clock : σ → Duration} {interval begun deadline : Nat}
  {s s' : σ}

/-- An exchange of a wait for one of some conditions: a poll, or a question that is no call. -/
def PollsFor (cid : UInt64) (cs : List Condition) (e : Exchange (Timed Services) σ) : Prop :=
  callOf? e.query = none ∨ ∃ c ∈ cs, e.query = (c.question cid).query

section Seeing

variable {cs : List Condition} {e : Exchange (Timed Services) σ} {holds : Prop}

theorem PollsFor.after (polls : PollsFor cid cs e) : PollsFor cid (c :: cs) e :=
  polls.imp_right fun ⟨c', hc, asked⟩ => ⟨c', List.mem_cons_of_mem _ hc, asked⟩

theorem Shows.query {h : Heard} (shown : c.Shows cid holds h) : h.query = (c.question cid).query := by
  cases shown <;> rfl

/-- No call fails that shows something of a condition, pings apart. -/
theorem Shows.calm {h : Heard} (shown : c.Shows cid holds h) (plain : ¬(c = .pingable ∨ c = .notPingable)) :
    faultOf? h.query h.reply = none := by
  cases shown with
  | told => rfl
  | lost f ping => exact absurd ping plain

theorem Shows.pollsFor (shown : c.Shows cid holds e.heard) : PollsFor cid (c :: cs) e :=
  .inr ⟨c, List.mem_cons_self, shown.query⟩

theorem Unseen.pollsFor (unseen : c.Unseen cid e) : PollsFor cid (c :: cs) e :=
  unseen.imp_right fun shown => ⟨c, List.mem_cons_self, shown.query⟩

theorem Unseen.calm (unseen : c.Unseen cid e) (plain : ¬(c = .pingable ∨ c = .notPingable)) :
    faultOf? e.query e.reply = none :=
  unseen.elim faultOf?_of_silent fun shown => shown.calm plain

/-- Polls ask for nothing that could change an instance. -/
theorem operations_of_polls {es : List (Exchange (Timed Services) σ)} (polls : ∀ e ∈ es, PollsFor cid cs e) :
    ∀ op ∈ operations es, op.isPoll = true := by
  intro op asked
  obtain ⟨e, he, call, asks, rfl⟩ := mem_operations.mp asked
  rcases polls e he with silent | ⟨c, -, polled⟩
  · cases silent.symm.trans asks
  · have poll : callOf? e.query = some (.cloud (c.question cid)) := congrArg callOf? polled
    cases poll.symm.trans asks
    cases c <;> rfl

end Seeing

/-- What is said of a wait holds with exchanges before it in which its condition is not seen. -/
theorem Waited.precededBy {t : Trace (Timed Services) σ Unit} (h : Waited clock begun deadline cid c t)
    {first : List (Exchange (Timed Services) σ)} (unseen : ∀ e ∈ first, c.Unseen cid e) :
    Waited clock begun deadline cid c (t.precededBy first) := by
  unfold Trace.precededBy
  cases h with
  | met later met inTime =>
    rw [← List.append_assoc]
    exact .met (List.forall_mem_append.mpr ⟨unseen, later⟩) met inTime
  | failed later fails mute =>
    rw [← List.append_assoc]
    exact .failed (List.forall_mem_append.mpr ⟨unseen, later⟩) fails mute
  | overdue later silent late =>
    rw [← List.append_assoc]
    exact .overdue (List.forall_mem_append.mpr ⟨unseen, later⟩) silent late

/-- The last poll of a wait, if it decides. -/
theorem waited_of_decisive {p : Wait.Polled} {first : List (Exchange (Timed Services) σ)}
    (made : Wait.Round.Makes answer clock (c.asks cid) (c.read cid) s p)
    (decisive : p.answer ≠ .ok false) (unseen : ∀ e ∈ first, c.Unseen cid e)
    (inTime : clock s ≤ deadline) :
    let e := Wait.Round.polled answer (c.asks cid) s
    Waited clock begun deadline cid c ⟨Wait.outcome cid c.text begun p, e.after, first ++ [e]⟩ := by
  intro e
  unfold Wait.outcome
  match told : p.answer with
  | .ok true =>
    have shown : c.Shows cid True e.heard :=
      shows_of_read (made.answer.symm.trans told) (iff_of_true trivial rfl)
    exact .met unseen shown (made.atOnce ▸ inTime)
  | .ok false => exact absurd told decisive
  | .error f =>
    obtain ⟨failed, mute⟩ := error_of_read (made.answer.symm.trans told)
    exact .failed unseen (congrArg (Heard.mk _) failed) mute

/-- A poll that is answered no. -/
theorem unseen_of_no {p : Wait.Polled}
    (made : Wait.Round.Makes answer clock (c.asks cid) (c.read cid) s p)
    (no : p.answer = .ok false) :
    c.Unseen cid (Wait.Round.polled answer (c.asks cid) s) :=
  .inr (shows_of_read (made.answer.symm.trans no) (by decide))

/-- **A wait ends** as its course says. -/
theorem waited_of_course {es : List (Exchange (Timed Services) σ)} {quiet : List Wait.Polled}
    {last : Wait.Polled}
    (course : Wait.Course answer clock (c.asks cid) (c.read cid) interval deadline s es
      s' quiet last) (inTime : clock s ≤ deadline) :
    Waited clock begun deadline cid c ⟨Wait.outcome cid c.text begun last, s', es⟩ := by
  induction course with
  | @decided s p made decisive =>
    have begun : ∀ e ∈ [Wait.Round.begun answer s], c.Unseen cid e :=
      List.forall_mem_singleton.mpr (.inl rfl)
    exact waited_of_decisive made decisive begun inTime
  | @late s p made no spent still =>
    have round : ∀ e ∈ [Wait.Round.begun answer s, Wait.Round.polled answer (c.asks cid) s],
        c.Unseen cid e :=
      List.forall_mem_cons.mpr ⟨.inl rfl, List.forall_mem_singleton.mpr (unseen_of_no made no)⟩
    have silent : callOf? (Wait.Round.looked answer (c.asks cid) s).query = none := rfl
    have spent : deadline ≤ clock (Wait.Round.looked answer (c.asks cid) s).before := made.finish ▸ spent
    have said : Wait.outcome cid c.text begun p =
        .error (.timeout cid c.text (clock (Wait.Round.looked answer (c.asks cid) s).before - begun)) :=
      (Wait.outcome_no no).trans (by rw [made.finish])
    have overdue := @Waited.overdue σ clock begun deadline cid c _ _ round silent spent
    rw [said]
    exact overdue
  | @again s s' p last es quiet span whole made no early still slept rest ih =>
    have round : ∀ e ∈ [Wait.Round.begun answer s, Wait.Round.polled answer (c.asks cid) s,
        Wait.Round.looked answer (c.asks cid) s, Wait.Round.slept answer (c.asks cid) span s],
        c.Unseen cid e :=
      List.forall_mem_cons.mpr ⟨.inl rfl, List.forall_mem_cons.mpr ⟨unseen_of_no made no,
        List.forall_mem_cons.mpr ⟨.inl rfl, List.forall_mem_singleton.mpr (.inl rfl)⟩⟩⟩
    have inTime : clock (Wait.Round.slept answer (c.asks cid) span s).after ≤ deadline := by
      rw [slept, whole]
      exact Wait.pause_within early
    exact (ih inTime).precededBy round

/-- **A wait for a condition** sees that it holds, or stops at a call that fails, or when its time is up. -/
theorem awaitWithin_waited {waits : Waits} {timeout : Duration} (positive : 0 < waits.interval)
    (grouped : c ≠ .completed [])
    (steady : ∀ e ∈ ((c.awaitWithin waits timeout cid).trace answer s).exchanges, Steady clock e) :
    Waited clock (clock s) (clock s + timeout) cid c ((c.awaitWithin waits timeout cid).trace answer s) := by
  have asks : c.awaitWithin waits timeout cid = Wait.await waits.interval cid c.text timeout
      (Wait.asking (c.asks cid) (c.read cid)) := by
    unfold awaitWithin
    rw [if_neg grouped, probe_eq]
  rw [asks] at steady ⊢
  obtain ⟨es, s', quiet, last, course, still, whole⟩ := Wait.await_course positive steady
  have inTime : clock (answer.exchange .now s).after ≤ clock s + timeout := by
    rw [still]
    exact Nat.le_add_right _ _
  have rounds : Waited clock (clock s) (clock s + timeout) cid c
      ⟨Wait.outcome cid c.text (clock s) last, s', es⟩ := waited_of_course course inTime
  have first : ∀ e ∈ [answer.exchange .now s], c.Unseen cid e := List.forall_mem_singleton.mpr (.inl rfl)
  rw [whole]
  exact rounds.precededBy first

end Condition

/-! ## 4. One condition after another -/

/-- Conditions that are seen to hold one after another, from a time on and until another: each after
    exchanges in which it is not seen, and by a poll that starts within the timeout of its wait. -/
inductive Observed (clock : σ → Duration) (timeout : Duration) (cid : UInt64) :
    Duration → List Condition → List (Exchange (Timed Services) σ) → Duration → Prop where
  | nil (now : Duration) : Observed clock timeout cid now [] [] now
  | cons {begun ended : Duration} {c : Condition} {cs : List Condition}
    {earlier later : List (Exchange (Timed Services) σ)} {e : Exchange (Timed Services) σ}
    (unseen : ∀ e' ∈ earlier, c.Unseen cid e') (met : c.Shows cid True e.heard)
    (inTime : clock e.before ≤ begun + timeout)
    (rest : Observed clock timeout cid (clock e.after) cs later ended) :
    Observed clock timeout cid begun (c :: cs) (earlier ++ e :: later) ended

namespace Observed

variable {clock : σ → Duration} {timeout : Duration} {cid : UInt64} {begun ended : Duration}
  {cs : List Condition} {es : List (Exchange (Timed Services) σ)}

/-- The only calls are the polls. -/
theorem pollsFor (observed : Observed clock timeout cid begun cs es ended) :
    ∀ e ∈ es, Condition.PollsFor cid cs e := by
  induction observed with
  | nil => exact fun e he => nomatch he
  | cons unseen met _ _ ih =>
    exact List.forall_mem_append.mpr ⟨fun e he => (unseen e he).pollsFor,
      List.forall_mem_cons.mpr ⟨met.pollsFor, fun e he => (ih e he).after⟩⟩

/-- And none of them fails, pings apart. -/
theorem calm (observed : Observed clock timeout cid begun cs es ended)
    (plain : ∀ c ∈ cs, ¬(c = .pingable ∨ c = .notPingable)) :
    ∀ e ∈ es, faultOf? e.query e.reply = none := by
  induction observed with
  | nil => exact fun e he => nomatch he
  | cons unseen met _ _ ih =>
    obtain ⟨here, later⟩ := List.forall_mem_cons.mp plain
    refine List.forall_mem_append.mpr ⟨fun e he => ?_, List.forall_mem_cons.mpr ⟨?_, ih later⟩⟩
    · exact (unseen e he).calm here
    · exact met.calm here

end Observed

/-- Exchanges that see some conditions of a row and end in the wait for the next one, with the fault that
    ends it: a call fails, or time is up. -/
inductive Stalled (clock : σ → Duration) (timeout : Duration) (cid : UInt64) :
    Duration → List Condition → List (Exchange (Timed Services) σ) → Fault → Prop where
  | failed {begun : Duration} {c : Condition} {cs : List Condition}
    {earlier : List (Exchange (Timed Services) σ)} {e : Exchange (Timed Services) σ} {f : Fault}
    (unseen : ∀ e' ∈ earlier, c.Unseen cid e') (fails : e.heard = ⟨(c.question cid).query, .error f⟩)
    (mute : c = .pingable ∨ c = .notPingable → f.kind ≠ .cloud) :
    Stalled clock timeout cid begun (c :: cs) (earlier ++ [e]) f
  | overdue {begun : Duration} {c : Condition} {cs : List Condition}
    {earlier : List (Exchange (Timed Services) σ)} {e : Exchange (Timed Services) σ}
    (unseen : ∀ e' ∈ earlier, c.Unseen cid e') (silent : callOf? e.query = none)
    (late : begun + timeout ≤ clock e.before) :
    Stalled clock timeout cid begun (c :: cs) (earlier ++ [e])
      (.timeout cid c.text (clock e.before - begun))
  | after {begun : Duration} {c : Condition} {cs : List Condition}
    {earlier later : List (Exchange (Timed Services) σ)} {e : Exchange (Timed Services) σ} {f : Fault}
    (unseen : ∀ e' ∈ earlier, c.Unseen cid e') (met : c.Shows cid True e.heard)
    (inTime : clock e.before ≤ begun + timeout)
    (rest : Stalled clock timeout cid (clock e.after) cs later f) :
    Stalled clock timeout cid begun (c :: cs) (earlier ++ e :: later) f

namespace Stalled

variable {clock : σ → Duration} {timeout : Duration} {cid : UInt64} {begun : Duration}
  {cs : List Condition} {es : List (Exchange (Timed Services) σ)} {f : Fault}

/-- Here, too, the only calls are the polls. -/
theorem pollsFor (stalled : Stalled clock timeout cid begun cs es f) :
    ∀ e ∈ es, Condition.PollsFor cid cs e := by
  induction stalled with
  | @failed _ c cs earlier e f unseen fails =>
    have last : Condition.PollsFor cid (c :: cs) e :=
      .inr ⟨c, List.mem_cons_self, congrArg Heard.query fails⟩
    exact List.forall_mem_append.mpr ⟨fun e he => (unseen e he).pollsFor,
      List.forall_mem_singleton.mpr last⟩
  | overdue unseen silent =>
    exact List.forall_mem_append.mpr ⟨fun e he => (unseen e he).pollsFor,
      List.forall_mem_singleton.mpr (.inl silent)⟩
  | after unseen met _ _ ih =>
    exact List.forall_mem_append.mpr ⟨fun e he => (unseen e he).pollsFor,
      List.forall_mem_cons.mpr ⟨met.pollsFor, fun e he => (ih e he).after⟩⟩

/-- Last comes a call that fails, or no call. -/
theorem last (stalled : Stalled clock timeout cid begun cs es f) :
    ∃ earlier e, es = earlier ++ [e] ∧
      (callOf? e.query = none ∨ ∃ f, faultOf? e.query e.reply = some f) := by
  induction stalled with
  | @failed _ _ _ earlier e f _ fails =>
    have faulty : faultOf? e.heard.query e.heard.reply = some f := by
      rw [fails]
      rfl
    exact ⟨earlier, e, rfl, .inr ⟨f, faulty⟩⟩
  | overdue _ silent => exact ⟨_, _, rfl, .inl silent⟩
  | @after _ _ _ earlier _ e _ _ _ _ _ ih =>
    obtain ⟨before, last, split, ends⟩ := ih
    exact ⟨earlier ++ e :: before, last, by rw [split, List.append_assoc, List.cons_append], ends⟩

/-- A row that breaks off does so, too, where more is to be seen after it. -/
theorem extend (stalled : Stalled clock timeout cid begun cs es f) (more : List Condition) :
    Stalled clock timeout cid begun (cs ++ more) es f := by
  induction stalled with
  | failed unseen fails mute => exact .failed unseen fails mute
  | overdue unseen silent late => exact .overdue unseen silent late
  | after unseen met inTime _ ih => exact .after unseen met inTime ih

end Stalled

section Rows

variable {clock : σ → Duration} {timeout : Duration} {cid : UInt64} {begun middle ended : Duration}
  {cs more : List Condition} {es later : List (Exchange (Timed Services) σ)} {f : Fault}

/-- Two rows that are seen one after the other are one. -/
theorem Observed.append (observed : Observed clock timeout cid begun cs es middle)
    (rest : Observed clock timeout cid middle more later ended) :
    Observed clock timeout cid begun (cs ++ more) (es ++ later) ended := by
  induction observed with
  | nil => exact rest
  | cons unseen met inTime _ ih =>
    rw [List.append_assoc, List.cons_append]
    exact .cons unseen met inTime (ih rest)

/-- A row that breaks off after another one was seen. -/
theorem Observed.stalled (observed : Observed clock timeout cid begun cs es middle)
    (rest : Stalled clock timeout cid middle more later f) :
    Stalled clock timeout cid begun (cs ++ more) (es ++ later) f := by
  induction observed with
  | nil => exact rest
  | cons unseen met inTime _ ih =>
    rw [List.append_assoc, List.cons_append]
    exact .after unseen met inTime (ih rest)

end Rows

/-- A run that stalls, and ends with the fault of that in some frames. -/
def Stalls (clock : σ → Duration) (timeout : Duration) (cid : UInt64) (begun : Duration)
    (cs : List Condition) (t : Trace (Timed Services) σ α) : Prop :=
  ∃ f g, Stalled clock timeout cid begun cs t.exchanges f ∧ t.result = .error g ∧ g.Extends f

section Stages

variable {answer : Answering (Timed Services) σ} {clock : σ → Duration} {waits : Waits} {cid : UInt64}
  {c : Condition} {cs : List Condition} {begun timeout : Duration} {s : σ}

/-- A wait that does not see its condition stalls. -/
theorem Condition.Waited.stalls {t : Trace (Timed Services) σ Unit}
    (waited : c.Waited clock begun (begun + timeout) cid t) (cs : List Condition) :
    (∃ earlier e, (∀ e' ∈ earlier, c.Unseen cid e') ∧ c.Shows cid True e.heard ∧
      clock e.before ≤ begun + timeout ∧ t = ⟨.ok (), e.after, earlier ++ [e]⟩) ∨
    Stalls clock timeout cid begun (c :: cs) t := by
  cases waited with
  | met unseen met inTime => exact .inl ⟨_, _, unseen, met, inTime, rfl⟩
  | failed unseen fails mute =>
    exact .inr ⟨_, _, .failed unseen fails mute, rfl, (Fault.Extends.refl _).inContext _⟩
  | overdue unseen silent late => exact .inr ⟨_, _, .overdue unseen silent late, rfl, .refl _⟩

/-- A run that stalls after it has seen a condition. -/
theorem Stalls.after {t : Trace (Timed Services) σ α} {earlier : List (Exchange (Timed Services) σ)}
    {e : Exchange (Timed Services) σ} (h : Stalls clock timeout cid (clock e.after) cs t)
    (unseen : ∀ e' ∈ earlier, c.Unseen cid e') (met : c.Shows cid True e.heard)
    (inTime : clock e.before ≤ begun + timeout) :
    Stalls clock timeout cid begun (c :: cs) (t.precededBy (earlier ++ [e])) := by
  obtain ⟨f, g, stalled, failed, more⟩ := h
  refine ⟨f, g, ?_, failed, more⟩
  rw [Trace.precededBy_exchanges, List.append_assoc]
  exact .after unseen met inTime stalled

/-- A wait that stalls is the end of a workflow. -/
theorem Stalls.ends {p : Workflow Unit} (h : Stalls clock timeout cid begun cs (p.trace answer s))
    (frame : String) (next : Unit → Workflow α) :
    Stalls clock timeout cid begun cs (((p.inContext frame).bind next).trace answer s) := by
  obtain ⟨f, g, stalled, failed, more⟩ := h
  have framed : ((p.inContext frame).trace answer s).result = .error (g.inContext frame) := by
    rw [Program.inContext, Program.trace_mapFault]
    exact Trace.mapFault_eq_error.mpr ⟨g, failed, rfl⟩
  rw [Program.trace_bind_error framed, Program.exchanges_inContext]
  exact ⟨f, _, stalled, rfl, more.inContext frame⟩

/-- Waits for one condition after another, each in a frame of its own, and goes on. -/
def awaitEach (waits : Waits) (cid : UInt64) (rest : Workflow α) : List (Condition × String) → Workflow α
  | [] => rest
  | (c, frame) :: stages =>
    ((c.await waits cid).inContext frame).bind fun _ => awaitEach waits cid rest stages

/-- **Waits for one condition after another** see all of them, and the workflow goes on, or it stalls. -/
theorem trace_awaitEach (positive : 0 < waits.interval) {rest : Workflow α}
    {stages : List (Condition × String)} (grouped : ∀ stage ∈ stages, stage.1 ≠ .completed [])
    (steady : ∀ e ∈ ((awaitEach waits cid rest stages).trace answer s).exchanges, Steady clock e) :
    Stalls clock waits.timeout cid (clock s) (stages.map (·.1))
      ((awaitEach waits cid rest stages).trace answer s) ∨
    ∃ es s', Observed clock waits.timeout cid (clock s) (stages.map (·.1)) es (clock s') ∧
      (awaitEach waits cid rest stages).trace answer s = (rest.trace answer s').precededBy es := by
  induction stages generalizing s with
  | nil => exact .inr ⟨[], s, .nil _, rfl⟩
  | cons stage stages ih =>
    obtain ⟨c, frame⟩ := stage
    obtain ⟨here, later⟩ := List.forall_mem_cons.mp grouped
    have first : ∀ e ∈ ((c.await waits cid).trace answer s).exchanges, Steady clock e := by
      intro e he
      refine steady e (Program.exchanges_bind_first ?_)
      rw [Program.exchanges_inContext]
      exact he
    have waited : c.Waited clock (clock s) (clock s + waits.timeout) cid
        ((c.await waits cid).trace answer s) :=
      Condition.awaitWithin_waited positive here first
    rcases waited.stalls (stages.map (·.1)) with ⟨earlier, e, unseen, met, inTime, ended⟩ | stalled
    · have on : (awaitEach waits cid rest ((c, frame) :: stages)).trace answer s =
          ((awaitEach waits cid rest stages).trace answer e.after).precededBy (earlier ++ [e]) := by
        have seen : ((c.await waits cid).trace answer s).result = .ok () := by rw [ended]
        have after : (awaitEach waits cid rest ((c, frame) :: stages)).trace answer s = _ :=
          Program.trace_mapFault_bind_ok seen
        rw [ended] at after
        exact after
      rw [on] at steady ⊢
      have steady := (List.forall_mem_append.mp steady).2
      rcases ih later steady with stalled | ⟨es, s', observed, went⟩
      · exact .inl (stalled.after unseen met inTime)
      · refine .inr ⟨earlier ++ e :: es, s', .cons unseen met inTime observed, ?_⟩
        rw [went]
        simp [Trace.precededBy]
    · exact .inl (stalled.ends _ _)

end Stages

/-! ## 5. Worlds in which nobody cancels -/

namespace Simulation.World

variable {wiring : Wiring} {w : World}

/-- **In a world in which nobody cancels time is kept**, whatever calls take there. -/
theorem trace_steady (p : Workflow α) (undisturbed : w.clock.cancelsAt = none) :
    ∀ e ∈ (p.trace (answer wiring) w).exchanges, Steady (·.clock.time) e := by
  have preserved : ∀ q w, w.clock.cancelsAt = none → (answer wiring q w).2.clock.cancelsAt = none := by
    intro q w undisturbed
    cases q with
    | now => exact undisturbed
    | cancelled => exact undisturbed
    | nap span =>
      show (w.clock.nap span).2.cancelsAt = none
      rw [Clock.nap, undisturbed]
      exact undisturbed
    | other q =>
      cases q with
      | mark => exact undisturbed
      | call call =>
        obtain ⟨span, passed⟩ := answerCall_passes wiring call w
        exact (congrArg Clock.cancelsAt passed).trans undisturbed
  intro e he
  have still := (Program.trace_preserves preserved undisturbed).1 e he
  obtain ⟨q, w', rfl⟩ := Program.exchanges_asked e he
  have still : w'.clock.cancelsAt = none := still
  cases q with
  | now => exact ⟨rfl, rfl⟩
  | cancelled =>
    refine ⟨?_, rfl⟩
    show w'.clock.cancelled = false
    rw [Clock.cancelled, still]
    rfl
  | nap span =>
    show (w'.clock.nap span).1 = false ∧ (w'.clock.nap span).2.time = w'.clock.time + span
    rw [Clock.nap, still]
    exact ⟨rfl, rfl⟩
  | other q =>
    cases q with
    | mark => exact Nat.le_refl _
    | call call =>
      obtain ⟨span, passed⟩ := answerCall_passes wiring call w'
      have later : (answerCall wiring call w').2.clock.time = w'.clock.time + span :=
        congrArg Clock.time passed
      exact Nat.le_trans (Nat.le_add_right _ span) (Nat.le_of_eq later.symm)

end Simulation.World

end InstancePool
