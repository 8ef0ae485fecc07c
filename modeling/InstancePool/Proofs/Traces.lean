import InstancePool.Proofs.Discipline

/-!
# Traces

Whoever answers a program may do so as it likes: what it answers may depend on all that it was asked
before, and it may change whatever it holds. So any behaviour of the other parties is a function from
a question and a state to a reply and a state. A run against it leaves a `Trace`.

* `Answering`: a behaviour of the other parties; `Exchange`: a question as it was answered;
* `Program.trace`: what a program ends with, the state that is left, and its exchanges in order;
  `run_eq_trace`: it is the run of the program, written down;
* `trace_bind_ok`, `trace_bind_error`, `trace_mapFault`, `trace_attempt`: the trace of a program by
  those of its parts;
* `trace_keeps`: what no exchange changes is the same after the run; `trace_preserves`: what every answer
  preserves holds all along;
* `Program.Reaches`: a run that ends well, put together from its parts;
* `Discipline.Follows`: exchanges that were allowed when they were made, with replies that may be
  counted on;
* `Obeys.trace`, `Obeys.follows`, `Stays.asks`: what the program of a discipline asks and ends with.
-/

namespace InstancePool

/-! ## 1. Exchanges -/

/-- Whoever answers the questions of a conversation, from state to state. -/
abbrev Answering (I : Interface) (σ : Type) : Type := (q : I.Query) → StateM σ (I.Reply q)

/-- A question and its reply, with the state in which it was asked and the one it left. -/
structure Exchange (I : Interface) (σ : Type) where
  query : I.Query
  reply : I.Reply query
  before : σ
  after : σ

/-- A question as it is answered in a state. -/
@[reducible] def Answering.exchange {I : Interface} {σ : Type} (answer : Answering I σ) (q : I.Query) (s : σ) :
    Exchange I σ where
  query := q
  reply := (answer q s).1
  before := s
  after := (answer q s).2

/-- What a run ends with, the state it leaves, and its exchanges, the first one first. -/
structure Trace (I : Interface) (σ α : Type) where
  result : Except Fault α
  state : σ
  exchanges : List (Exchange I σ)

namespace Trace

variable {I : Interface} {σ α : Type}

/-- The trace of a run that went on after some exchanges. -/
def precededBy (t : Trace I σ α) (first : List (Exchange I σ)) : Trace I σ α :=
  { t with exchanges := first ++ t.exchanges }

/-- The trace of a run whose fault is replaced by its image. -/
def mapFault (t : Trace I σ α) (change : Fault → Fault) : Trace I σ α :=
  { t with result := t.result.mapError change }

section Fields

variable (t : Trace I σ α) (first : List (Exchange I σ)) (change : Fault → Fault)

@[simp] theorem precededBy_result : (t.precededBy first).result = t.result := rfl

@[simp] theorem precededBy_state : (t.precededBy first).state = t.state := rfl

@[simp] theorem precededBy_exchanges :
    (t.precededBy first).exchanges = first ++ t.exchanges := rfl

@[simp] theorem mapFault_result : (t.mapFault change).result = t.result.mapError change := rfl

@[simp] theorem mapFault_state : (t.mapFault change).state = t.state := rfl

@[simp] theorem mapFault_exchanges : (t.mapFault change).exchanges = t.exchanges := rfl

variable {t change}

/-- A good end is the same, whatever faults are replaced by. -/
theorem mapFault_eq_ok {a : α} : (t.mapFault change).result = .ok a ↔ t.result = .ok a := by
  rw [mapFault_result]
  cases t.result with
  | ok _ => exact Iff.rfl
  | error f => exact ⟨fun ok => (nomatch ok), fun ok => (nomatch ok)⟩

theorem mapFault_eq_error {g : Fault} :
    (t.mapFault change).result = .error g ↔ ∃ f, t.result = .error f ∧ g = change f := by
  rw [mapFault_result]
  cases t.result with
  | ok _ => exact ⟨fun failed => (nomatch failed), fun ⟨_, failed, _⟩ => nomatch failed⟩
  | error f =>
    constructor
    · intro failed
      exact ⟨f, rfl, (Except.error.inj failed).symm⟩
    · rintro ⟨f', same, rfl⟩
      cases same
      rfl

end Fields

end Trace

/-! ## 2. The trace of a program -/

namespace Program

variable {I : Interface} {σ α β : Type}

/-- The run of a program from a state. -/
def trace (answer : Answering I σ) : Program I α → σ → Trace I σ α
  | done a, s => ⟨.ok a, s, []⟩
  | fail f, s => ⟨.error f, s, []⟩
  | ask q k, s =>
    let first := answer.exchange q s
    ((k first.reply).trace answer first.after).precededBy [first]

variable {answer : Answering I σ} {p : Program I α} {s : σ}

/-- **A trace is the run of a program**, written down. -/
theorem run_eq_trace : (p.run answer).run s = ((p.trace answer s).result, (p.trace answer s).state) := by
  induction p generalizing s with
  | done a => rfl
  | fail f => rfl
  | ask q k ih => exact ih (answer q s).1

@[simp] theorem trace_done (a : α) :
    (done a : Program I α).trace answer s = ⟨.ok a, s, []⟩ := rfl

@[simp] theorem trace_fail (f : Fault) :
    (fail f : Program I α).trace answer s = ⟨.error f, s, []⟩ := rfl

theorem trace_ask (q : I.Query) (k : I.Reply q → Program I α) :
    (ask q k).trace answer s =
      ((k (answer.exchange q s).reply).trace answer (answer.exchange q s).after).precededBy
        [answer.exchange q s] := rfl

@[simp] theorem trace_ofExcept (r : Except Fault α) :
    (ofExcept r : Program I α).trace answer s = ⟨r, s, []⟩ := by
  cases r <;> rfl

/-- **One program after another**: the second one goes on from the end of the first, and a fault ends
    both. -/
theorem trace_bind {next : α → Program I β} :
    (p.bind next).trace answer s =
      match (p.trace answer s).result with
      | .ok a =>
        ((next a).trace answer (p.trace answer s).state).precededBy (p.trace answer s).exchanges
      | .error f => ⟨.error f, (p.trace answer s).state, (p.trace answer s).exchanges⟩ := by
  induction p generalizing s with
  | done a => rfl
  | fail f => rfl
  | ask q k ih =>
    rw [ask_bind, trace_ask, trace_ask, ih]
    dsimp only [Trace.precededBy_result]
    split
    · rfl
    · rfl

theorem trace_bind_ok {next : α → Program I β} {a : α} (ok : (p.trace answer s).result = .ok a) :
    (p.bind next).trace answer s =
      ((next a).trace answer (p.trace answer s).state).precededBy (p.trace answer s).exchanges := by
  rw [trace_bind, ok]

theorem trace_bind_error {next : α → Program I β} {f : Fault}
    (failed : (p.trace answer s).result = .error f) :
    (p.bind next).trace answer s =
      ⟨.error f, (p.trace answer s).state, (p.trace answer s).exchanges⟩ := by
  rw [trace_bind, failed]

theorem trace_mapFault (change : Fault → Fault) :
    (p.mapFault change).trace answer s = (p.trace answer s).mapFault change := by
  induction p generalizing s with
  | done a => rfl
  | fail f => rfl
  | ask q k ih =>
    rw [mapFault, trace_ask, trace_ask, ih]
    rfl

/-- A frame around a fault adds no questions. -/
theorem exchanges_inContext {frame : String} :
    ((p.inContext frame).trace answer s).exchanges = (p.trace answer s).exchanges := by
  rw [inContext, trace_mapFault]
  rfl

theorem trace_attempt :
    p.attempt.trace answer s =
      ⟨.ok (p.trace answer s).result, (p.trace answer s).state, (p.trace answer s).exchanges⟩ := by
  induction p generalizing s with
  | done a => rfl
  | fail f => rfl
  | ask q k ih =>
    rw [attempt, trace_ask, trace_ask, ih]
    rfl

/-- One program after another that may fail. -/
theorem trace_attempt_bind {next : Except Fault α → Program I β} :
    (p.attempt.bind next).trace answer s =
      ((next (p.trace answer s).result).trace answer (p.trace answer s).state).precededBy
        (p.trace answer s).exchanges := by
  rw [trace_bind, trace_attempt]

/-- A sequence ends well if and only if both of its parts do. -/
theorem trace_bind_eq_ok {next : α → Program I β} {b : β} :
    ((p.bind next).trace answer s).result = .ok b ↔
      ∃ a, (p.trace answer s).result = .ok a ∧
        ((next a).trace answer (p.trace answer s).state).result = .ok b := by
  rw [trace_bind]
  cases (p.trace answer s).result with
  | ok a =>
    constructor
    · intro ok
      exact ⟨a, rfl, ok⟩
    · rintro ⟨a', same, ok⟩
      cases same
      exact ok
  | error f =>
    constructor
    · intro ok
      cases ok
    · rintro ⟨a, same, -⟩
      cases same

/-- After a good end of the first part, a frame around it makes no difference. -/
theorem trace_mapFault_bind_ok {change : Fault → Fault} {next : α → Program I β} {a : α}
    (ok : (p.trace answer s).result = .ok a) :
    ((p.mapFault change).bind next).trace answer s =
      ((next a).trace answer (p.trace answer s).state).precededBy (p.trace answer s).exchanges := by
  have framed : ((p.mapFault change).trace answer s).result = .ok a := by
    rw [trace_mapFault]
    exact Trace.mapFault_eq_ok.mpr ok
  rw [trace_bind_ok framed, trace_mapFault]
  rfl

/-- A frame around the first part changes nothing about a good end. -/
theorem trace_mapFault_bind_eq_ok {change : Fault → Fault} {next : α → Program I β} {b : β} :
    (((p.mapFault change).bind next).trace answer s).result = .ok b ↔
      ∃ a, (p.trace answer s).result = .ok a ∧
        ((next a).trace answer (p.trace answer s).state).result = .ok b := by
  rw [trace_bind_eq_ok, trace_mapFault]
  exact exists_congr fun a => and_congr_left fun _ => Trace.mapFault_eq_ok

/-- A sequence ends with a fault in its first part, which gets a frame, or in its second part. -/
theorem trace_mapFault_bind_eq_error {change : Fault → Fault} {next : α → Program I β} {g : Fault}
    (failed : (((p.mapFault change).bind next).trace answer s).result = .error g) :
    (∃ f, (p.trace answer s).result = .error f ∧ g = change f ∧
      (((p.mapFault change).bind next).trace answer s).exchanges = (p.trace answer s).exchanges) ∨
    ∃ a, (p.trace answer s).result = .ok a ∧
      ((next a).trace answer (p.trace answer s).state).result = .error g ∧
      (((p.mapFault change).bind next).trace answer s).exchanges = (p.trace answer s).exchanges ++
        ((next a).trace answer (p.trace answer s).state).exchanges := by
  cases ended : (p.trace answer s).result with
  | ok a =>
    rw [trace_mapFault_bind_ok ended] at failed ⊢
    exact .inr ⟨a, rfl, failed, rfl⟩
  | error f =>
    have framed : ((p.mapFault change).trace answer s).result = .error (change f) := by
      rw [trace_mapFault]
      exact Trace.mapFault_eq_error.mpr ⟨f, ended, rfl⟩
    rw [trace_bind_error framed, trace_mapFault] at failed ⊢
    cases failed
    exact .inl ⟨f, rfl, rfl, rfl⟩

/-- What is asked in the first part of a sequence is asked in the sequence. -/
theorem exchanges_bind_first {next : α → Program I β} {e : Exchange I σ}
    (asked : e ∈ (p.trace answer s).exchanges) : e ∈ ((p.bind next).trace answer s).exchanges := by
  rw [trace_bind]
  split
  · exact List.mem_append_left _ asked
  · exact asked

/-- What is on a trace was asked in some state. -/
theorem exchanges_asked : ∀ e ∈ (p.trace answer s).exchanges, ∃ q s', e = answer.exchange q s' := by
  induction p generalizing s with
  | done a => exact fun e he => nomatch he
  | fail f => exact fun e he => nomatch he
  | ask q k ih =>
    intro e he
    rcases List.mem_cons.mp he with rfl | he
    · exact ⟨q, s, rfl⟩
    · exact ih _ e he

/-- What no exchange changes is the same after the run. -/
theorem trace_keeps {V : Type} {view : σ → V}
    (kept : ∀ e ∈ (p.trace answer s).exchanges, view e.after = view e.before) :
    view (p.trace answer s).state = view s := by
  induction p generalizing s with
  | done a => rfl
  | fail f => rfl
  | ask q k ih =>
    have first : view (answer.exchange q s).after = view s := kept _ List.mem_cons_self
    rw [← first]
    exact ih _ fun e he => kept e (List.mem_cons_of_mem _ he)

/-- What every answer preserves holds in every state of a run. -/
theorem trace_preserves {Inv : σ → Prop} (preserved : ∀ q s, Inv s → Inv (answer q s).2) (h : Inv s) :
    (∀ e ∈ (p.trace answer s).exchanges, Inv e.before) ∧ Inv (p.trace answer s).state := by
  induction p generalizing s with
  | done a => exact ⟨fun e he => (nomatch he), h⟩
  | fail f => exact ⟨fun e he => (nomatch he), h⟩
  | ask q k ih =>
    obtain ⟨later, last⟩ := ih _ (preserved q s h)
    exact ⟨List.forall_mem_cons.mpr ⟨h, later⟩, last⟩

/-! ## 3. Good ends -/

/-- A run that ends well: its value, and the state that is left. -/
structure Reaches (answer : Answering I σ) (p : Program I α) (s : σ) (a : α) (s' : σ) : Prop where
  value : (p.trace answer s).result = .ok a
  left : (p.trace answer s).state = s'

section Reaches

variable {s' s'' : σ} {a : α} {b : β}

theorem Reaches.trace_eq (h : p.Reaches answer s a s') :
    ∃ es, p.trace answer s = ⟨.ok a, s', es⟩ := by
  obtain ⟨value, rfl⟩ := h
  rw [← value]
  exact ⟨_, rfl⟩

theorem Reaches.run_eq (h : p.Reaches answer s a s') : (p.run answer).run s = (.ok a, s') := by
  rw [run_eq_trace, h.value, h.left]

theorem Reaches.bind {next : α → Program I β} (first : p.Reaches answer s a s')
    (rest : (next a).Reaches answer s' b s'') : (p.bind next).Reaches answer s b s'' := by
  obtain ⟨value, rfl⟩ := first
  obtain ⟨value', rfl⟩ := rest
  refine ⟨?_, ?_⟩
  · rw [trace_bind_ok value]
    exact value'
  · rw [trace_bind_ok value]
    rfl

theorem Reaches.mapFault {change : Fault → Fault} (h : p.Reaches answer s a s') :
    (p.mapFault change).Reaches answer s a s' := by
  refine ⟨?_, ?_⟩
  · rw [trace_mapFault]
    exact Trace.mapFault_eq_ok.mpr h.value
  · rw [trace_mapFault]
    exact h.left

theorem Reaches.inContext {frame : String} (h : p.Reaches answer s a s') :
    (p.inContext frame).Reaches answer s a s' :=
  h.mapFault

theorem Reaches.attempt (h : p.Reaches answer s a s') : p.attempt.Reaches answer s (.ok a) s' := by
  refine ⟨?_, ?_⟩
  · rw [trace_attempt, h.value]
  · rw [trace_attempt]
    exact h.left

theorem reaches_ask {q : I.Query} {k : I.Reply q → Program I α}
    (h : (k (answer q s).1).Reaches answer (answer q s).2 a s') : (ask q k).Reaches answer s a s' :=
  ⟨h.value, h.left⟩

end Reaches

/-! ## 4. Disciplines along a trace -/

/-- The stage to which some exchanges lead. -/
def stageAfter (D : Discipline I) (stage : D.Stage) : List (Exchange I σ) → D.Stage
  | [] => stage
  | e :: later => stageAfter D (D.next stage e.query e.reply) later

variable {D : Discipline I} {stage : D.Stage}

/-- **What a program ends with** when all that it was answered can be counted on. -/
theorem Obeys.trace {post : Except Fault α → D.Stage → Prop} (h : p.Obeys D stage post)
    (credible : ∀ e ∈ (p.trace answer s).exchanges, D.credible e.query e.reply) :
    post (p.trace answer s).result (stageAfter D stage (p.trace answer s).exchanges) := by
  induction p generalizing s stage with
  | done a => exact h
  | fail f => exact h
  | ask q k ih =>
    have first := credible (answer.exchange q s) List.mem_cons_self
    exact ih _ (h.2 _ first) fun e he => credible e (List.mem_cons_of_mem _ he)

end Program

/-- Exchanges that follow a discipline: each question is allowed at the stage to which the exchanges
    before it lead, and each reply may be counted on. -/
def Discipline.Follows {I : Interface} {σ : Type} (D : Discipline I) :
    D.Stage → List (Exchange I σ) → Prop
  | _, [] => True
  | stage, e :: later => D.may stage e.query ∧ D.credible e.query e.reply ∧
    D.Follows (D.next stage e.query e.reply) later

/-- What follows a discipline is allowed at some stage. -/
theorem Discipline.Follows.may {I : Interface} {σ : Type} {D : Discipline I} {stage : D.Stage}
    {es : List (Exchange I σ)} (h : D.Follows stage es) : ∀ e ∈ es, ∃ stage', D.may stage' e.query := by
  induction es generalizing stage with
  | nil => exact fun e he => nomatch he
  | cons first later ih =>
    exact List.forall_mem_cons.mpr ⟨⟨stage, h.1⟩, ih h.2.2⟩

/-- **What a program asks** follows its discipline when all that it was answered can be counted on. -/
theorem Program.Obeys.follows {I : Interface} {σ α : Type} {answer : Answering I σ} {D : Discipline I}
    {p : Program I α} {s : σ} {stage : D.Stage} {post : Except Fault α → D.Stage → Prop}
    (h : p.Obeys D stage post)
    (credible : ∀ e ∈ (p.trace answer s).exchanges, D.credible e.query e.reply) :
    D.Follows stage (p.trace answer s).exchanges := by
  induction p generalizing s stage with
  | done a => trivial
  | fail f => trivial
  | ask q k ih =>
    have first := credible (answer.exchange q s) List.mem_cons_self
    exact ⟨h.1, first, ih _ (h.2 _ first) fun e he => credible e (List.mem_cons_of_mem _ he)⟩

/-- The discipline that allows some questions at any time, and counts on nothing. -/
def Discipline.only {I : Interface} (allowed : I.Query → Prop) : Discipline I where
  Stage := Unit
  may _ q := allowed q
  credible _ _ := True
  next s _ _ := s

namespace Program

variable {I : Interface} {σ α : Type} {answer : Answering I σ} {p : Program I α} {s : σ}

theorem Obeys.asks_only {allowed : I.Query → Prop} {post : Except Fault α → Unit → Prop}
    (h : p.Obeys (.only allowed) () post) : ∀ e ∈ (p.trace answer s).exchanges, allowed e.query := by
  induction p generalizing s with
  | done a => exact fun e he => nomatch he
  | fail f => exact fun e he => nomatch he
  | ask q k ih =>
    intro e he
    rcases List.mem_cons.mp he with rfl | he
    · exact h.1
    · exact ih _ (h.2 _ trivial) e he

/-- **A program asks nothing else.** -/
theorem Stays.asks {allowed : I.Query → Prop} {good : α → Prop}
    (h : p.Stays (.only allowed) () good) : ∀ e ∈ (p.trace answer s).exchanges, allowed e.query :=
  Obeys.asks_only (stays_iff.mp h)

end Program

end InstancePool
