import InstancePool.Program.Timed

/-!
# Disciplines

A conversation is judged by what it asks and when. A `Discipline` says at which stage which questions
may be asked and which stage a reply leads to; a program obeys it if every question it can ever come
to is allowed at that point, whatever it is answered.

* `Discipline`: stages, the questions allowed at each, and the replies that may be counted on;
* `Program.Obeys`: what holds of every way a program can take, with what is known at its end;
* `Program.ended`: whether a program has come to its end;
* `Program.Stays`: programs that never leave the stage they begin in, as waits and polls do.

Both are read off a program by its parts: `obeys_bind`, `obeys_mapFault` and `obeys_attempt` are
equivalences, so nothing is lost where programs are put together.
-/

namespace InstancePool

/-- Stages of a conversation. -/
structure Discipline (I : Interface) where
  Stage : Type
  /-- Which questions may be asked at a stage. -/
  may : Stage → I.Query → Prop
  /-- Which replies may be counted on. -/
  credible : (q : I.Query) → I.Reply q → Prop
  /-- The stage after a question was answered. -/
  next : Stage → (q : I.Query) → I.Reply q → Stage

/-- A question that is allowed at a stage and does not lead away from it. -/
def Discipline.Quiet {I : Interface} (D : Discipline I) (s : D.Stage) (q : I.Query) : Prop :=
  D.may s q ∧ ∀ reply, D.next s q reply = s

namespace Program

variable {I : Interface} {D : Discipline I} {α β : Type}

/-! ## 1. Obedience -/

/-- Every question that the program can come to from a stage is allowed there, and `post` holds of
    every end it can come to. -/
def Obeys (D : Discipline I) :
    Program I α → D.Stage → (Except Fault α → D.Stage → Prop) → Prop
  | done a, s, post => post (.ok a) s
  | fail f, s, post => post (.error f) s
  | ask q k, s, post =>
    D.may s q ∧ ∀ reply, D.credible q reply → (k reply).Obeys D (D.next s q reply) post

theorem Obeys.mono {p : Program I α} {post post' : Except Fault α → D.Stage → Prop}
    (h : ∀ r s, post r s → post' r s) : ∀ {s : D.Stage}, p.Obeys D s post → p.Obeys D s post' := by
  induction p with
  | done a => exact h _ _
  | fail f => exact h _ _
  | ask q k ih => exact fun hp => ⟨hp.1, fun reply hr => ih reply (hp.2 reply hr)⟩

theorem Obeys.and {p : Program I α} {post post' : Except Fault α → D.Stage → Prop} :
    ∀ {s : D.Stage}, p.Obeys D s post → p.Obeys D s post' →
      p.Obeys D s fun r s' => post r s' ∧ post' r s' := by
  induction p with
  | done a => exact fun h h' => ⟨h, h'⟩
  | fail f => exact fun h h' => ⟨h, h'⟩
  | ask q k ih => exact fun h h' => ⟨h.1, fun reply hr => ih reply (h.2 reply hr) (h'.2 reply hr)⟩

theorem obeys_bind {p : Program I α} {next : α → Program I β}
    {post : Except Fault β → D.Stage → Prop} : ∀ {s : D.Stage},
    (p.bind next).Obeys D s post ↔ p.Obeys D s fun r s' =>
      match r with
      | .ok a => (next a).Obeys D s' post
      | .error f => post (.error f) s' := by
  induction p with
  | done a => exact Iff.rfl
  | fail f => exact Iff.rfl
  | ask q k ih =>
    exact and_congr_right fun _ => forall_congr' fun reply => imp_congr_right fun _ => ih reply

theorem obeys_mapFault {change : Fault → Fault} {p : Program I α}
    {post : Except Fault α → D.Stage → Prop} : ∀ {s : D.Stage},
    (p.mapFault change).Obeys D s post ↔ p.Obeys D s fun r s' => post (r.mapError change) s' := by
  induction p with
  | done a => exact Iff.rfl
  | fail f => exact Iff.rfl
  | ask q k ih =>
    exact and_congr_right fun _ => forall_congr' fun reply => imp_congr_right fun _ => ih reply

theorem obeys_attempt {p : Program I α} {post : Except Fault (Except Fault α) → D.Stage → Prop} :
    ∀ {s : D.Stage}, p.attempt.Obeys D s post ↔ p.Obeys D s fun r s' => post (.ok r) s' := by
  induction p with
  | done a => exact Iff.rfl
  | fail f => exact Iff.rfl
  | ask q k ih =>
    exact and_congr_right fun _ => forall_congr' fun reply => imp_congr_right fun _ => ih reply

theorem obeys_ofExcept {r : Except Fault α} {s : D.Stage}
    {post : Except Fault α → D.Stage → Prop} : (ofExcept r).Obeys D s post ↔ post r s := by
  cases r <;> exact Iff.rfl

/-- One program after another: what the first one ends with is what the second one begins with. -/
theorem Obeys.bind {p : Program I α} {next : α → Program I β} {s : D.Stage}
    {mid : Except Fault α → D.Stage → Prop} {post : Except Fault β → D.Stage → Prop}
    (hp : p.Obeys D s mid) (ok : ∀ a s', mid (.ok a) s' → (next a).Obeys D s' post)
    (fault : ∀ f s', mid (.error f) s' → post (.error f) s') : (p.bind next).Obeys D s post := by
  refine obeys_bind.mpr (hp.mono fun r s' h => ?_)
  cases r with
  | ok a => exact ok a s' h
  | error f => exact fault f s' h

/-- One program after another that may fail. -/
theorem Obeys.attempt_bind {p : Program I α} {next : Except Fault α → Program I β} {s : D.Stage}
    {mid : Except Fault α → D.Stage → Prop} {post : Except Fault β → D.Stage → Prop}
    (hp : p.Obeys D s mid) (h : ∀ r s', mid r s' → (next r).Obeys D s' post) :
    (p.attempt.bind next).Obeys D s post :=
  obeys_bind.mpr (obeys_attempt.mpr (hp.mono h))

/-- Whether nothing is left to be asked. -/
def ended : Program I α → Bool
  | done _ => true
  | fail _ => true
  | ask _ _ => false

section Ends

variable {p : Program I α} {s : D.Stage} {post : Except Fault α → D.Stage → Prop}

theorem Obeys.asks (h : p.Obeys D s post) (going : p.ended = false) : ∃ q, D.may s q := by
  cases p with
  | done a => cases going
  | fail f => cases going
  | ask q k => exact ⟨q, h.1⟩

theorem Obeys.ends (h : p.Obeys D s post) (returned : p.ended = true) : ∃ r, post r s := by
  cases p with
  | done a => exact ⟨.ok a, h⟩
  | fail f => exact ⟨.error f, h⟩
  | ask q k => cases returned

end Ends

/-! ## 2. Staying at a stage -/

/-- The program never leaves the stage, and a value it ends with satisfies `good`. -/
def Stays (D : Discipline I) (s : D.Stage) (p : Program I α) (good : α → Prop) : Prop :=
  p.Obeys D s fun r s' => s' = s ∧ ∀ a, r = .ok a → good a

variable {s : D.Stage} {p : Program I α} {good : α → Prop}

theorem stays_iff : p.Stays D s good ↔ p.Obeys D s fun r s' => s' = s ∧ ∀ a, r = .ok a → good a :=
  Iff.rfl

/-- What holds at the end of a program that stayed where it began. -/
theorem Stays.obeys {post : Except Fault α → D.Stage → Prop} (hp : p.Stays D s good)
    (h : ∀ r, (∀ a, r = .ok a → good a) → post r s) : p.Obeys D s post :=
  Obeys.mono (fun r _ ⟨e, hg⟩ => e ▸ h r hg) hp

theorem stays_done {a : α} (h : good a) : (done a : Program I α).Stays D s good :=
  ⟨rfl, fun _ e => Except.ok.inj e ▸ h⟩

theorem stays_fail {f : Fault} : (fail f : Program I α).Stays D s good :=
  ⟨rfl, fun _ e => nomatch e⟩

theorem Stays.mono {good' : α → Prop} (hp : p.Stays D s good) (h : ∀ a, good a → good' a) :
    p.Stays D s good' :=
  Obeys.mono (fun _ _ ⟨e, hg⟩ => ⟨e, fun a ha => h a (hg a ha)⟩) hp

theorem Stays.bind {next : α → Program I β} {good' : β → Prop} (hp : p.Stays D s good)
    (h : ∀ a, good a → (next a).Stays D s good') : (p.bind next).Stays D s good' := by
  refine Obeys.bind hp (fun a s' ⟨e, hg⟩ => ?_) (fun f s' ⟨e, _⟩ => ⟨e, fun _ hf => nomatch hf⟩)
  subst e
  exact h a (hg a rfl)

theorem Stays.mapFault {change : Fault → Fault} (hp : p.Stays D s good) :
    (p.mapFault change).Stays D s good := by
  refine obeys_mapFault.mpr (Obeys.mono (fun r s' ⟨e, hg⟩ => ⟨e, fun a ha => ?_⟩) hp)
  cases r with
  | ok b => exact Except.ok.inj ha ▸ hg b rfl
  | error f => cases ha

theorem Stays.inContext {frame : String} (hp : p.Stays D s good) :
    (p.inContext frame).Stays D s good :=
  hp.mapFault

theorem Stays.attempt (hp : p.Stays D s good) :
    p.attempt.Stays D s fun r => ∀ a, r = .ok a → good a :=
  obeys_attempt.mpr (Obeys.mono (fun _ _ ⟨e, hg⟩ => ⟨e, fun _ he => Except.ok.inj he ▸ hg⟩) hp)

theorem stays_ofExcept {r : Except Fault α} (h : ∀ a, r = .ok a → good a) :
    (ofExcept r : Program I α).Stays D s good :=
  obeys_ofExcept.mpr ⟨rfl, h⟩

theorem stays_ite {c : Prop} [Decidable c] {q : Program I α} (yes : c → p.Stays D s good)
    (no : ¬c → q.Stays D s good) : (if c then p else q).Stays D s good := by
  split
  · exact yes ‹_›
  · exact no ‹_›

theorem stays_ask {q : I.Query} {k : I.Reply q → Program I α} (quiet : D.Quiet s q)
    (h : ∀ reply, D.credible q reply → (k reply).Stays D s good) : (ask q k).Stays D s good := by
  refine ⟨quiet.1, fun reply hr => ?_⟩
  rw [quiet.2 reply]
  exact h reply hr

-- From here on a program is taken apart by these lemmas, and never by running it in a goal.
attribute [irreducible] Stays

end Program

end InstancePool
