import InstancePool.Fault

/-!
# Programs

Every operation on instances is a conversation with other parties: it asks, is answered, and goes on
according to the answer. Here such a conversation is a value, so that it can be run against the real
parties, against doubles of them, or step by step among others, and so that what it may ever ask can
be said without running it.

* `Interface`: the questions of a kind of conversation, and what each is answered with;
* `Program`: a conversation that ends with a value or a fault;
* `bind`, `attempt`, `inContext`: how programs are put together;
* `run`: a program under given answers.
-/

namespace InstancePool

/-- The questions of a kind of conversation, and what each is answered with. -/
structure Interface where
  Query : Type
  Reply : Query → Type

/-- A conversation that ends with a value or a fault. -/
inductive Program (I : Interface) (α : Type) where
  | done (a : α)
  | fail (f : Fault)
  | ask (q : I.Query) (next : I.Reply q → Program I α)

namespace Program

variable {I : Interface} {α β γ : Type}

/-! ## 1. Putting programs together -/

/-- One program after another, which goes on from the value of the first. A fault ends both. -/
def bind : Program I α → (α → Program I β) → Program I β
  | done a, next => next a
  | fail f, _ => fail f
  | ask q k, next => ask q fun reply => (k reply).bind next

instance : Monad (Program I) where
  pure := done
  bind := bind

/-- A value or a fault that is already known. -/
def ofExcept : Except Fault α → Program I α
  | .ok a => done a
  | .error f => fail f

/-- A program that ends with its value or its fault, and never fails. -/
def attempt : Program I α → Program I (Except Fault α)
  | done a => done (.ok a)
  | fail f => done (.error f)
  | ask q k => ask q fun reply => (k reply).attempt

/-- A program whose fault is replaced by its image. -/
def mapFault (change : Fault → Fault) : Program I α → Program I α
  | done a => done a
  | fail f => fail (change f)
  | ask q k => ask q fun reply => (k reply).mapFault change

/-- A program whose fault gets one more frame of context. -/
def inContext (frame : String) (p : Program I α) : Program I α := p.mapFault (·.inContext frame)

@[simp] theorem pure_eq_done (a : α) : (pure a : Program I α) = done a := rfl

@[simp] theorem bind_eq (p : Program I α) (next : α → Program I β) : p >>= next = p.bind next := rfl

@[simp] theorem done_bind (a : α) (next : α → Program I β) : (done a).bind next = next a := rfl

@[simp] theorem fail_bind (f : Fault) (next : α → Program I β) :
    (fail f : Program I α).bind next = fail f := rfl

@[simp] theorem ask_bind (q : I.Query) (k : I.Reply q → Program I α) (next : α → Program I β) :
    (ask q k).bind next = ask q fun reply => (k reply).bind next := rfl

theorem bind_done (p : Program I α) : p.bind done = p := by
  induction p with
  | done a => rfl
  | fail f => rfl
  | ask q k ih => simp [ih]

theorem bind_assoc (p : Program I α) (first : α → Program I β) (second : β → Program I γ) :
    (p.bind first).bind second = p.bind fun a => (first a).bind second := by
  induction p with
  | done a => rfl
  | fail f => rfl
  | ask q k ih => simp [ih]

/-! ## 2. Running programs -/

/-- What a program ends with when its questions are answered in some other world. -/
def run {m : Type → Type} [Monad m] (answer : (q : I.Query) → m (I.Reply q)) :
    Program I α → m (Except Fault α)
  | done a => pure (.ok a)
  | fail f => pure (.error f)
  | ask q k => answer q >>= fun reply => (k reply).run answer

end Program

end InstancePool
