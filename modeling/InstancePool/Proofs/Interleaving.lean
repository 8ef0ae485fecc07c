import InstancePool.Allocation
import InstancePool.Upkeep
import InstancePool.Proofs.Discipline
import InstancePool.Proofs.Entries
import Mathlib.Logic.Function.Basic

/-!
# Callers side by side

Any number of callers allocate and release instances over one registry. Each of them runs its own
workflow; they take turns in any order, one question at a time, and in each turn the world answers as
it likes. Only the registry keeps to its rules, apart from calls that get lost. A caller that never
has its turn has not called yet, and one that has no further turn was given up.

* `Task`: what a caller is after; `Turn`: whose turn it is and what the world answers in it;
* `Traffic`, `Traffic.after`: the registry, what is left of each workflow, and the history of all
  questions, after a schedule of turns (the latest turn first, as in every journal);
* `Discipline.stageOf`, `obeys_after`: what is left of a workflow obeys the discipline that the whole
  workflow obeys, from the stage that its own questions have led to;
* `Recorded`, `recorded_after`: all that is known of the questions in a history, each at the stage of
  its caller. What holds of every run is proved by induction on it.
-/

namespace InstancePool

open Pool (Entry State)
open Simulation (RegistryDouble)

/-! ## 1. Tasks and turns -/

/-- What a caller is after. -/
inductive Task where
  | create (site : Site) (request : Request)
  | release (cid : UInt64)

namespace Task

/-- The workflow of a task. Only an allocation has something to answer. -/
def workflow : Task → Workflow (Option Instance)
  | create site request => do return some (← Allocation.run site request)
  | release cid => do
    Upkeep.release cid
    return none

/-- Whether a task gives an instance back. -/
def releases : Task → Bool
  | create _ _ => false
  | release _ => true

/-- Whether a task leaves the choice of an instance to the pool: it insists on no address. -/
def Pooled : Task → Prop
  | create _ request =>
    ∀ selected, Networks.select request.networks = .ok selected → selected.fixedIp = none
  | release _ => True

end Task

/-- A turn of one caller, and all that the world may answer in it. -/
structure Turn (ι : Type) where
  caller : ι
  /-- What becomes of a call to the registry. -/
  fate : Fate := .answered
  cloud : (call : Cloud.Call) → call.Answer := fun _ => .error (.cloud "unreachable")
  aliased : Except Fault Unit := .ok ()
  now : Duration := 0
  cancelled : Bool := false
  mark : String := ""

namespace Turn

variable {ι : Type}

/-- What a question is answered with in a turn, and the registry after it. -/
def answer (turn : Turn ι) (d : RegistryDouble) :
    (q : (Timed Services).Query) → (Timed Services).Reply q × RegistryDouble
  | .now => (turn.now, d)
  | .cancelled => (turn.cancelled, d)
  | .nap _ => (turn.cancelled, d)
  | .other (.call (.cloud call)) => (turn.cloud call, d)
  | .other (.call (.registry call)) => d.meet call turn.fate
  | .other (.call (.hostAlias _ _)) => (turn.aliased, d)
  | .other .mark => (turn.mark, d)

/-- A report on an instance is on the one that was asked for. -/
def Truthful (turn : Turn ι) : Prop :=
  ∀ cid i, turn.cloud (.getInstance cid) = .ok i → i.cid = cid

end Turn

/-! ## 2. Traffic -/

/-- A question that was asked and answered, and the entries before and after it. -/
structure Event (ι : Type) where
  caller : ι
  query : (Timed Services).Query
  reply : (Timed Services).Reply query
  before : List Entry
  after : List Entry
  /-- Whether the caller's workflow ended with it. -/
  returns : Bool

/-- The registry and the callers at one moment. -/
structure Traffic (ι : Type) where
  registry : RegistryDouble
  /-- What is left of each caller's workflow. -/
  rest : ι → Workflow (Option Instance)
  /-- The questions so far, the latest one first. -/
  history : List (Event ι)

namespace Traffic

variable {ι : Type} [DecidableEq ι]

/-- Before the first turn. -/
def start (tasks : ι → Task) (registry : RegistryDouble) : Traffic ι where
  registry := registry
  rest i := (tasks i).workflow
  history := []

/-- One turn. A caller whose workflow has ended lets it pass. -/
def advance (t : Traffic ι) (turn : Turn ι) : Traffic ι :=
  match t.rest turn.caller with
  | .done _ => t
  | .fail _ => t
  | .ask q next =>
    let (reply, registry) := turn.answer t.registry q
    { registry
      rest := Function.update t.rest turn.caller (next reply)
      history :=
        { caller := turn.caller, query := q, reply, before := t.registry.entries,
          after := registry.entries, returns := (next reply).ended } :: t.history }

/-- After the turns of a schedule, the latest of which stands first. -/
def after (t : Traffic ι) : List (Turn ι) → Traffic ι
  | [] => t
  | turn :: earlier => (t.after earlier).advance turn

/-- **A turn passes, or it is one question with its answer.** -/
theorem advance_cases (t : Traffic ι) (turn : Turn ι) :
    t.advance turn = t ∨ ∃ q next, t.rest turn.caller = .ask q next ∧
      t.advance turn =
        { registry := (turn.answer t.registry q).2
          rest := Function.update t.rest turn.caller (next (turn.answer t.registry q).1)
          history :=
            { caller := turn.caller, query := q, reply := (turn.answer t.registry q).1,
              before := t.registry.entries, after := (turn.answer t.registry q).2.entries,
              returns := (next (turn.answer t.registry q).1).ended } :: t.history } := by
  unfold advance
  split
  · exact .inl rfl
  · exact .inl rfl
  · rename_i q next asks
    exact .inr ⟨q, next, asks, rfl⟩

/-- What a question leaves of the caller's workflow, and of the registry. -/
theorem advance_asks {t : Traffic ι} (turn : Turn ι) {q : (Timed Services).Query}
    {next : (Timed Services).Reply q → Workflow (Option Instance)}
    (asks : t.rest turn.caller = .ask q next) :
    (t.advance turn).rest turn.caller = next (turn.answer t.registry q).1 ∧
      (t.advance turn).registry = (turn.answer t.registry q).2 := by
  unfold advance
  rw [asks]
  exact ⟨Function.update_self .., rfl⟩

end Traffic

/-! ## 3. Disciplines in a history -/

section Stages

variable {ι : Type} [DecidableEq ι] {D : Discipline (Timed Services)}

/-- The stage to which a caller's own questions have led. -/
def Discipline.stageOf (D : Discipline (Timed Services)) (first : ι → D.Stage) (i : ι) :
    List (Event ι) → D.Stage
  | [] => first i
  | e :: earlier =>
    if e.caller = i then D.next (D.stageOf first i earlier) e.query e.reply
    else D.stageOf first i earlier

/-- What a turn may answer can be counted on, whatever is asked. -/
def Discipline.Admits (D : Discipline (Timed Services)) (turn : Turn ι) : Prop :=
  ∀ d q, D.credible q (turn.answer d q).1

/-- **What is left of a workflow obeys the discipline of the whole**, from the stage it has reached. -/
theorem obeys_after {tasks : ι → Task} (registry : RegistryDouble) {first : ι → D.Stage}
    {post : ι → Except Fault (Option Instance) → D.Stage → Prop}
    (h : ∀ i, (tasks i).workflow.Obeys D (first i) (post i)) {schedule : List (Turn ι)}
    (admitted : ∀ turn ∈ schedule, D.Admits turn) (i : ι) :
    (((Traffic.start tasks registry).after schedule).rest i).Obeys D
      (D.stageOf first i ((Traffic.start tasks registry).after schedule).history) (post i) := by
  induction schedule generalizing i with
  | nil => exact h i
  | cons turn earlier ih =>
    replace ih := ih fun turn' ht => admitted turn' (List.mem_cons_of_mem _ ht)
    rw [Traffic.after]
    rcases Traffic.advance_cases ((Traffic.start tasks registry).after earlier) turn with
      same | ⟨q, next, asks, same⟩
    · rw [same]
      exact ih i
    · rw [same]
      dsimp only [Discipline.stageOf]
      by_cases hi : turn.caller = i
      · subst hi
        have obeys := ih turn.caller
        rw [asks] at obeys
        rw [if_pos rfl, Function.update_self]
        exact obeys.2 _ (admitted turn List.mem_cons_self _ q)
      · rw [if_neg hi, Function.update_of_ne (Ne.symm hi)]
        exact ih i

end Stages

/-! ## 4. Records -/

/-- Whether a question is meant to change the entries. -/
def Writes : (Timed Services).Query → Prop
  | .other (.call (.registry call)) => call.writes
  | _ => False

/-- What a question does to the entries, by what it is answered with. -/
inductive Answered : (q : (Timed Services).Query) → (Timed Services).Reply q →
    List Entry → List Entry → Prop where
  | changed {call : Registry.Call} {reply : call.Answer} {before after : List Entry}
      (effect : Registry.Effect call before after) :
      Answered (.other (.call (.registry call))) reply before after
  | failed {call : Registry.Call} {f : Fault} {entries : List Entry} :
      Answered (.other (.call (.registry call))) (.error f) entries entries
  | told {q : (Timed Services).Query} {reply : (Timed Services).Reply q} {entries : List Entry}
      (reads : ¬ Writes q) : Answered q reply entries entries

section Answers

variable {before after : List Entry}

/-- A write takes effect, or a fault is answered. -/
theorem Answered.wrote {call : Registry.Call} {reply : call.Answer}
    (h : Answered (.other (.call (.registry call))) reply before after) (writes : call.writes) :
    Registry.Effect call before after ∨ after = before ∧ ∃ f, reply = .error f := by
  cases h with
  | changed effect => exact .inl effect
  | failed => exact .inr ⟨rfl, _, rfl⟩
  | told reads => exact absurd writes reads

/-- Any other question leaves the entries as they are. -/
theorem Answered.same {q : (Timed Services).Query} {reply : (Timed Services).Reply q}
    (h : Answered q reply before after) (reads : ¬ Writes q) : after = before := by
  cases h with
  | changed effect => cases effect <;> exact absurd rfl reads
  | failed => rfl
  | told => rfl

end Answers

section Records

variable {ι : Type}

theorem Turn.answered (turn : Turn ι) (d : RegistryDouble) (q : (Timed Services).Query) :
    Answered q (turn.answer d q).1 d.entries (turn.answer d q).2.entries := by
  cases q with
  | other q =>
    cases q with
    | call c =>
      cases c with
      | registry call =>
        show Answered (.other (.call (.registry call))) (d.meet call turn.fate).1 d.entries
          (d.meet call turn.fate).2.entries
        rcases RegistryDouble.meet_effect d call turn.fate with effect | ⟨same, failed⟩
        · exact .changed effect
        · rw [same]
          by_cases writes : call.writes = true
          · obtain ⟨f, hf⟩ := failed writes
            rw [hf]
            exact .failed
          · exact .told writes
      | _ => exact .told id
    | mark => exact .told id
  | _ => exact .told id

/-- The event changes the state in which an instance is entered from one to another. -/
def Event.moves (e : Event ι) (cid : UInt64) (a b : Option State) : Prop :=
  Pool.stateOf? e.before cid = a ∧ Pool.stateOf? e.after cid = b

instance (e : Event ι) (cid : UInt64) (a b : Option State) : Decidable (e.moves cid a b) :=
  inferInstanceAs (Decidable (_ ∧ _))

/-- What is known of an event at the stage of its caller. -/
structure Event.Fits (D : Discipline (Timed Services))
    (ends : Except Fault (Option Instance) → D.Stage → Prop) (s : D.Stage) (e : Event ι) :
    Prop where
  may : D.may s e.query
  credible : D.credible e.query e.reply
  answered : Answered e.query e.reply e.before e.after
  /-- A caller that has not returned has something left to ask. -/
  onward : e.returns = false → ∃ q, D.may (D.next s e.query e.reply) q
  ended : e.returns = true → ∃ r, ends r (D.next s e.query e.reply)

/-- The entries after a history that began with the given ones. -/
def entriesAfter (entries : List Entry) : List (Event ι) → List Entry
  | [] => entries
  | e :: _ => e.after

/-- A history in which every event fits the stage of its caller and finds the entries as the event
    before it left them. -/
inductive Recorded [DecidableEq ι] (D : Discipline (Timed Services)) (first : ι → D.Stage)
    (ends : Except Fault (Option Instance) → D.Stage → Prop) (entries : List Entry) :
    List (Event ι) → Prop where
  | nil : Recorded D first ends entries []
  | cons {e : Event ι} {earlier : List (Event ι)} (recorded : Recorded D first ends entries earlier)
      (fits : e.Fits D ends (D.stageOf first e.caller earlier))
      (same : e.before = entriesAfter entries earlier) : Recorded D first ends entries (e :: earlier)

variable [DecidableEq ι] {D : Discipline (Timed Services)}

/-- What was on record earlier is a record. -/
theorem Recorded.suffix {first : ι → D.Stage}
    {ends : Except Fault (Option Instance) → D.Stage → Prop} {entries : List Entry}
    {history earlier : List (Event ι)} (h : Recorded D first ends entries history)
    (before : earlier <:+ history) : Recorded D first ends entries earlier := by
  induction h with
  | nil => exact List.suffix_nil.mp before ▸ .nil
  | cons recorded fits same ih =>
    rcases List.suffix_cons_iff.mp before with rfl | before
    · exact .cons recorded fits same
    · exact ih before

/-- **The history of every schedule is a record**, and its entries are those of the registry. -/
theorem recorded_after {tasks : ι → Task} (registry : RegistryDouble) {first : ι → D.Stage}
    {ends : Except Fault (Option Instance) → D.Stage → Prop}
    (h : ∀ i, (tasks i).workflow.Obeys D (first i) ends) {schedule : List (Turn ι)}
    (admitted : ∀ turn ∈ schedule, D.Admits turn) :
    let t := (Traffic.start tasks registry).after schedule
    Recorded D first ends registry.entries t.history ∧
      t.registry.entries = entriesAfter registry.entries t.history := by
  induction schedule with
  | nil => exact ⟨.nil, rfl⟩
  | cons turn earlier ih =>
    have before := fun turn' ht => admitted turn' (List.mem_cons_of_mem _ ht)
    obtain ⟨recorded, same⟩ := ih before
    have obeys := obeys_after registry h before turn.caller
    rw [Traffic.after]
    rcases Traffic.advance_cases ((Traffic.start tasks registry).after earlier) turn with
      passed | ⟨q, next, asks, asked⟩
    · rw [passed]
      exact ⟨recorded, same⟩
    · rw [asks] at obeys
      obtain ⟨may, onward⟩ := obeys
      have credible := admitted turn List.mem_cons_self
        ((Traffic.start tasks registry).after earlier).registry q
      rw [asked]
      refine ⟨.cons recorded ⟨may, credible, turn.answered _ q, ?_, ?_⟩ same, rfl⟩
      · exact fun going => Program.Obeys.asks (onward _ credible) going
      · exact fun returned => Program.Obeys.ends (onward _ credible) returned

end Records

/-! ## 5. A small pool -/

namespace Sample

/-- A pool of one free entry. -/
def registry : RegistryDouble where
  entries := [⟨42, 2, 2048, none, "vm-42", 0, 0, .free⟩]

/-- A request that the entry fits. -/
def request : Request where
  agentId := "agent"
  stemcell := ⟨7, "image"⟩
  shape := ⟨2, 2048, "", "", "dal", true, true, false, 10, none, [], none⟩
  networks := .ofList [("default", ⟨.dynamic, none, none, none, [], [], .none⟩)]
  env := .null
  externalIp := none

theorem pooled (site : Site) : (Task.create site request).Pooled := by
  intro selected h
  cases h
  rfl

/-- Two requests for the entry. -/
def rivals : Bool → Task := fun _ => .create {} request

/-- Two requests for the entry, and a release of it. -/
def contest : Fin 3 → Task
  | 0 => .create {} request
  | 1 => .create {} request
  | 2 => .release 42

theorem contest_pooled (i : Fin 3) : (contest i).Pooled := by
  match i with
  | 0 => exact pooled {}
  | 1 => exact pooled {}
  | 2 => trivial

/-- A turn in which the cloud reports on instances and fails at all else. -/
def turn {ι : Type} (i : ι) : Turn ι where
  caller := i
  cloud
    | .getInstance cid => .ok { cid }
    | _ => .error (.cloud "unreachable")

/-- The turns of some callers, the latest one first. -/
def turns {ι : Type} (callers : List ι) : List (Turn ι) := callers.map turn

theorem truthful {ι : Type} (callers : List ι) : ∀ turn ∈ turns callers, turn.Truthful := by
  intro t ht cid answer h
  obtain ⟨i, -, rfl⟩ := List.mem_map.mp ht
  cases h
  rfl

/-- Both find the entry, the second one claims it too late, and the first one gives it back when the
    reload fails. -/
def race : List (Turn Bool) := turns [true, true, true, false, true, false, true]

/-- The first one claims the entry, the release takes it, the second one claims it and reloads it; then
    the reload of the first one fails, and it makes free what the second one has claimed. -/
def theft : List (Turn (Fin 3)) := turns [0, 0, 1, 1, 1, 1, 2, 2, 0, 0, 0]

theorem no_orders {ι : Type} (callers : List ι) : ∀ turn ∈ turns callers, ∀ template i,
    turn.cloud (.createInstance template) ≠ .ok i := by
  intro t ht template answer h
  obtain ⟨i, -, rfl⟩ := List.mem_map.mp ht
  cases h

end Sample

end InstancePool
