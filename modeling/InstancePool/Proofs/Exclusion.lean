import InstancePool.Proofs.Moves

/-!
# Exclusion

An entry is claimed by a write that is made only where the entry is free, and a claim is ended by a
write that is made only where the entry is claimed. Among allocations that is enough: while one of
them holds an instance, no other does. A release, however, makes an entry free from whatever state it
is in. It may do so under a claim, and then the next claim is granted while the first one stands.

* `Holds`: the time from a claim to its end; `sinceClaim`: what has happened in it;
* `holds_iff`: a caller holds an instance if and only if its own stage says so;
* `alone_under_claim`: what a claim is worth as long as no release takes the entry from under it;
* `allocations_exclude`: any number of allocations;
* `claims_exclude_iff`: any number of allocations and releases, and exactly when they still exclude one
  another.
-/

namespace InstancePool

open Pool (Entry State)
open Simulation (RegistryDouble)
open Custody

/-! ## 1. Claims in a history -/

section Claims

variable {ι : Type}

/-- The event changes how an instance is entered. -/
def Event.writes (e : Event ι) (cid : UInt64) : Prop :=
  Pool.stateOf? e.before cid ≠ Pool.stateOf? e.after cid

/-- The event takes a free entry. -/
def Event.claims (e : Event ι) (cid : UInt64) : Prop :=
  e.moves cid (some .free) (some .provisioning)

instance (e : Event ι) (cid : UInt64) : Decidable (e.claims cid) :=
  inferInstanceAs (Decidable (e.moves ..))

/-- The event ends a claim: the entry is in use, or free again. -/
def Event.settles (e : Event ι) (cid : UInt64) : Prop :=
  e.moves cid (some .provisioning) (some .using) ∨ e.moves cid (some .provisioning) (some .free)

variable [DecidableEq ι]

/-- The caller's claim of an instance stands: the entry was taken by this caller, which has not ended
    the claim since and has not returned. -/
def Holds (i : ι) (cid : UInt64) : List (Event ι) → Prop
  | [] => False
  | e :: earlier =>
    if e.caller = i then
      e.returns = false ∧ (e.claims cid ∨ Holds i cid earlier ∧ ¬ e.settles cid)
    else Holds i cid earlier

/-- The events since a caller claimed an instance, the latest one first. -/
def sinceClaim (i : ι) (cid : UInt64) : List (Event ι) → List (Event ι)
  | [] => []
  | e :: earlier => if e.caller = i ∧ e.claims cid then [] else e :: sinceClaim i cid earlier

/-- Nobody else has changed the entry since the caller claimed it. -/
def Untouched (i : ι) (cid : UInt64) (history : List (Event ι)) : Prop :=
  ∀ e ∈ sinceClaim i cid history, e.caller ≠ i → ¬ e.writes cid

/-- A release has made the entry free since the caller claimed it, although it was not in use. -/
def GivenBack (tasks : ι → Task) (i : ι) (cid : UInt64) (history : List (Event ι)) : Prop :=
  ∃ e ∈ sinceClaim i cid history,
    (tasks e.caller).releases = true ∧ e.moves cid (some .provisioning) (some .free)

/-- The caller has claimed the instance. -/
def Claimed (i : ι) (cid : UInt64) (history : List (Event ι)) : Prop :=
  ∃ e ∈ history, e.caller = i ∧ e.claims cid

/-- The caller's workflow has ended. -/
def Returned (i : ι) (history : List (Event ι)) : Prop :=
  ∃ e ∈ history, e.caller = i ∧ e.returns = true

end Claims

/-! ## 2. Stages and claims -/

section Stages

variable {ι : Type} [DecidableEq ι] {fresh : UInt64 → Prop} {tasks : ι → Task}
  {entries : List Entry} {history : List (Event ι)} {cid : UInt64}

omit [DecidableEq ι] in
/-- The end of a claim changes the entry. -/
theorem Event.settles.changes {e : Event ι} (h : e.settles cid) : e.writes cid := by
  unfold Event.writes
  rcases h with ⟨before, after⟩ | ⟨before, after⟩
  · rw [before, after]
    decide
  · rw [before, after]
    decide

omit [DecidableEq ι] in
/-- One event of a caller, seen from its stage: a claim that was heard of begins the time in which the
    caller holds the instance, and the end of the claim or of the workflow ends it. -/
theorem Event.Fits.holding_iff {e : Event ι} {s : Stage} (fits : e.Fits (custody fresh) Ends s)
    (cid : UInt64) :
    Custody.next s e.query e.reply = .holding cid ↔
      e.returns = false ∧ (e.claims cid ∨ s = .holding cid ∧ ¬ e.settles cid) := by
  have move := fits.move cid
  constructor
  · intro reached
    refine ⟨Bool.eq_false_iff.mpr fun returned => fits.unclaimed cid returned reached, ?_⟩
    rcases move.to_holding reached with claims | ⟨held, same⟩
    · exact .inl claims
    · exact .inr ⟨held, fun settles => settles.changes same⟩
  · rintro ⟨going, h⟩
    have unfinished : (Custody.next s e.query e.reply).final ≠ true := fun final =>
      nomatch going.symm.trans (fits.returns final)
    rcases h with claims | ⟨held, -⟩
    · exact (move.of_claim claims.1 claims.2).resolve_right unfinished
    · exact ((move.of_holding held).resolve_left unfinished).1

/-- **A caller holds an instance if and only if its own stage says so**, however many answers were
    lost. -/
theorem holds_iff (h : Custody.Record fresh tasks entries history) (i : ι) (cid : UInt64) :
    Custody.stageOf fresh tasks i history = .holding cid ↔ Holds i cid history := by
  induction h with
  | nil =>
    show first (tasks i) = .holding cid ↔ False
    cases tasks i with
    | create site request => exact ⟨nofun, nofun⟩
    | release cid => exact ⟨nofun, nofun⟩
  | @cons e earlier recorded fits same ih =>
    unfold Holds
    by_cases hi : e.caller = i
    · subst hi
      rw [stageOf_self, if_pos rfl]
      exact (fits.holding_iff cid).trans <|
        and_congr_right fun _ => or_congr_right (and_congr_left fun _ => ih)
    · rw [stageOf_other hi, if_neg hi]
      exact ih

/-- Whoever gives instances back never holds one. -/
theorem holds_creates (h : Custody.Record fresh tasks entries history) {i : ι}
    (held : Holds i cid history) : (tasks i).releases = false := by
  refine Bool.eq_false_iff.mpr fun releases => ?_
  have holding := (holds_iff h i cid).mpr held
  have releasing := (stageOf_releasing h i).mpr releases
  exact nomatch holding.symm.trans releasing

/-- Whoever ends a claim holds the instance until then. A release is not the end of a claim. -/
theorem holds_of_settles {e : Event ι} {earlier : List (Event ι)}
    (h : Custody.Record fresh tasks entries (e :: earlier))
    (creates : (tasks e.caller).releases = false) (settles : e.settles cid) :
    Holds e.caller cid earlier := by
  cases h with
  | cons recorded fits same =>
    have move := fits.move cid
    have before : Pool.stateOf? e.before cid = some .provisioning :=
      settles.elim And.left And.left
    rw [before] at move
    rcases move.of_provisioning with kept | ⟨holding, -, -⟩ | ⟨releasing, -⟩
    · exact absurd (before.trans kept.symm) settles.changes
    · exact (holds_iff recorded e.caller _).mp holding
    · have releases := (stageOf_releasing recorded e.caller).mp releasing
      exact nomatch creates.symm.trans releases

/-- Whoever reloads an instance holds it. -/
theorem holds_of_reload {e : Event ι} {earlier : List (Event ι)} {stemcell : Stemcell}
    (h : Custody.Record fresh tasks entries (e :: earlier))
    (reloads : e.query = .other (.call (.cloud (.reloadOs cid stemcell)))) :
    Holds e.caller cid earlier := by
  cases h with
  | cons recorded fits same =>
    have may := fits.may
    rw [reloads] at may
    refine (holds_iff recorded e.caller _).mp ?_
    rcases may.cloud with ⟨c, holding, looks | ⟨_, same⟩⟩ | ⟨-, _, orders⟩ | ⟨c, -, looks⟩ |
      ⟨-, _, reports⟩
    · cases looks
    · cases same
      exact holding
    · cases orders
    · cases looks
    · cases reports

omit [DecidableEq ι] in
/-- The end of a claim is the end of the workflow. -/
theorem Event.Fits.settles_returns {e : Event ι} {s : Stage} (fits : e.Fits (custody fresh) Ends s)
    (held : s = .holding cid) (settles : e.settles cid) : e.returns = true := by
  rcases (fits.move cid).of_holding held with final | ⟨-, same⟩
  · exact fits.returns final
  · exact absurd same settles.changes

/-- A claim stands until its caller returns. -/
theorem holds_of_claimed (h : Custody.Record fresh tasks entries history) {i : ι}
    (claimed : Claimed i cid history) (going : ¬ Returned i history) : Holds i cid history := by
  induction h with
  | nil =>
    obtain ⟨e, he, -⟩ := claimed
    cases he
  | @cons e earlier recorded fits same ih =>
    have before : ¬ Returned i earlier := fun ⟨r, hr, returned⟩ =>
      going ⟨r, List.mem_cons_of_mem e hr, returned⟩
    have since : ¬ (e.caller = i ∧ e.claims cid) → Holds i cid earlier := fun old => by
      obtain ⟨c, hc, claims⟩ := claimed
      rcases List.mem_cons.mp hc with rfl | hc
      · exact absurd claims old
      · exact ih ⟨c, hc, claims⟩ before
    unfold Holds
    by_cases hi : e.caller = i
    · subst hi
      have open_ : ¬ e.returns = true := fun returns => going ⟨e, List.mem_cons_self, rfl, returns⟩
      rw [if_pos rfl]
      refine ⟨Bool.eq_false_iff.mpr open_, ?_⟩
      by_cases claims : e.claims cid
      · exact .inl claims
      · have held := since fun h => claims h.2
        refine .inr ⟨held, fun settles => open_ ?_⟩
        exact fits.settles_returns ((holds_iff recorded e.caller _).mpr held) settles
    · rw [if_neg hi]
      exact since fun h => hi h.1

end Stages

/-! ## 3. Alone under a claim -/

section Alone

variable {ι : Type} [DecidableEq ι] {fresh : UInt64 → Prop} {tasks : ι → Task}
  {entries : List Entry} {e : Event ι} {history earlier : List (Event ι)} {i : ι} {cid : UInt64}

/-- A claim that stands after an event that did not make it stood before. -/
theorem Holds.before (h : Holds i cid (e :: earlier)) (old : ¬ (e.caller = i ∧ e.claims cid)) :
    Holds i cid earlier := by
  unfold Holds at h
  by_cases hi : e.caller = i
  · rw [if_pos hi] at h
    rcases h.2 with claims | ⟨held, -⟩
    · exact absurd ⟨hi, claims⟩ old
    · exact held
  · rw [if_neg hi] at h
    exact h

theorem sinceClaim_cons (old : ¬ (e.caller = i ∧ e.claims cid)) :
    sinceClaim i cid (e :: earlier) = e :: sinceClaim i cid earlier :=
  if_neg old

theorem GivenBack.later (h : GivenBack tasks i cid earlier)
    (old : ¬ (e.caller = i ∧ e.claims cid)) : GivenBack tasks i cid (e :: earlier) := by
  obtain ⟨r, hr, gives⟩ := h
  exact ⟨r, sinceClaim_cons old ▸ List.mem_cons_of_mem _ hr, gives⟩

/-- What a claim is worth: the entry is as the caller left it, nobody else has changed it since, and
    nobody else has such a claim. -/
structure Alone (tasks : ι → Task) (entries : List Entry) (i : ι) (cid : UInt64)
    (history : List (Event ι)) : Prop where
  claimed : Pool.stateOf? (entriesAfter entries history) cid = some .provisioning
  untouched : Untouched i cid history
  only : ∀ j, Holds j cid history → ¬ GivenBack tasks j cid history → j = i

/-- Nobody takes an entry from a caller that is alone with it, a release apart. -/
theorem Alone.kept (h : Custody.Record fresh tasks entries (e :: earlier))
    (alone : Alone tasks entries i cid earlier) (old : ¬ (e.caller = i ∧ e.claims cid))
    (honest : (tasks e.caller).releases = false → e.settles cid →
      ¬ GivenBack tasks e.caller cid earlier)
    (held : Holds i cid (e :: earlier)) (still : ¬ GivenBack tasks i cid (e :: earlier)) :
    Pool.stateOf? e.after cid = some .provisioning := by
  have reached := (holds_iff h i cid).mpr held
  cases h with
  | cons recorded fits same =>
    have move := fits.move cid
    have holder := holds_iff recorded e.caller cid
    have releaser := stageOf_releasing recorded e.caller
    have claimed : Pool.stateOf? e.before cid = some .provisioning := same ▸ alone.claimed
    rw [claimed] at move
    rcases move.of_provisioning with kept | ⟨holding, ended, ends⟩ | ⟨releasing, free⟩
    · exact kept
    · -- Only the caller itself holds the entry, and it has not ended its claim.
      have settles : e.settles cid := ends.imp (⟨claimed, ·⟩) (⟨claimed, ·⟩)
      have creates := holds_creates recorded (holder.mp holding)
      obtain rfl := alone.only e.caller (holder.mp holding) (honest creates settles)
      exact absurd ((if_pos rfl).symm.trans reached) ended
    · refine absurd ⟨e, ?_, releaser.mp releasing, claimed, free⟩ still
      rw [sinceClaim_cons old]
      exact List.mem_cons_self

/-- **Alone under a claim.** As long as nobody ends a claim from under which a release has taken the
    entry, a caller whose own entry was not taken is alone with it. -/
theorem alone_under_claim (h : Custody.Record fresh tasks entries history)
    (kept : ∀ e earlier, e :: earlier <:+ history → (tasks e.caller).releases = false →
      e.settles cid → ¬ GivenBack tasks e.caller cid earlier)
    (held : Holds i cid history) (still : ¬ GivenBack tasks i cid history) :
    Alone tasks entries i cid history := by
  induction h generalizing i with
  | nil => exact held.elim
  | @cons e earlier recorded fits same ih =>
    replace ih := fun {i} => @ih i fun e' earlier' before =>
      kept e' earlier' (before.trans (List.suffix_cons e earlier))
    by_cases own : e.caller = i ∧ e.claims cid
    · refine ⟨own.2.2, ?_, fun j other unmoved => ?_⟩
      · intro e' he'
        rw [sinceClaim, if_pos own] at he'
        cases he'
      · by_contra hj
        have old : ¬ (e.caller = j ∧ e.claims cid) := fun h => hj (h.1.symm.trans own.1)
        have claimed := (ih (other.before old) fun given => unmoved (given.later old)).claimed
        rw [← same, own.2.1] at claimed
        cases claimed
    · have alone := ih (held.before own) fun given => still (given.later own)
      have after := alone.kept (.cons recorded fits same) own
        (kept e earlier (List.suffix_refl _)) held still
      have before : Pool.stateOf? e.before cid = some .provisioning := same ▸ alone.claimed
      refine ⟨after, ?_, fun j other unmoved => ?_⟩
      · intro e' he' others
        rw [sinceClaim_cons own] at he'
        rcases List.mem_cons.mp he' with rfl | he'
        · exact fun writes => writes (before.trans after.symm)
        · exact alone.untouched e' he' others
      · have old : ¬ (e.caller = j ∧ e.claims cid) := fun h => by
          have free := h.2.1
          rw [before] at free
          cases free
        exact alone.only j (other.before old) fun given => unmoved (given.later old)

end Alone

/-! ## 4. Allocations among themselves -/

/-- The instance that a call wipes or sets up. -/
def Cloud.Call.altered? : Cloud.Call → Option UInt64
  | reloadOs cid _ => some cid
  | attachDisk cid _ => some cid
  | pushSettings cid _ => some cid
  | setCredential cid _ => some cid
  | _ => none

section Allocations

variable {ι : Type}

/-- The question of an event and its answer. -/
def Event.exchange (e : Event ι) : (q : (Timed Services).Query) × (Timed Services).Reply q :=
  ⟨e.query, e.reply⟩

/-- The event wipes an instance or sets it up. -/
def Event.alters (e : Event ι) (cid : UInt64) : Prop :=
  ∃ call, e.query = .other (.call (.cloud call)) ∧ call.altered? = some cid

/-- The event is a claim that was answered by a fault. -/
def Event.conflicts (e : Event ι) (f : Fault) : Prop :=
  ∃ cid, e.exchange =
    ⟨.other (.call (.registry (.updateState cid (some .free) .provisioning))), .error f⟩

/-- Whoever wipes an instance or sets it up holds it, or has ordered it. -/
theorem May.alters {s : Stage} {call : Cloud.Call} {cid : UInt64}
    (may : May s (.other (.call (.cloud call)))) (alters : call.altered? = some cid) :
    s = .holding cid ∨ s = .building cid := by
  have tended : ∀ c, call.tended? = some c → c = cid := by
    intro c tends
    cases call <;> cases tends <;> cases alters <;> rfl
  rcases may.cloud with ⟨c, holding, looks | ⟨_, rfl⟩⟩ | ⟨-, _, rfl⟩ | ⟨c, building, looks⟩ |
    ⟨-, _, rfl⟩
  · exact .inl (tended c looks ▸ holding)
  · cases alters
    exact .inl holding
  · cases alters
  · exact .inr (tended c looks ▸ building)
  · cases alters

variable [DecidableEq ι] {fresh : UInt64 → Prop} {tasks : ι → Task} {entries : List Entry}
  {history : List (Event ι)}

theorem stageOf_building (h : Custody.Record fresh tasks entries history) {i : ι} {cid : UInt64}
    (building : Custody.stageOf fresh tasks i history = .building cid) : fresh cid := by
  induction h with
  | nil =>
    rcases first_cases (tasks i) with h | h
    · exact nomatch h.symm.trans building
    · exact nomatch h.symm.trans building
  | @cons e earlier recorded fits same ih =>
    by_cases hi : e.caller = i
    · subst hi
      rw [stageOf_self] at building
      exact (fits.leads.building building).elim ih id
    · rw [stageOf_other hi] at building
      exact ih building

/-- Who was never granted a claim and orders nothing has not asked the cloud. -/
theorem stageOf_early (h : Custody.Record fresh tasks entries history) {i : ι}
    (early : (Custody.stageOf fresh tasks i history).early = true) :
    ∀ e ∈ history, e.caller = i → ∀ call, e.query ≠ .other (.call (.cloud call)) := by
  induction h with
  | nil => exact fun e he => nomatch he
  | @cons e earlier recorded fits same ih =>
    intro e' he' hi'
    by_cases hi : e.caller = i
    · subst hi
      rw [stageOf_self] at early
      obtain ⟨before, registry⟩ := fits.leads.early early
      rcases List.mem_cons.mp he' with rfl | he'
      · exact registry
      · exact ih before e' he' hi'
    · rw [stageOf_other hi] at early
      rcases List.mem_cons.mp he' with rfl | he'
      · exact absurd hi' hi
      · exact ih early e' he' hi'

omit [DecidableEq ι] in
theorem Event.Fits.denied {e : Event ι} {s : Stage} (fits : e.Fits (custody fresh) Ends s)
    {f : Fault} (conflicts : e.conflicts f) : Custody.next s e.query e.reply = .denied f := by
  obtain ⟨cid, exchange⟩ := conflicts
  obtain ⟨caller, query, reply, before, after, returns⟩ := e
  have may := fits.may
  cases exchange
  cases may with
  | claim => rfl
  | tend concerns => exact concerns.elim
  | build concerns => exact concerns.elim

/-- Whose claim was answered by a fault asks nothing more. -/
theorem stageOf_denied (h : Custody.Record fresh tasks entries history) {f : Fault} :
    ∀ e ∈ history, e.conflicts f → Custody.stageOf fresh tasks e.caller history = .denied f := by
  induction h with
  | nil => exact fun e he => nomatch he
  | @cons e earlier recorded fits same ih =>
    intro e' he' conflicts
    rcases List.mem_cons.mp he' with rfl | he'
    · rw [stageOf_self]
      exact fits.denied conflicts
    · have denied := ih e' he' conflicts
      have hi : e.caller ≠ e'.caller := by
        intro hi
        rw [← hi] at denied
        exact fits.unfinished rfl denied
      rw [stageOf_other hi]
      exact denied

omit [DecidableEq ι] in
/-- A conflict about a claim is what the caller is told, with the advice to try again. -/
theorem rest_of_denied {f : Fault} {rest : Workflow (Option Instance)}
    (obeys : rest.Obeys (custody fresh) (.denied f) Ends) (conflict : f.kind = .poolConflict) :
    ∃ g, rest = .fail g ∧ g.kind = .poolConflict ∧ g.canRetry = true := by
  match rest, obeys with
  | .done (some i), ends => cases ends
  | .done none, ends => cases ends
  | .fail g, ends =>
    obtain ⟨kind, retry⟩ := ends.2 f rfl
    exact ⟨g, rfl, kind.trans conflict, retry.trans (decide_eq_true conflict)⟩
  | .ask q next, asks => exact nomatch asks.1.unfinished

/-- While an allocation holds an instance of the pool, no other one holds it; only its holder wipes it
    or sets it up; and whoever comes too late is told so at once, has not asked the cloud, and may try
    again. -/
structure AllocationsExclude (pool : List Entry) (t : Traffic ι) : Prop where
  alone : ∀ entry ∈ pool, ∀ earlier, earlier <:+ t.history →
    ∀ i j, Holds i entry.cid earlier → Holds j entry.cid earlier → i = j
  inside : ∀ entry ∈ pool, ∀ e earlier, e :: earlier <:+ t.history →
    e.alters entry.cid → Holds e.caller entry.cid earlier
  told : ∀ e ∈ t.history, ∀ f, e.conflicts f → f.kind = .poolConflict →
    (∃ g, t.rest e.caller = .fail g ∧ g.kind = .poolConflict ∧ g.canRetry = true) ∧
    ∀ other ∈ t.history, other.caller = e.caller →
      ∀ call, other.query ≠ .other (.call (.cloud call))

/-- **Allocations exclude one another**, however many there are and in whatever order they take turns.
    That needs an order to be answered with an instance that was not in the pool from the start. -/
theorem allocations_exclude {schedule : List (Turn ι)} (registry : RegistryDouble)
    (creates : ∀ i, (tasks i).releases = false) (pooled : ∀ i, (tasks i).Pooled)
    (truthful : ∀ turn ∈ schedule, turn.Truthful)
    (orders : ∀ turn ∈ schedule, ∀ template i, turn.cloud (.createInstance template) = .ok i →
      ∀ entry ∈ registry.entries, entry.cid ≠ i.cid) :
    AllocationsExclude registry.entries ((Traffic.start tasks registry).after schedule) := by
  let t := (Traffic.start tasks registry).after schedule
  let absent : UInt64 → Prop := fun cid => ∀ entry ∈ registry.entries, entry.cid ≠ cid
  have record : Custody.Record absent tasks registry.entries t.history :=
    custody_record registry pooled truthful orders
  have never : ∀ i cid history, ¬ GivenBack tasks i cid history := by
    rintro i cid history ⟨e, -, releases, -⟩
    exact nomatch (creates e.caller).symm.trans releases
  refine ⟨fun entry he earlier before i j hi hj => ?_, fun entry he e earlier before alters => ?_,
    fun e he f conflicts conflict => ?_⟩
  · have alone := alone_under_claim (record.suffix before) (fun _ _ _ _ _ => never _ _ _) hj
      (never j entry.cid earlier)
    exact alone.only i hi (never i entry.cid earlier)
  · obtain ⟨call, asks, alters⟩ := alters
    cases record.suffix before with
    | cons recorded fits same =>
      have may := fits.may
      rw [asks] at may
      rcases May.alters may alters with holding | building
      · exact (holds_iff recorded e.caller _).mp holding
      · exact absurd rfl (stageOf_building recorded building entry he)
  · have denied := stageOf_denied record e he conflicts
    refine ⟨?_, stageOf_early record (denied ▸ rfl)⟩
    have obeys : (t.rest e.caller).Obeys (custody absent)
        (Custody.stageOf absent tasks e.caller t.history) Ends :=
      custody_rest registry pooled truthful orders e.caller
    exact rest_of_denied (denied ▸ obeys) conflict

theorem allocations_exclude_in_race :
    (∀ i, (Sample.rivals i).releases = false) ∧ (∀ i, (Sample.rivals i).Pooled) ∧
      (∀ turn ∈ Sample.race, turn.Truthful) ∧
      (∀ turn ∈ Sample.race, ∀ template i, turn.cloud (.createInstance template) = .ok i →
        ∀ entry ∈ Sample.registry.entries, entry.cid ≠ i.cid) ∧
      AllocationsExclude Sample.registry.entries
        ((Traffic.start Sample.rivals Sample.registry).after Sample.race) := by
  have creates : ∀ i, (Sample.rivals i).releases = false := fun _ => rfl
  have pooled : ∀ i, (Sample.rivals i).Pooled := fun _ => Sample.pooled {}
  have truthful : ∀ turn ∈ Sample.race, turn.Truthful := Sample.truthful _
  have orders : ∀ turn ∈ Sample.race, ∀ template i,
      turn.cloud (.createInstance template) = .ok i →
        ∀ entry ∈ Sample.registry.entries, entry.cid ≠ i.cid := fun turn ht template i answer =>
    absurd answer (Sample.no_orders _ turn ht template i)
  exact ⟨creates, pooled, truthful, orders,
    allocations_exclude Sample.registry creates pooled truthful orders⟩

end Allocations

/-! ## 5. Allocations and releases -/

section Releases

variable {ι : Type} [DecidableEq ι]

/-- A write that ends a claim proves that nobody got in between, and nobody reloads an instance before
    whoever else has claimed it has returned. -/
structure ClaimsExclude (tasks : ι → Task) (cid : UInt64) (history : List (Event ι)) : Prop where
  ended : ∀ e earlier, e :: earlier <:+ history → (tasks e.caller).releases = false →
    e.settles cid → Untouched e.caller cid earlier
  reloaded : ∀ e earlier stemcell, e :: earlier <:+ history →
    e.query = .other (.call (.cloud (.reloadOs cid stemcell))) →
    ∀ i, i ≠ e.caller → Claimed i cid earlier → Returned i earlier

/-- No claim is ended from under which a release has taken the entry, and no instance is reloaded
    while two claims of it stand and a release has taken the entry from under one of them. -/
structure ReleasesKeepOff (tasks : ι → Task) (cid : UInt64) (history : List (Event ι)) : Prop where
  ended : ∀ e earlier, e :: earlier <:+ history → (tasks e.caller).releases = false →
    e.settles cid → ¬ GivenBack tasks e.caller cid earlier
  reloaded : ∀ e earlier stemcell, e :: earlier <:+ history →
    e.query = .other (.call (.cloud (.reloadOs cid stemcell))) →
    ∀ i, i ≠ e.caller → Claimed i cid earlier → ¬ Returned i earlier →
      ¬ GivenBack tasks i cid earlier ∧ ¬ GivenBack tasks e.caller cid earlier

/-- A release under a claim is a change by somebody else. -/
theorem not_givenBack {tasks : ι → Task} {i : ι} {cid : UInt64} {history : List (Event ι)}
    (creates : (tasks i).releases = false) (alone : Untouched i cid history) :
    ¬ GivenBack tasks i cid history := by
  rintro ⟨r, hr, releases, before, after⟩
  refine alone r hr ?_ ?_
  · rintro rfl
    exact nomatch creates.symm.trans releases
  · unfold Event.writes
    rw [before, after]
    decide

variable {tasks : ι → Task} {schedule : List (Turn ι)}

/-- **Exactly when claims exclude**, in any run of allocations and releases. -/
theorem claims_exclude_iff (registry : RegistryDouble) (pooled : ∀ i, (tasks i).Pooled)
    (truthful : ∀ turn ∈ schedule, turn.Truthful) (cid : UInt64) :
    let history := ((Traffic.start tasks registry).after schedule).history
    ClaimsExclude tasks cid history ↔ ReleasesKeepOff tasks cid history := by
  intro history
  have record : Custody.Record (fun _ => True) tasks registry.entries history :=
    custody_record registry pooled truthful fun _ _ _ _ _ => trivial
  constructor
  · intro h
    refine ⟨fun e earlier before creates settles => ?_, fun e earlier stemcell before reloads i hi
      claimed going => absurd (h.reloaded e earlier stemcell before reloads i hi claimed) going⟩
    exact not_givenBack creates (h.ended e earlier before creates settles)
  · intro h
    have alone : ∀ {earlier i}, earlier <:+ history → Holds i cid earlier →
        ¬ GivenBack tasks i cid earlier → Alone tasks registry.entries i cid earlier :=
      fun before held still => alone_under_claim (record.suffix before)
        (fun e earlier hs => h.ended e earlier (hs.trans before)) held still
    refine ⟨fun e earlier before creates settles => ?_,
      fun e earlier stemcell before reloads i hi claimed => ?_⟩
    · have held := holds_of_settles (record.suffix before) creates settles
      have still := h.ended e earlier before creates settles
      exact (alone ((List.suffix_cons e earlier).trans before) held still).untouched
    · by_contra going
      obtain ⟨still, kept⟩ := h.reloaded e earlier stemcell before reloads i hi claimed going
      have started := (List.suffix_cons e earlier).trans before
      have other := holds_of_claimed (record.suffix started) claimed going
      have held := holds_of_reload (record.suffix before) reloads
      exact hi ((alone started held kept).only i other still)

theorem claims_exclude_iff_in_theft :
    (∀ i, (Sample.contest i).Pooled) ∧ (∀ turn ∈ Sample.theft, turn.Truthful) ∧
      (ClaimsExclude Sample.contest 42
          ((Traffic.start Sample.contest Sample.registry).after Sample.theft).history ↔
        ReleasesKeepOff Sample.contest 42
          ((Traffic.start Sample.contest Sample.registry).after Sample.theft).history) :=
  ⟨Sample.contest_pooled, Sample.truthful _,
    claims_exclude_iff Sample.registry Sample.contest_pooled (Sample.truthful _) 42⟩

/-- **A claim that succeeds to its end proves nothing** once a release has taken the entry. -/
theorem theft_succeeds : ¬ ClaimsExclude Sample.contest 42
    ((Traffic.start Sample.contest Sample.registry).after Sample.theft).history := by
  intro h
  have alone := h.ended _ _ (List.suffix_refl _) rfl (.inr ⟨rfl, rfl⟩)
  -- Since the first one claimed the entry, the second one has claimed it too.
  refine alone _ (.tail _ (.tail _ (.tail _ (.head _)))) (by decide) ?_
  unfold Event.writes
  decide

end Releases

end InstancePool
