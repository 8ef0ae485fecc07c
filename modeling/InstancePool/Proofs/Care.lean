import InstancePool.Proofs.Sequence

/-!
# Careful exchanges

Nothing is changed twice, nothing is changed after a failure, and everything is about one instance: so a
caller that tries again repeats nothing by mistake, and whoever owns another instance need not know.

* `InTurn`, `About`, `Acquainted`, `Careful`: these properties of the exchanges of a run;
  `InTurn.unique`: each change is made at most once;
* `follows_inTurn`, `follows_about`: what the exchanges of a workflow that deals with an instance have
  of them;
* `Look`: the ways in which such a workflow gets to its instance;
* `follows_careful`: whoever changes one instance step by step is careful.
-/

namespace InstancePool

open Program Orderly

variable {σ : Type}

/-! ## 1. Careful exchanges -/

/-- No change is made twice or out of turn, and none after one that did not succeed. -/
def InTurn (es : List (Exchange (Timed Services) σ)) : Prop :=
  es.Pairwise fun e e' => ∀ t t', turn? e.query = some t → turn? e'.query = some t' →
    t < t' ∧ succeeded e.query e.reply = true

/-- A call names an instance, or its reply is about one that was ordered or looked up. -/
def Names (q : (Timed Services).Query) (reply : (Timed Services).Reply q) (cid : UInt64) : Prop :=
  met? q reply = some cid ∨ ∃ c, callOf? q = some c ∧ c.named? = some cid

/-- No other instance is ordered, looked up or named. -/
def About (cid : UInt64) (es : List (Exchange (Timed Services) σ)) : Prop :=
  ∀ e ∈ es, ∀ other, Names e.query e.reply other → other = cid

/-- Whatever is changed about an instance, it was ordered or looked up before. -/
def Acquainted (cid : UInt64) (es : List (Exchange (Timed Services) σ)) : Prop :=
  ∀ before e after, es = before ++ e :: after → (turn? e.query).isSome →
    (∀ template, e.query ≠ (Cloud.Call.createInstance template).query) →
      ∃ e' ∈ before, met? e'.query e'.reply = some cid

/-- An order that was answered by a fault. Whether it was placed is not known. -/
def LostOrder (e : Exchange (Timed Services) σ) : Prop :=
  ∃ template f, e.query = (Cloud.Call.createInstance template).query ∧
    faultOf? e.query e.reply = some f

/-- Changes are made in turn, to one instance, which was ordered or looked up before. -/
structure Careful (cid : UInt64) (es : List (Exchange (Timed Services) σ)) : Prop where
  inTurn : InTurn es
  about : About cid es
  acquainted : Acquainted cid es

variable {cid : UInt64} {met : Bool} {turn : Nat} {q : (Timed Services).Query}
  {e : Exchange (Timed Services) σ} {es : List (Exchange (Timed Services) σ)}

/-- Of two exchanges with the same turn one is the other. -/
theorem InTurn.unique (h : InTurn es) {e e' : Exchange (Timed Services) σ} {t : Nat} (he : e ∈ es)
    (he' : e' ∈ es) (turns : turn? e.query = some t) (turns' : turn? e'.query = some t) : e' = e := by
  obtain ⟨before, after, rfl⟩ := List.append_of_mem he
  obtain ⟨-, from_here, across⟩ := List.pairwise_append.mp h
  rcases List.mem_append.mp he' with earlier | later
  · exact absurd (across e' earlier e List.mem_cons_self t t turns' turns).1 (Nat.lt_irrefl t)
  · rcases List.mem_cons.mp later with same | later
    · exact same
    · exact absurd ((List.pairwise_cons.mp from_here).1 e' later t t turns turns').1 (Nat.lt_irrefl t)

theorem careful_nil : Careful cid ([] : List (Exchange (Timed Services) σ)) where
  inTurn := .nil
  about _ he := nomatch he
  acquainted before _ _ split := by cases before <;> cases split

/-- **One exchange more** in front of careful ones. -/
theorem Careful.cons
    (own : ∀ other, Names e.query e.reply other → other = cid)
    (first : turn? e.query = none ∨ ∃ template, e.query = (Cloud.Call.createInstance template).query)
    (turns : ∀ e' ∈ es, ∀ t t', turn? e.query = some t → turn? e'.query = some t' →
      t < t' ∧ succeeded e.query e.reply = true)
    (inTurn : InTurn es) (about : About cid es)
    (acquainted : met? e.query e.reply = some cid ∨ Acquainted cid es) : Careful cid (e :: es) where
  inTurn := List.pairwise_cons.mpr ⟨turns, inTurn⟩
  about := List.forall_mem_cons.mpr ⟨own, about⟩
  acquainted before e' after split changes other := by
    cases before with
    | nil =>
      cases split
      rcases first with still | ⟨template, orders⟩
      · rw [still] at changes
        cases changes
      · exact absurd orders (other template)
    | cons e₀ before =>
      cases split
      rcases acquainted with meets | acquainted
      · exact ⟨e, List.mem_cons_self, meets⟩
      · obtain ⟨e'', he, meets⟩ := acquainted before e' after rfl changes other
        exact ⟨e'', List.mem_cons_of_mem _ he, meets⟩

/-- A single exchange. -/
theorem careful_singleton (own : ∀ other, Names e.query e.reply other → other = cid)
    (first : turn? e.query = none ∨ ∃ template, e.query = (Cloud.Call.createInstance template).query) :
    Careful cid [e] :=
  have none : Careful cid ([] : List (Exchange (Timed Services) σ)) := careful_nil
  .cons own first (fun _ he => nomatch he) none.inTurn none.about (.inr none.acquainted)

/-! ## 2. Dealing with an instance -/

/-- Where a workflow deals with an instance, it makes the changes that are due. -/
theorem Orderly.May.due (may : May (.about cid met turn) q) {t : Nat} (turns : turn? q = some t) :
    turn ≤ t ∧ met = true := by
  cases may with
  | look _ still => cases still.symm.trans turns
  | change _ turns' due => exact ⟨Option.some.inj (turns'.symm.trans turns) ▸ due, rfl⟩
  | reload cid stemcell => exact ⟨Nat.zero_le t, rfl⟩
  | settle => cases turns
  | enter => cases turns

/-- What concerns an instance names no other. -/
theorem Concerns.own {reply : (Timed Services).Reply q} (concerns : Concerns cid q)
    (credible : Credible q reply) {other : UInt64} (names : Names q reply other) : other = cid := by
  rcases names with meets | ⟨c, asks, names⟩
  · cases q with
    | other q =>
      cases q with
      | mark => cases meets
      | call c =>
        cases c with
        | registry call => exact concerns.elim
        | hostAlias hostname ip => cases meets
        | cloud call =>
          cases call with
          | createInstance template => cases concerns
          | instanceByPrivateIp ip => cases concerns
          | instanceByPublicIp ip => cases concerns
          | getInstance cid =>
            cases reply with
            | error f => cases meets
            | ok i => exact (Option.some.inj meets).symm.trans (credible.trans (Option.some.inj concerns))
          | _ => cases meets
    | _ => cases meets
  · cases q with
    | other q =>
      cases q with
      | mark => cases asks
      | call c =>
        cases asks
        cases c with
        | registry call => exact concerns.elim
        | hostAlias hostname ip => cases names
        | cloud call =>
          cases call with
          | createInstance template => cases concerns
          | reloadOs cid stemcell => cases concerns
          | reboot cid => cases concerns
          | _ => exact Option.some.inj (names.symm.trans concerns)
    | _ => cases asks

/-- Where a workflow deals with an instance, it names no other. -/
theorem Orderly.May.own {reply : (Timed Services).Reply q} (may : May (.about cid met turn) q)
    (credible : Credible q reply) {other : UInt64} (names : Names q reply other) : other = cid := by
  -- The calls that do not tend the instance tell of none, and name it.
  have named : ∀ {c : Call}, callOf? q = some c → c.named? = some cid → met? q reply = none →
      other = cid := by
    intro c asks own unmet
    rcases names with meets | ⟨c', asks', names⟩
    · cases unmet.symm.trans meets
    · cases asks.symm.trans asks'
      exact Option.some.inj (names.symm.trans own)
  cases may with
  | look concerns => exact concerns.own credible names
  | change concerns => exact concerns.own credible names
  | reload => exact named rfl rfl rfl
  | settle => exact named rfl rfl rfl
  | enter => exact named rfl rfl rfl

/-- While a workflow deals with an instance, its changes are made in turn, from the one that is due. -/
theorem follows_inTurn (h : orderly.Follows (.about cid met turn) es) :
    (∀ e ∈ es, ∀ t, turn? e.query = some t → turn ≤ t) ∧ InTurn es := by
  induction es generalizing met turn with
  | nil => exact ⟨fun e he => (nomatch he), List.Pairwise.nil⟩
  | cons e later ih =>
    obtain ⟨may, credible, rest⟩ := h
    cases turns : turn? e.query with
    | none =>
      rw [next_still turns] at rest
      obtain ⟨due, inTurn⟩ := ih rest
      refine ⟨List.forall_mem_cons.mpr ⟨fun t same => (nomatch turns.symm.trans same), due⟩, ?_⟩
      exact List.pairwise_cons.mpr ⟨fun e' _ t t' same => (nomatch turns.symm.trans same), inTurn⟩
    | some t =>
      rw [next_change turns] at rest
      obtain ⟨due, inTurn⟩ := ih rest
      have now : turn ≤ t := (may.due turns).1
      -- A change after one that failed would have to come after the last of all turns.
      have after : ∀ e' ∈ later, ∀ t', turn? e'.query = some t' →
          t < t' ∧ succeeded e.query e.reply = true := by
        intro e' he t' turns'
        have due' := due e' he t' turns'
        have bound := turn?_lt turns'
        cases ok : succeeded e.query e.reply with
        | true =>
          rw [ok] at due'
          exact ⟨due', rfl⟩
        | false =>
          rw [ok] at due'
          exact absurd bound (Nat.not_lt.mpr due')
      refine ⟨List.forall_mem_cons.mpr ⟨?_, fun e' he t' turns' => ?_⟩, List.pairwise_cons.mpr ⟨?_, inTurn⟩⟩
      · exact fun t' same => Option.some.inj (turns.symm.trans same) ▸ now
      · exact Nat.le_trans now (Nat.le_of_lt (after e' he t' turns').1)
      · exact fun e' he t₀ t' same turns' =>
          Option.some.inj (turns.symm.trans same) ▸ after e' he t' turns'

/-- Once a workflow deals with an instance, it deals with it to the end. -/
theorem follows_allowed (h : orderly.Follows (.about cid met turn) es) :
    ∀ e ∈ es, (∃ met turn, May (.about cid met turn) e.query) ∧ Credible e.query e.reply := by
  induction es generalizing met turn with
  | nil => exact fun e he => nomatch he
  | cons e later ih =>
    obtain ⟨may, credible, rest⟩ := h
    refine List.forall_mem_cons.mpr ⟨⟨⟨met, turn, may⟩, credible⟩, ?_⟩
    cases turns : turn? e.query with
    | none => exact ih (next_still turns ▸ rest)
    | some t => exact ih (next_change turns ▸ rest)

theorem follows_about (h : orderly.Follows (.about cid met turn) es) : About cid es := by
  intro e he other names
  obtain ⟨⟨_, _, may⟩, credible⟩ := follows_allowed h e he
  exact may.own credible names

/-- No instance is ordered after the first. -/
theorem not_lostOrder_of_about (h : orderly.Follows (.about cid met turn) es) :
    ∀ e ∈ es, ¬ LostOrder e := by
  rintro e he ⟨template, f, orders, -⟩
  obtain ⟨⟨_, _, may⟩, -⟩ := follows_allowed h e he
  rw [orders] at may
  cases may with
  | look concerns => cases concerns
  | change concerns => cases concerns

/-- Before an instance was looked up, a workflow that deals with it is careful. -/
theorem follows_unmet (h : orderly.Follows (.about cid false turn) es) : Careful cid es := by
  induction es with
  | nil => exact careful_nil
  | cons e later ih =>
    have inTurn := follows_inTurn h
    have about := follows_about h
    obtain ⟨may, credible, rest⟩ := h
    have still : turn? e.query = none := by
      cases turns : turn? e.query with
      | none => rfl
      | some t => cases (may.due turns).2
    refine .cons (about e List.mem_cons_self) (.inl still) (List.pairwise_cons.mp inTurn.2).1
      (List.pairwise_cons.mp inTurn.2).2 (fun e' he => about e' (List.mem_cons_of_mem _ he)) ?_
    rw [next_still still] at rest
    cases meets : met? e.query e.reply with
    | some other => exact .inl (congrArg some (may.own credible (.inl meets)))
    | none =>
      rw [meets] at rest
      exact .inr (ih rest).acquainted

/-- Nothing is asked once the search is over. -/
theorem follows_over (h : orderly.Follows .over es) : es = [] := by
  cases es with
  | nil => rfl
  | cons e later => cases h.1

/-- An instance is ordered or looked up, and all that follows is about it. -/
theorem careful_of_met (own : ∀ other, Names e.query e.reply other → other = cid)
    (meets : met? e.query e.reply = some cid)
    (first : turn? e.query = none ∨ 1 ≤ turn ∧ succeeded e.query e.reply = true ∧
      ∃ template, e.query = (Cloud.Call.createInstance template).query)
    (rest : orderly.Follows (.about cid true turn) es) : Careful cid (e :: es) := by
  obtain ⟨due, inTurn⟩ := follows_inTurn rest
  refine .cons own (first.imp_right fun ⟨_, _, orders⟩ => orders) (fun e' he t t' now later => ?_) inTurn
    (follows_about rest) (.inl meets)
  rcases first with still | ⟨ordered, ok, template, orders⟩
  · cases still.symm.trans now
  · rw [orders] at now
    cases now
    exact ⟨Nat.lt_of_lt_of_le ordered (due e' he t' later), ok⟩

/-! ## 3. Getting to an instance -/

/-- What a look for an instance comes to. -/
inductive Look (q : (Timed Services).Query) (reply : (Timed Services).Reply q) : Stage → Prop where
  | nothing (still : turn? q = none) (own : ∀ other, ¬ Names q reply other) : Look q reply .looking
  | claimed {cid : UInt64} (still : turn? q = none) (own : ∀ other, Names q reply other → other = cid) :
      Look q reply (.about cid false 0)
  | met {cid : UInt64} {turn : Nat} (meets : met? q reply = some cid)
      (own : ∀ other, Names q reply other → other = cid)
      (first : turn? q = none ∨ 1 ≤ turn ∧ succeeded q reply = true ∧
        ∃ template, q = (Cloud.Call.createInstance template).query) : Look q reply (.about cid true turn)
  | failed (cid : UInt64) (still : turn? q = none)
      (own : ∀ other, Names q reply other → other = cid) : Look q reply .over
  | lost {template : Template} (orders : q = (Cloud.Call.createInstance template).query)
      (own : ∀ other, ¬ Names q reply other) : Look q reply .over

theorem Orderly.May.look_cases (may : May .looking q) (reply : (Timed Services).Reply q) :
    Look q reply (orderly.next .looking q reply) := by
  -- What is named by a call that tells of no instance, and by one that names none.
  have unmet : ∀ {c : Call} {cid : UInt64}, callOf? q = some c → c.named? = some cid →
      met? q reply = none → ∀ other, Names q reply other → other = cid := by
    rintro c cid asks own unmet other (meets | ⟨c', asks', names⟩)
    · cases unmet.symm.trans meets
    · cases asks.symm.trans asks'
      exact Option.some.inj (names.symm.trans own)
  have met : ∀ {c : Call} {cid : UInt64}, callOf? q = some c → c.named? = none →
      met? q reply = some cid → ∀ other, Names q reply other → other = cid := by
    rintro c cid asks own meets other (meets' | ⟨c', asks', names⟩)
    · exact Option.some.inj (meets'.symm.trans meets)
    · cases asks.symm.trans asks'
      cases own.symm.trans names
  have none : (∀ c, callOf? q = some c → c.named? = none) → met? q reply = none →
      ∀ other, ¬ Names q reply other := by
    rintro own unmet other (meets | ⟨c, asks, names⟩)
    · cases unmet.symm.trans meets
    · cases (own c asks).symm.trans names
  cases may with
  | mark => exact .nothing rfl (none (fun _ h => nomatch h) rfl)
  | search filter =>
    cases reply with
    | ok entries => exact .nothing rfl (none (fun _ h => by cases h; rfl) rfl)
    | error f =>
      have unnamed := none (fun _ h => by cases h; rfl) rfl
      exact .failed 0 rfl fun other names => absurd names (unnamed other)
  | claim cid expected next =>
    cases reply with
    | ok _ => exact .claimed rfl (unmet rfl rfl rfl)
    | error f => exact .failed cid rfl (unmet rfl rfl rfl)
  | order template =>
    cases reply with
    | ok i => exact .met rfl (met rfl rfl rfl) (.inr ⟨Nat.le_refl 1, rfl, template, rfl⟩)
    | error f => exact .lost rfl (none (fun _ h => by cases h; rfl) rfl)
  | byPrivateIp ip =>
    cases reply with
    | ok i => exact .met rfl (met rfl rfl rfl) (.inl rfl)
    | error f =>
      have unnamed := none (fun _ h => by cases h; rfl) rfl
      exact .failed 0 rfl fun other names => absurd names (unnamed other)
  | byPublicIp ip =>
    cases reply with
    | ok i => exact .met rfl (met rfl rfl rfl) (.inl rfl)
    | error f =>
      have unnamed := none (fun _ h => by cases h; rfl) rfl
      exact .failed 0 rfl fun other names => absurd names (unnamed other)

theorem not_lostOrder_of_still (still : turn? e.query = none) : ¬ LostOrder e := by
  rintro ⟨template, f, orders, -⟩
  rw [orders] at still
  cases still

theorem not_lostOrder_of_met (meets : met? e.query e.reply = some cid) : ¬ LostOrder e := by
  obtain ⟨q, reply, before, after⟩ := e
  rintro ⟨template, f, rfl, failed⟩
  cases reply with
  | ok i => cases failed
  | error f => cases meets

/-- **Whoever changes one instance step by step is careful.** An order that was lost is put down to the
    instance that is `blamed`. -/
theorem follows_careful (blamed : Exchange (Timed Services) σ → UInt64)
    (h : orderly.Follows .looking es) :
    ∃ cid, Careful cid es ∧ ∀ e ∈ es, LostOrder e → blamed e = cid := by
  induction es with
  | nil => exact ⟨0, careful_nil, fun e he => nomatch he⟩
  | cons e later ih =>
    obtain ⟨may, -, rest⟩ := h
    have look := may.look_cases e.reply
    generalize after : orderly.next .looking e.query e.reply = stage at rest look
    cases look with
    | nothing still own =>
      obtain ⟨cid, careful, lost⟩ := ih rest
      refine ⟨cid, .cons (fun other names => absurd names (own other)) (.inl still) ?_ careful.inTurn
        careful.about (.inr careful.acquainted), ?_⟩
      · exact fun _ _ _ _ now => nomatch still.symm.trans now
      · exact List.forall_mem_cons.mpr ⟨fun h => absurd h (not_lostOrder_of_still still), lost⟩
    | @claimed cid still own =>
      have careful := follows_unmet rest
      refine ⟨cid, .cons own (.inl still) ?_ careful.inTurn careful.about (.inr careful.acquainted), ?_⟩
      · exact fun _ _ _ _ now => nomatch still.symm.trans now
      · exact List.forall_mem_cons.mpr ⟨fun h => absurd h (not_lostOrder_of_still still),
          fun e he h => absurd h (not_lostOrder_of_about rest e he)⟩
    | @met cid turn meets own first =>
      refine ⟨cid, careful_of_met own meets first rest, ?_⟩
      exact List.forall_mem_cons.mpr ⟨fun h => absurd h (not_lostOrder_of_met meets),
        fun e he h => absurd h (not_lostOrder_of_about rest e he)⟩
    | failed cid still own =>
      rw [follows_over rest]
      refine ⟨cid, careful_singleton own (.inl still), ?_⟩
      exact List.forall_mem_singleton.mpr fun h => absurd h (not_lostOrder_of_still still)
    | lost orders own =>
      rw [follows_over rest]
      refine ⟨blamed e, careful_singleton (fun other names => absurd names (own other))
        (.inr ⟨_, orders⟩), ?_⟩
      exact List.forall_mem_singleton.mpr fun _ => rfl

end InstancePool
