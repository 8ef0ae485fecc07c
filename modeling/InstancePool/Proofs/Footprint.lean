import InstancePool.Proofs.Care
import InstancePool.Proofs.Interleaving
import InstancePool.Proofs.Serving

/-!
# What an allocation touches

An allocation leaves its marks on one instance and on what is kept about it, and on one host name. In a
world this can be seen: the records, the settings and the pool entries of all other instances are as
they were, whatever was scripted and whenever the caller cancelled.

* `CloudDouble.Touches`, `perform_touches`: what a call does to the instances of a cloud;
* `Others`, `World.others`, `answerCall_others`: all that a world holds about other instances, and that a
  call leaves it alone;
* `World.Reliable`: worlds that tell the truth about the instances that are asked about;
* `changes_touch_one_instance`: changes are made in turn to one instance, and nothing else is touched.
-/

namespace InstancePool

open Simulation (World CloudDouble RegistryDouble Machine Scripted Script)

/-! ## 1. Other instances -/

/-- All that is kept about the instances other than one. -/
structure Others where
  machines : UInt64 → Option Machine
  settings : UInt64 → Option Agent.Settings
  entries : List Pool.Entry

namespace Simulation

/-- What the cloud keeps about an instance. -/
def CloudDouble.file (d : CloudDouble) (cid : UInt64) : Option Machine × Option Agent.Settings :=
  (d.machines.get? cid, d.settings.get? cid)

/-- All that a world holds about the instances other than one. -/
def World.others (cid : UInt64) (w : World) : Others where
  machines other := if other = cid then none else w.cloud.machines.get? other
  settings other := if other = cid then none else w.cloud.settings.get? other
  entries := w.registry.entries.filter (·.cid ≠ cid)

/-- The address recorded under a host name. -/
def World.alias? (hostname : String) (w : World) : Option Address := w.aliases.get? hostname

theorem World.others_eq {cid : UInt64} {w w' : World}
    (cloud : ∀ other, other ≠ cid → w'.cloud.file other = w.cloud.file other)
    (registry : w'.registry.entries.filter (·.cid ≠ cid) = w.registry.entries.filter (·.cid ≠ cid)) :
    w'.others cid = w.others cid := by
  have machines : ∀ other, (if other = cid then none else w'.cloud.machines.get? other) =
      if other = cid then none else w.cloud.machines.get? other := by
    intro other
    split
    · rfl
    · rename_i ne
      exact congrArg Prod.fst (cloud other ne)
  have settings : ∀ other, (if other = cid then none else w'.cloud.settings.get? other) =
      if other = cid then none else w.cloud.settings.get? other := by
    intro other
    split
    · rfl
    · rename_i ne
      exact congrArg Prod.snd (cloud other ne)
  unfold World.others
  rw [funext machines, funext settings, registry]

namespace CloudDouble

/-- The instance that a call may change. -/
def touched? (d : CloudDouble) : Cloud.Call → Option UInt64
  | .createInstance _ => some d.nextCid
  | call => (Call.cloud call).named?

/-- Every instance of the double is kept under its own number. -/
def Numbered (d : CloudDouble) : Prop := ∀ cid m, d.machines.get? cid = some m → m.report.cid = cid

/-- At most one instance is changed, and what is kept about it. -/
inductive Touches (cid : UInt64) : CloudDouble → CloudDouble → Prop where
  | nothing {d d' : CloudDouble} (machines : d'.machines = d.machines)
      (settings : d'.settings = d.settings) : Touches cid d d'
  | record {d : CloudDouble} (m : Machine) (own : d.Numbered → m.report.cid = cid) :
      Touches cid d (d.put cid m)
  | pushed {d : CloudDouble} (s : Agent.Settings) :
      Touches cid d { d with settings := d.settings.insert cid s }
  | both {d d' d'' : CloudDouble} (first : Touches cid d d') (second : Touches cid d' d'') :
      Touches cid d d''

variable {d d' : CloudDouble} {cid : UInt64}

theorem Touches.file (h : Touches cid d d') {other : UInt64} (ne : other ≠ cid) :
    d'.file other = d.file other := by
  induction h with
  | nothing machines settings =>
    unfold CloudDouble.file
    rw [machines, settings]
  | record m own => exact congrArg (·, _) (Dict.get?_insert_of_ne _ _ ne)
  | pushed s => exact congrArg (_, ·) (Dict.get?_insert_of_ne _ _ ne)
  | both first second ih₁ ih₂ => exact ih₂.trans ih₁

theorem Touches.numbered (h : Touches cid d d') (numbered : d.Numbered) : d'.Numbered := by
  induction h with
  | nothing machines settings => exact fun cid m found => numbered cid m (machines ▸ found)
  | record m own =>
    intro other m' found
    by_cases same : other = cid
    · subst same
      cases (Dict.get?_insert_self _ _ _).symm.trans found
      exact own numbered
    · exact numbered other m' ((Dict.get?_insert_of_ne _ _ same).symm.trans found)
  | pushed s => exact numbered
  | both first second ih₁ ih₂ => exact ih₂ (ih₁ numbered)

/-- Nothing is changed. -/
theorem Touches.refl : Touches cid d d := .nothing rfl rfl

theorem ask_touches {α : Type} (answer : Machine → α) : Touches cid d (d.ask cid answer).2 := by
  unfold ask
  split
  · exact .refl
  · exact .refl

theorem withAddress_touches (field : Instance → Option Address) (ip : Address) :
    Touches cid d (d.withAddress field ip).2 := by
  unfold withAddress
  split
  · exact .refl
  · exact .refl

theorem change_touches {α : Type} {act : Machine → α × Machine}
    (own : ∀ m, (act m).2.report.cid = m.report.cid) : Touches cid d (d.change cid act).2 := by
  unfold change
  split
  · rename_i m found
    exact .record (act m).2 fun numbered => (own m).trans (numbered cid m found)
  · exact .refl

theorem enqueue_touches (group : String) : Touches cid d (d.enqueue cid group).2 :=
  have counted : Touches cid d { d with nextTransaction := d.nextTransaction + 1 } := .nothing rfl rfl
  counted.both (change_touches fun _ => rfl)

theorem orderDisk_touches : Touches cid d (d.orderDisk cid).2 := by
  have queued : Touches cid d (d.enqueue cid Transaction.instanceUpgrade).2 := enqueue_touches _
  unfold orderDisk
  dsimp only
  split
  · exact .refl
  · split
    · rename_i after
      rw [after] at queued
      exact queued
    · rename_i after
      rw [after] at queued
      split
      · exact queued
      · exact queued

theorem reinstall_touches : Touches cid d (d.reinstall cid).2 := by
  have queued : Touches cid d (d.enqueue cid Transaction.serviceSetup).2 := enqueue_touches _
  unfold reinstall
  split
  · rename_i after
    rw [after] at queued
    exact queued
  · rename_i after
    rw [after] at queued
    exact queued.both (change_touches fun _ => rfl)

theorem keepSettings_touches (s : Agent.Settings) : Touches cid d (d.keepSettings cid s).2 := by
  unfold keepSettings ask
  cases d.machines.get? cid with
  | none => exact .refl
  | some m => exact .pushed s

theorem observe_cid (addsDevice : Bool) (m : Machine) :
    (observe addsDevice m).2.report.cid = m.report.cid := by
  unfold observe
  split
  · rfl
  · dsimp only
    split
    · rfl
    · rfl

/-- An instance that was there before is kept under its own number. -/
theorem enroll_numbered (h : d.Numbered) (i : Instance) : (d.enroll i).Numbered := by
  have counted : Touches i.cid d
      { d with nextTransaction := d.nextTransaction + (if i.lastTransaction.isNone then 1 else 0) } :=
    .nothing rfl rfl
  exact (counted.both (.record _ fun _ => rfl)).numbered h

/-- **What a call does**: it changes no instance but the one that it may change. -/
theorem perform_touches {call : Cloud.Call} (own : ∀ other, d.touched? call = some other → other = cid) :
    Touches cid d (d.perform call).2 := by
  cases call with
  | createInstance template =>
    obtain rfl := own _ rfl
    have counted : Touches d.nextCid d
        { d with nextCid := d.nextCid + 1, nextTransaction := d.nextTransaction + 1 } := .nothing rfl rfl
    exact counted.both (.record { report := built d.nextCid d.nextTransaction template } fun _ => rfl)
  | getInstance c => exact own c rfl ▸ ask_touches _
  | activeTransactions c => exact own c rfl ▸ change_touches (observe_cid _)
  | lastTransaction c => exact own c rfl ▸ ask_touches _
  | powerState c => exact own c rfl ▸ ask_touches _
  | pingable c => exact own c rfl ▸ change_touches fun _ => rfl
  | attachDisk c sizeGb => exact own c rfl ▸ orderDisk_touches
  | blockDevices c => exact own c rfl ▸ ask_touches _
  | instanceByPrivateIp ip => exact withAddress_touches _ ip
  | instanceByPublicIp ip => exact withAddress_touches _ ip
  | reloadOs c stemcell => exact own c rfl ▸ reinstall_touches
  | pushSettings c s => exact own c rfl ▸ keepSettings_touches s
  | setCredential c credential => exact own c rfl ▸ ask_touches _
  | reboot c => exact own c rfl ▸ change_touches fun _ => rfl

theorem answer_touches {call : Cloud.Call} (own : ∀ other, d.touched? call = some other → other = cid) :
    Touches cid d (d.answer call).2 := by
  have journaled : Touches cid d { d with journal := call :: d.journal } := .nothing rfl rfl
  unfold answer
  dsimp only
  split
  · exact journaled
  · exact journaled.both (perform_touches own)

end CloudDouble

end Simulation

/-- A call changes no entry but the one that it names. -/
theorem Registry.Effect.others {call : Registry.Call} {before after : List Pool.Entry} {cid : UInt64}
    (h : Registry.Effect call before after)
    (own : ∀ other, (Call.registry call).named? = some other → other = cid) :
    after.filter (·.cid ≠ cid) = before.filter (·.cid ≠ cid) := by
  cases h with
  | @added entry entries absent =>
    have same : entry.cid = cid := own entry.cid rfl
    rw [List.filter_append, List.filter_cons_of_neg (by simpa using same), List.filter_nil,
      List.append_nil]
  | @changed c expected next now entries present asExpected =>
    obtain rfl : c = cid := own c rfl
    obtain ⟨first, e, rest, rfl, same, -, changed⟩ := Pool.setState_split present
    rw [changed, List.filter_append, List.filter_append,
      List.filter_cons_of_neg (by simpa using same), List.filter_cons_of_neg (by simpa using same)]

theorem Simulation.RegistryDouble.answer_others {d : RegistryDouble} {call : Registry.Call}
    {cid : UInt64} (own : ∀ other, (Call.registry call).named? = some other → other = cid) :
    (d.answer call).2.entries.filter (·.cid ≠ cid) = d.entries.filter (·.cid ≠ cid) := by
  rcases RegistryDouble.meet_effect d call .answered with effect | ⟨same, -⟩
  · exact effect.others own
  · exact congrArg (List.filter (·.cid ≠ cid)) same

namespace Simulation.World

variable {call : Call} {w : World} {cid : UInt64}

/-- An order that is served is answered by its instance or by a fault. -/
theorem serve_createInstance (template : Template) (w : World) :
    ((serve {} (.cloud (.createInstance template)) w).1 =
        .ok (CloudDouble.receipt w.cloud.nextCid template)) ∨
      ∃ f, (serve {} (.cloud (.createInstance template)) w).1 = .error f := by
  show (w.cloud.answer (.createInstance template)).1 = _ ∨
    ∃ f, (w.cloud.answer (.createInstance template)).1 = _
  unfold CloudDouble.answer
  dsimp only
  split
  · exact .inr ⟨_, rfl⟩
  · exact .inl rfl

/-- What a call that is served leaves alone. -/
theorem serve_others (touches : ∀ c other, call = .cloud c → w.cloud.touched? c = some other → other = cid)
    (names : ∀ other, call.named? = some other → other = cid) :
    ((serve {} call) w).2.others cid = w.others cid := by
  cases call with
  | cloud c =>
    refine World.others_eq (fun other ne => ?_) rfl
    exact (CloudDouble.answer_touches fun c' touched => touches c c' rfl touched).file ne
  | registry c => exact World.others_eq (fun _ _ => rfl) (RegistryDouble.answer_others names)
  | hostAlias hostname ip => rfl

/-- **A call leaves other instances alone**: those that it does not name, and of which it does not
    tell. -/
theorem answerCall_others (e : Exchange (Timed Services) World)
    (asked : e = Answering.exchange (answer {}) (.other (.call call)) w)
    (own : ∀ other, Names e.query e.reply other → other = cid)
    (lost : LostOrder e → w.cloud.nextCid = cid) : e.after.others cid = w.others cid := by
  subst asked
  obtain ⟨w₁, ⟨cloud, registry, -, -⟩, served⟩ := answerCall_cases {} call w
  have kept : w₁.others cid = w.others cid := by
    refine World.others_eq (fun other _ => ?_) ?_
    · rw [cloud]
    · rw [registry]
  rcases served with ⟨unserved, -⟩ | ⟨served, reply⟩
  · exact (congrArg (World.others cid) unserved).trans kept
  · refine (congrArg (World.others cid) served).trans ((serve_others ?_ ?_).trans kept)
    · rintro c other rfl touched
      cases c with
      | createInstance template =>
        obtain rfl : w₁.cloud.nextCid = other := Option.some.inj touched
        have failed : (∃ f, (answerCall {} (.cloud (.createInstance template)) w).1 = .error f) →
            w.cloud.nextCid = cid :=
          fun ⟨f, refused⟩ => lost ⟨template, f, rfl, faultOf?_eq_some.mpr refused⟩
        rw [cloud]
        rcases reply with refused | told
        · exact failed refused
        · rcases serve_createInstance template w₁ with receipt | ⟨f, refused⟩
          · rw [cloud] at receipt
            exact own _ (.inl (congrArg (met? (Cloud.Call.createInstance template).query)
              (told.trans receipt)))
          · exact failed ⟨f, told.trans refused⟩
      | _ => exact own other (.inr ⟨_, rfl, touched⟩)
    · exact fun other names => own other (.inr ⟨call, rfl, names⟩)

/-- Only the record of a host name changes an alias, and only its own. -/
theorem answerCall_aliases {other : String} (ne : ∀ hostname ip, call = .hostAlias hostname ip → other ≠ hostname) :
    ((answerCall {} call) w).2.alias? other = w.alias? other := by
  obtain ⟨w₁, ⟨-, -, aliases, -⟩, served⟩ := answerCall_cases {} call w
  rcases served with ⟨unserved, -⟩ | ⟨served, -⟩
  · exact (congrArg (World.alias? other) unserved).trans (congrArg (·.get? other) aliases)
  · refine (congrArg (World.alias? other) served).trans ?_
    unfold World.alias?
    rw [← aliases]
    cases call with
    | cloud c => rfl
    | registry c => rfl
    | hostAlias hostname ip => exact Dict.get?_insert_of_ne _ _ (ne hostname ip rfl)

theorem answer_aliases {q : (Timed Services).Query} {other : String}
    (ne : ∀ hostname ip, q = .other (.call (.hostAlias hostname ip)) → other ≠ hostname) :
    ((answer {} q) w).2.alias? other = w.alias? other := by
  cases q with
  | other q =>
    cases q with
    | call call => exact answerCall_aliases fun hostname ip same => ne hostname ip (same ▸ rfl)
    | mark => rfl
  | _ => rfl

end Simulation.World

/-! ## 2. One instance, one host name -/

/-- A report is on the instance that was asked about. -/
def Truthful {σ : Type} (e : Exchange (Timed Services) σ) : Prop := Orderly.Credible e.query e.reply

/-- What an allocation leaves as it was in a world: all that is kept about other instances, and the
    aliases but one. -/
structure Spared (cid : UInt64) (w w' : World) : Prop where
  others : w'.others cid = w.others cid
  aliases : ∃ hostname, ∀ other, other ≠ hostname → w'.alias? other = w.alias? other

section Runs

variable {p : Workflow Instance} {w : World} {cid : UInt64}

theorem Careful.others (careful : Careful cid (p.trace (World.answer {}) w).exchanges)
    (lost : ∀ e ∈ (p.trace (World.answer {}) w).exchanges, LostOrder e → e.before.cloud.nextCid = cid) :
    (p.trace (World.answer {}) w).state.others cid = w.others cid := by
  refine Program.trace_keeps fun e he => ?_
  have own := careful.about e he
  have blamed := lost e he
  obtain ⟨q, w', asked⟩ := Program.exchanges_asked e he
  cases q with
  | other q =>
    cases q with
    | call call =>
      have before : e.before = w' := asked ▸ rfl
      rw [before] at blamed ⊢
      exact World.answerCall_others e asked own blamed
    | mark => subst asked; rfl
  | _ => subst asked; rfl

theorem Careful.aliases (careful : Careful cid (p.trace (World.answer {}) w).exchanges) :
    ∃ hostname, ∀ other, other ≠ hostname →
      (p.trace (World.answer {}) w).state.alias? other = w.alias? other := by
  have recorded : ∃ hostname, ∀ e ∈ (p.trace (World.answer {}) w).exchanges, ∀ other ip,
      e.query = .other (.call (.hostAlias other ip)) → other = hostname := by
    by_cases some_recorded : ∃ e ∈ (p.trace (World.answer {}) w).exchanges, ∃ hostname ip,
        e.query = .other (.call (.hostAlias hostname ip))
    · obtain ⟨e, he, hostname, ip, records⟩ := some_recorded
      refine ⟨hostname, fun e' he' other ip' records' => ?_⟩
      have same : e' = e := careful.inTurn.unique he he' (congrArg turn? records)
        (congrArg turn? records')
      subst same
      cases records.symm.trans records'
      rfl
    · exact ⟨"", fun e he other ip records => absurd ⟨e, he, other, ip, records⟩ some_recorded⟩
  obtain ⟨hostname, only⟩ := recorded
  refine ⟨hostname, fun other ne => ?_⟩
  have kept : ∀ e ∈ (p.trace (World.answer {}) w).exchanges,
      e.after.alias? other = e.before.alias? other := by
    intro e he
    have named := only e he
    obtain ⟨q, w', rfl⟩ := Program.exchanges_asked e he
    exact World.answer_aliases fun hostname' ip records => named hostname' ip records ▸ ne
  exact Program.trace_keeps kept

end Runs

/-! ## 3. Truthful worlds -/

namespace Simulation

namespace World

/-- A world whose cloud keeps every instance under its own number, and in whose script no report is
    made up. -/
structure Reliable (w : World) : Prop where
  numbered : w.cloud.Numbered
  unscripted : ∀ p ∈ w.script, p.1 ≠ .getInstance

variable {w : World}

/-- A call that is served leaves every instance under its own number. -/
theorem serve_numbered (call : Call) (h : w.cloud.Numbered) : (serve {} call w).2.cloud.Numbered := by
  cases call with
  | cloud c =>
    show (w.cloud.answer c).2.Numbered
    cases touched : w.cloud.touched? c with
    | some cid =>
      have own : ∀ other, w.cloud.touched? c = some other → other = cid :=
        fun other same => Option.some.inj (same.symm.trans touched)
      exact (CloudDouble.answer_touches own).numbered h
    | none =>
      have own : ∀ other, w.cloud.touched? c = some other → other = 0 :=
        fun other same => nomatch touched.symm.trans same
      exact (CloudDouble.answer_touches own).numbered h
  | registry c => exact h
  | hostAlias hostname ip => exact h

theorem Reliable.answerCall (h : w.Reliable) (call : Call) : (answerCall {} call w).2.Reliable := by
  obtain ⟨w₁, journaled, served⟩ := answerCall_cases {} call w
  have kept : w₁.Reliable := by
    refine ⟨?_, fun p hp => h.unscripted p (journaled.script p hp)⟩
    rw [journaled.cloud]
    exact h.numbered
  rcases served with ⟨unserved, -⟩ | ⟨served, -⟩
  · rw [unserved]
    exact kept
  · rw [served]
    refine ⟨serve_numbered call kept.numbered, ?_⟩
    have script : (serve {} call w₁).2.script = w₁.script :=
      congrArg Prod.snd (serve_keeps_pace {} call w₁)
    rw [script]
    exact kept.unscripted

theorem Reliable.answer (h : w.Reliable) (q : (Timed Services).Query) : (answer {} q w).2.Reliable := by
  cases q with
  | other q =>
    cases q with
    | call call => exact h.answerCall call
    | mark => exact ⟨h.numbered, h.unscripted⟩
  | now => exact h
  | cancelled => exact h
  | nap span => exact ⟨h.numbered, h.unscripted⟩

/-- A report on an instance is the record under its number. -/
theorem serve_getInstance {cid : UInt64} {i : Instance} (h : w.cloud.Numbered)
    (told : (serve {} (.cloud (.getInstance cid)) w).1 = .ok i) : i.cid = cid := by
  have told : (w.cloud.answer (.getInstance cid)).1 = .ok i := told
  unfold CloudDouble.answer at told
  dsimp only at told
  split at told
  · cases told
  · unfold CloudDouble.perform CloudDouble.ask at told
    dsimp only at told
    split at told
    · rename_i m found
      cases told
      exact h cid m found
    · cases told

/-- **A reliable world tells the truth.** -/
theorem Reliable.truthful (h : w.Reliable) (q : (Timed Services).Query) :
    Truthful (Answering.exchange (World.answer {}) q w) := by
  cases q with
  | other q =>
    cases q with
    | mark => trivial
    | call call =>
      cases call with
      | registry c => trivial
      | hostAlias hostname ip => trivial
      | cloud c =>
        cases c with
        | getInstance cid =>
          show Orderly.Credible (Cloud.Call.getInstance cid).query (World.answerCall {} _ w).1
          obtain ⟨w₁, journaled, served⟩ := answerCall_cases {} (.cloud (.getInstance cid)) w
          cases told : (World.answerCall {} (.cloud (.getInstance cid)) w).1 with
          | error f => trivial
          | ok i =>
            rw [told] at served
            rcases served with ⟨-, ⟨f, failed⟩ | ⟨p, hp, scripted⟩⟩ | ⟨-, ⟨f, failed⟩ | served⟩
            · cases failed
            · exact absurd scripted (h.unscripted p hp)
            · cases failed
            · exact serve_getInstance (journaled.cloud ▸ h.numbered) served.symm
        | _ => trivial
  | _ => trivial

/-- A run in a reliable world is told the truth all along. -/
theorem Reliable.trace {α : Type} {p : Workflow α} (h : w.Reliable) :
    ∀ e ∈ (p.trace (World.answer {}) w).exchanges, Truthful e := by
  intro e he
  have preserved : ∀ q (w : World), w.Reliable → (World.answer {} q w).2.Reliable :=
    fun q _ h => h.answer q
  have reliable := (Program.trace_preserves preserved h).1 e he
  obtain ⟨q, w', rfl⟩ := Program.exchanges_asked e he
  exact reliable.truthful q

end World

end Simulation

/-! ## 4. All that is touched -/

/-- **Changes are made in turn, to one instance, and nothing else is touched**: whoever answers, and in a
    world whatever is scripted, as long as a report is on the instance that was asked about. -/
theorem changes_touch_one_instance (site : Site) (request : Request) :
    (∀ (σ : Type) (answer : Answering (Timed Services) σ) (s : σ),
      (∀ e ∈ ((Allocation.run site request).trace answer s).exchanges, Truthful e) →
        ∃ cid, Careful cid ((Allocation.run site request).trace answer s).exchanges) ∧
    ∀ w : World,
      (∀ e ∈ ((Allocation.run site request).trace (World.answer {}) w).exchanges, Truthful e) →
        ∃ cid, Careful cid ((Allocation.run site request).trace (World.answer {}) w).exchanges ∧
          Spared cid w ((Allocation.run site request).trace (World.answer {}) w).state := by
  refine ⟨fun σ answer s truthful => ?_, fun w truthful => ?_⟩
  · have orderly := (allocation_orderly site request).follows truthful
    obtain ⟨cid, careful, -⟩ := follows_careful (fun _ => 0) orderly
    exact ⟨cid, careful⟩
  · have orderly := (allocation_orderly site request).follows truthful
    obtain ⟨cid, careful, lost⟩ := follows_careful (fun e => e.before.cloud.nextCid) orderly
    exact ⟨cid, careful, careful.others lost, careful.aliases⟩

namespace Sample

/-- A world with two instances, of which one is free and the other one in use. -/
def neighbours : World where
  cloud := (CloudDouble.enroll {} { cid := 42, hostname := "vm-42", primaryBackendIp := some (.v4 10 0 0 42) }).enroll
    { cid := 43, hostname := "vm-43", primaryBackendIp := some (.v4 10 0 0 43) }
  registry := { entries := [⟨42, 2, 2048, none, "vm-42", 0, 0, .free⟩, ⟨43, 2, 2048, none, "vm-43", 0, 0, .using⟩] }
  aliases := .ofList [("vm-43", .v4 10 0 0 43)]

theorem neighbours_reliable : neighbours.Reliable := by
  have empty : CloudDouble.Numbered {} := fun cid m found => by cases found
  exact ⟨CloudDouble.enroll_numbered (CloudDouble.enroll_numbered empty _) _, fun p hp => nomatch hp⟩

end Sample

theorem neighbours_are_spared :
    (∀ e ∈ ((Allocation.run {} Sample.request).trace (World.answer {}) Sample.neighbours).exchanges,
      Truthful e) ∧
    ∃ cid, Careful cid ((Allocation.run {} Sample.request).trace (World.answer {}) Sample.neighbours).exchanges ∧
      Spared cid Sample.neighbours
        ((Allocation.run {} Sample.request).trace (World.answer {}) Sample.neighbours).state :=
  ⟨Sample.neighbours_reliable.trace,
    (changes_touch_one_instance {} Sample.request).2 Sample.neighbours Sample.neighbours_reliable.trace⟩

end InstancePool
