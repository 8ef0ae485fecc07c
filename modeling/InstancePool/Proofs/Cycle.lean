import InstancePool.Proofs.Courses
import InstancePool.Proofs.Machines
import InstancePool.Upkeep

/-!
# Create, release, and create again

An instance that is given back is found again by the next request of its shape. For that the question
that the request asks of the pool has to fit the entry of the instance, and every step of both
workflows has to come to its end; in a world without faults it does, and takes no time.

* `findEntries_ensures`, `addEntry_ensures`, `transition_ensures` and the like: what calls to the
  registry do to a pool in which one entry was added last;
* `accepts_body`: an instance that was built for a request fits its question;
* `create_ensures`, `release_ensures`, `reuse_ensures`: the three steps of the cycle;
* `Cycle`, `release_closes_cycle`: the cycle as a whole.
-/

namespace InstancePool

open Program
open Pool (Entry State)
open Simulation (World CloudDouble RegistryDouble Machine)

/-! ## 1. The pool -/

section Pool

variable {w₀ : World} {cid next : UInt64} {old : List Entry} {phase : Option Machine → Prop}
  {i : Instance}

/-- An entry that was added last is the one of its instance. -/
theorem find?_added {e : Entry} (number : e.cid = cid) (absent : ∀ e' ∈ old, e'.cid ≠ cid) :
    (old ++ [e]).find? (·.cid == cid) = some e := by
  have missed : old.find? (·.cid == cid) = none :=
    List.find?_eq_none.mpr fun e' he => by simpa using absent e' he
  rw [List.find?_append, missed, List.find?_singleton, if_pos (beq_iff_eq.mpr number)]
  rfl

theorem setState_added {e : Entry} (number : e.cid = cid) (absent : ∀ e' ∈ old, e'.cid ≠ cid)
    (after : State) :
    RegistryDouble.setState cid after (old ++ [e]) = old ++ [{ e with state := after }] := by
  induction old with
  | nil => exact if_pos number
  | cons first rest ih =>
    have later := ih fun e' he => absent e' (List.mem_cons_of_mem _ he)
    rw [List.cons_append, RegistryDouble.setState, if_neg (absent first List.mem_cons_self), later]
    rfl

theorem filter_unmatched {filter : Pool.Filter} (unmatched : ∀ e ∈ old, filter.accepts e = false) :
    old.filter filter.accepts = [] :=
  List.filter_eq_nil_iff.mpr fun e he => by simp [unmatched e he]

theorem findEntries_ensures (filter : Pool.Filter) :
    Ensures (World.answer {}) (Stands w₀ cid next old phase) (Workflow.registry (.findEntries filter))
      fun found w => found = old.filter filter.accepts ∧ Stands w₀ cid next old phase w := by
  refine registry_ensures fun d obliging same => ?_
  subst same
  exact ⟨_, rfl, rfl, obliging, rfl⟩

theorem getEntry_ensures :
    Ensures (World.answer {}) (Stands w₀ cid next old phase) (Workflow.registry (.getEntry cid))
      fun found w => found = old.find? (·.cid == cid) ∧ Stands w₀ cid next old phase w := by
  refine registry_ensures fun d obliging same => ?_
  subst same
  exact ⟨_, rfl, rfl, obliging, rfl⟩

/-- An instance that has no entry gets one. -/
theorem add_absent {d : RegistryDouble} {e : Entry} (absent : ∀ e' ∈ d.entries, e'.cid ≠ e.cid) :
    d.add e = (.ok (), { d with entries := d.entries ++ [e] }) := by
  have unknown : d.entries.any (·.cid == e.cid) = false :=
    List.any_eq_false.mpr fun e' he => by simpa using absent e' he
  unfold RegistryDouble.add
  rw [unknown]
  rfl

theorem addEntry_ensures {e : Entry} (absent : ∀ e' ∈ old, e'.cid ≠ e.cid) :
    Ensures (World.answer {}) (Stands w₀ cid next old phase) (Workflow.registry (.addEntry e))
      fun _ => Stands w₀ cid next (old ++ [e]) phase := by
  have added : Ensures (World.answer {}) (Stands w₀ cid next old phase) (Workflow.registry (.addEntry e))
      fun a w => a = () ∧ Stands w₀ cid next (old ++ [e]) phase w := by
    refine registry_ensures fun d obliging same => ?_
    subst same
    have performed : d.perform (.addEntry e) = _ := add_absent absent
    rw [performed]
    exact ⟨(), rfl, rfl, { obliging with }, rfl⟩
  exact added.effect

/-- An entry that is in the state that is expected changes it. -/
theorem update_expected {d : RegistryDouble} (obliging : d.Obliging) {e : Entry} {before : State}
    (found : d.find? cid = some e) (expected : e.state = before) (after : State) :
    d.update cid (some before) after = (.ok (), d.force cid after) := by
  have met : (some before).filter (fun s => decide (s ≠ e.state)) = none := by simp [expected]
  unfold RegistryDouble.update
  rw [obliging.updates, found]
  dsimp only
  rw [met]

/-- The entry that was added last changes its state. -/
theorem transition_ensures (absent : ∀ e ∈ old, e.cid ≠ i.cid) {before after : State}
    (follows : before.allows after = true) :
    Ensures (World.answer {}) (Stands w₀ cid next (old ++ [.ofInstance i before]) phase)
      (Pool.transition i.cid before after)
      fun _ => Stands w₀ cid next (old ++ [.ofInstance i after]) phase := by
  have changed : Ensures (World.answer {}) (Stands w₀ cid next (old ++ [.ofInstance i before]) phase)
      (Workflow.registry (.updateState i.cid (some before) after))
      fun a w => a = () ∧ Stands w₀ cid next (old ++ [.ofInstance i after]) phase w := by
    have number : (Entry.ofInstance i before).cid = i.cid := rfl
    refine registry_ensures fun d obliging same => ?_
    have found : d.find? i.cid = some (.ofInstance i before) := by
      unfold RegistryDouble.find?
      rw [same]
      exact find?_added number absent
    have updated : d.perform (.updateState i.cid (some before) after) = _ :=
      update_expected obliging found rfl after
    rw [updated]
    refine ⟨(), rfl, rfl, { obliging with }, ?_⟩
    show RegistryDouble.setState i.cid after d.entries = _
    rw [same]
    exact setState_added number absent after
  unfold Pool.transition
  rw [if_pos follows]
  exact changed.effect.inContext

end Pool

/-! ## 2. The cycle, step by step -/

/-- **An instance that was built for a request fits its question.** A VLAN that was not asked for is one
    that it does not have. -/
theorem accepts_body {request : Request} {selected : Networks} {i : Instance} {cid : UInt64}
    {name : String} (built : i.body = bodyOf cid (request.template selected name)) :
    (request.filter selected).accepts (.ofInstance i .free) = true := by
  have same : Entry.ofInstance i.body .free =
      .ofInstance (bodyOf cid (request.template selected name)) .free :=
    congrArg (Entry.ofInstance · .free) built
  show (request.filter selected).accepts (.ofInstance i.body .free) = true
  rw [same]
  simp [Pool.Filter.accepts, Request.filter, Entry.ofInstance, bodyOf, Instance.body, CloudDouble.built,
    Request.template, Networks.privateVlan, Networks.publicVlan]

section Steps

variable {w₀ : World} {cid next : UInt64} {old : List Entry} {site : Site} {request : Request}
  {selected : Networks} {i : Instance}

/-- An instance is given back, and is entered as a free one. -/
theorem release_ensures (absent : ∀ e ∈ old, e.cid ≠ i.cid) {phase : Option Machine → Prop} :
    Ensures (World.answer {}) (Stands w₀ i.cid next (old ++ [.ofInstance i .using]) phase)
      (Upkeep.release i.cid)
      fun _ => Stands w₀ i.cid next (old ++ [.ofInstance i .free]) phase := by
  have number : (Entry.ofInstance i .using).cid = i.cid := rfl
  refine Ensures.bind getEntry_ensures.inContext fun found => ensures_of fun same => ?_
  rw [find?_added number absent] at same
  subst same
  have freed : Ensures (World.answer {}) (Stands w₀ i.cid next (old ++ [.ofInstance i .using]) phase)
      (Pool.release (.ofInstance i .using))
      fun _ => Stands w₀ i.cid next (old ++ [.ofInstance i .free]) phase := by
    have busy : (Entry.ofInstance i .using).state ≠ .free := nofun
    unfold Pool.release
    rw [if_neg busy]
    exact transition_ensures absent rfl
  exact freed.inContext

variable (allowed : ∀ c, site.agent.credential = some c → c.validate = .ok ())
  (accepted : Networks.select request.networks = .ok selected) (pooled : selected.fixedIp = none)

include allowed accepted pooled

/-- **Where no entry fits a request**, an instance is built for it and entered as one in use. -/
theorem create_ensures (absent : ∀ e ∈ old, e.cid ≠ cid)
    (unmatched : ∀ e ∈ old, (request.filter selected).accepts e = false) :
    Ensures (World.answer {}) (Stands w₀ cid cid old (· = none)) (Allocation.run site request)
      fun i w => (∃ name, i.body = bodyOf cid (request.template selected name)) ∧
        Stands w₀ cid (cid + 1) (old ++ [.ofInstance i .using]) (Is (Runs i.body)) w := by
  rw [Allocation.run_of_pooled accepted pooled]
  refine Ensures.bind (findEntries_ensures _).inContext fun found => ensures_of fun same => ?_
  rw [filter_unmatched unmatched] at same
  subst same
  refine Ensures.bind (build_ensures allowed) fun i => ensures_of fun built => ?_
  have number : i.cid = cid := by
    obtain ⟨name, built⟩ := built
    exact congrArg Instance.cid built
  have apart : ∀ e ∈ old, e.cid ≠ (Entry.ofInstance i .using).cid := by
    intro e he
    show e.cid ≠ i.cid
    rw [number]
    exact absent e he
  exact Ensures.bind (addEntry_ensures apart).inContext fun _ => ensures_done fun _ h => ⟨built, h⟩

omit accepted pooled in
/-- An instance is reclaimed by its number, whatever its entry says. -/
theorem reclaim_ensures {entries : List Entry} (usable : Usable cid i.body) :
    Ensures (World.answer {}) (Stands w₀ cid next entries (Is (Runs i.body)))
      (Reclaim.run site (.cid cid) request selected)
      fun j w => j.body = i.body ∧ Stands w₀ cid next entries (Is (Runs i.body)) w := by
  rw [Reclaim.run_eq]
  refine Ensures.bind getInstance_ensures.inContext fun found => ensures_of fun same => ?_
  exact renew_ensures allowed usable same

/-- **Where the one entry that fits is that of an instance that was given back**, it is renewed and
    taken into use again. -/
theorem reuse_ensures (absent : ∀ e ∈ old, e.cid ≠ i.cid)
    (unmatched : ∀ e ∈ old, (request.filter selected).accepts e = false)
    (fits : (request.filter selected).accepts (.ofInstance i .free) = true)
    (usable : Usable i.cid i.body) :
    Ensures (World.answer {}) (Stands w₀ i.cid next (old ++ [.ofInstance i .free]) (Is (Runs i.body)))
      (Allocation.run site request)
      fun j w => j.body = i.body ∧
        Stands w₀ i.cid next (old ++ [.ofInstance i .using]) (Is (Runs i.body)) w := by
  rw [Allocation.run_of_pooled accepted pooled]
  refine Ensures.bind (findEntries_ensures _).inContext fun found => ensures_of fun same => ?_
  have hit : (old ++ [Entry.ofInstance i .free]).filter (request.filter selected).accepts =
      [Entry.ofInstance i .free] := by
    rw [List.filter_append, filter_unmatched unmatched, List.filter_cons_of_pos fits]
    rfl
  rw [hit] at same
  subst same
  show Ensures _ _ (Allocation.reuse site i.cid request selected) _
  rw [Allocation.reuse_eq]
  refine Ensures.bind (transition_ensures absent rfl).mapFault fun _ => ?_
  refine Ensures.bind (reclaim_ensures allowed usable).attempt fun r w h => ?_
  obtain ⟨j, rfl, same, stands⟩ := h
  have finished : Ensures (World.answer {})
      (Stands w₀ i.cid next (old ++ [.ofInstance i .provisioning]) (Is (Runs i.body)))
      (Allocation.finish i.cid (.ok j))
      fun j w => j.body = i.body ∧
        Stands w₀ i.cid next (old ++ [.ofInstance i .using]) (Is (Runs i.body)) w :=
    Ensures.bind (transition_ensures absent rfl) fun _ => ensures_done fun _ h => ⟨same, h⟩
  exact finished w stands

end Steps

/-- Where one instance stands, the others are those that were there at the beginning. -/
theorem Stands.same_instances {w₀ w w' : World} {cid next next' : UInt64} {entries entries' : List Entry}
    {P P' : Machine → Prop} (h : Stands w₀ cid next entries (Is P) w)
    (h' : Stands w₀ cid next' entries' (Is P') w') (other : UInt64) :
    (w.cloud.machines.get? other).isSome = (w'.cloud.machines.get? other).isSome := by
  by_cases own : other = cid
  · obtain ⟨m, found, -⟩ := h.machine
    obtain ⟨m', found', -⟩ := h'.machine
    rw [own, found, found']
    rfl
  · rw [h.others other own, h'.others other own]

/-! ## 3. The cycle -/

/-- A cycle that starts in `w`: a first request is served with a new instance, the instance is given
    back, and a second request is served with it again. -/
structure Cycle (site : Site) (first second : Request) (w : World) (i j : Instance) (w₁ w₂ w₃ : World) :
    Prop where
  created : World.run {} (Allocation.run site first) w = (.ok i, w₁)
  released : World.run {} (Upkeep.release i.cid) w₁ = (.ok (), w₂)
  recreated : World.run {} (Allocation.run site second) w₂ = (.ok j, w₃)
  /-- Neither the cloud nor the pool knew the instance. -/
  fresh : w.cloud.machines.get? i.cid = none ∧ ∀ e ∈ w.registry.entries, e.cid ≠ i.cid
  entered : w₁.registry.entries = w.registry.entries ++ [.ofInstance i .using]
  freed : w₂.registry.entries = w.registry.entries ++ [.ofInstance i .free]
  same : j.cid = i.cid
  retaken : w₃.registry.entries = w₁.registry.entries
  /-- The second request adds no instance to the cloud. -/
  single : w₃.cloud.nextCid = w₁.cloud.nextCid ∧
    ∀ cid, (w₃.cloud.machines.get? cid).isSome = (w₁.cloud.machines.get? cid).isSome
  others : ∀ cid, cid ≠ i.cid → w₃.cloud.machines.get? cid = w.cloud.machines.get? cid
  timeless : w₁.clock = w.clock ∧ w₂.clock = w.clock ∧ w₃.clock = w.clock

section Closing

variable {site : Site} {first second : Request} {chosen₁ chosen₂ : Networks} {w : World}

/-- **An instance that was given back serves the next request of its shape.** Where nothing fails,
    the first request is served with a new instance and the second one with the same instance again,
    and no time passes, however short the waits may be. -/
theorem release_closes_cycle (ready : w.Ready)
    (allowed : ∀ c, site.agent.credential = some c → c.validate = .ok ())
    (accepted₁ : Networks.select first.networks = .ok chosen₁) (pooled₁ : chosen₁.fixedIp = none)
    (accepted₂ : Networks.select second.networks = .ok chosen₂) (pooled₂ : chosen₂.fixedIp = none)
    (alike : second.filter chosen₂ = first.filter chosen₁)
    (unmatched : ∀ e ∈ w.registry.entries, (first.filter chosen₁).accepts e = false)
    (machines : ∀ cid m, w.cloud.machines.get? cid = some m → cid < w.cloud.nextCid)
    (entries : ∀ e ∈ w.registry.entries, e.cid < w.cloud.nextCid) :
    ∃ i j w₁ w₂ w₃, Cycle site first second w i j w₁ w₂ w₃ := by
  have unknown : w.cloud.machines.get? w.cloud.nextCid = none := by
    refine Option.eq_none_iff_forall_ne_some.mpr fun m found => ?_
    exact UInt64.lt_irrefl _ (machines _ m found)
  have absent : ∀ e ∈ w.registry.entries, e.cid ≠ w.cloud.nextCid :=
    fun e he => UInt64.ne_of_lt (entries e he)
  have start : Stands w w.cloud.nextCid w.cloud.nextCid w.registry.entries (· = none) w :=
    ⟨ready, rfl, rfl, unknown, fun _ _ => rfl, rfl⟩
  obtain ⟨i, w₁, created, ⟨name, built⟩, stands₁⟩ :=
    create_ensures allowed accepted₁ pooled₁ absent unmatched w start
  have number : i.cid = w.cloud.nextCid := congrArg Instance.cid built
  rw [← number] at unknown absent stands₁
  obtain ⟨⟨⟩, w₂, released, stands₂⟩ := release_ensures absent w₁ stands₁
  have usable : Usable i.cid i.body := by
    rw [built, number]
    exact bodyOf_usable _
  have unmatched₂ : ∀ e ∈ w.registry.entries, (second.filter chosen₂).accepts e = false := by
    rw [alike]
    exact unmatched
  have fits : (second.filter chosen₂).accepts (.ofInstance i .free) = true := by
    rw [alike]
    exact accepts_body built
  obtain ⟨j, w₃, recreated, same, stands₃⟩ :=
    reuse_ensures allowed accepted₂ pooled₂ absent unmatched₂ fits usable w₂ stands₂
  refine ⟨i, j, w₁, w₂, w₃, ?_⟩
  constructor
  case created => exact created.run_eq
  case released => exact released.run_eq
  case recreated => exact recreated.run_eq
  case fresh => exact ⟨unknown, absent⟩
  case entered => exact stands₁.entries
  case freed => exact stands₂.entries
  case same =>
    have number : j.body.cid = i.body.cid := congrArg Instance.cid same
    exact number
  case retaken => exact stands₃.entries.trans stands₁.entries.symm
  case single => exact ⟨stands₃.nextCid.trans stands₁.nextCid.symm, stands₃.same_instances stands₁⟩
  case others => exact stands₃.others
  case timeless => exact ⟨stands₁.clock, stands₂.clock, stands₃.clock⟩

end Closing

namespace Sample

/-- A site that waits for nothing and sets a login. -/
def hurried : Site where
  waits := { timeout := 0, interval := 0, reloadTimeout := 0 }
  agent := { credential := some ⟨"root", "correct horse"⟩ }

/-- A world with one instance, which is in use. -/
def occupied : World where
  cloud := CloudDouble.enroll {} { cid := 42, hostname := "vm-42" }
  registry := { entries := [⟨42, 2, 2048, none, "vm-42", 0, 0, .using⟩] }

/-- The request with an extra disk. -/
def roomier : Request := { request with
  agentId := "other"
  shape := { request.shape with ephemeralDiskSizeGb := some 100 } }

theorem occupied_ready : occupied.Ready :=
  ⟨rfl, rfl, ⟨fun _ => rfl, rfl, rfl, rfl⟩, ⟨fun _ => rfl, fun _ _ => rfl⟩⟩

/-- The one entry is in use, so it is offered to nobody. -/
theorem occupied_unmatched :
    ∀ e ∈ occupied.registry.entries, (request.filter selected).accepts e = false := by
  decide

theorem occupied_numbered (cid : UInt64) (m : Machine)
    (found : occupied.cloud.machines.get? cid = some m) : cid < occupied.cloud.nextCid := by
  by_cases own : cid = 42
  · subst own
    decide
  · have missed : occupied.cloud.machines.get? cid = none := Dict.get?_insert_of_ne _ _ own
    cases missed.symm.trans found

end Sample

theorem occupied_world_gets_cycle :
    Sample.occupied.Ready ∧ Sample.roomier.filter Sample.selected = Sample.request.filter Sample.selected ∧
      (∀ e ∈ Sample.occupied.registry.entries,
        (Sample.request.filter Sample.selected).accepts e = false) ∧
      ∃ i j w₁ w₂ w₃,
        Cycle Sample.hurried Sample.request Sample.roomier Sample.occupied i j w₁ w₂ w₃ := by
  have allowed : ∀ c, Sample.hurried.agent.credential = some c → c.validate = .ok () := by
    rintro c ⟨⟩
    rfl
  have entries : ∀ e ∈ Sample.occupied.registry.entries, e.cid < Sample.occupied.cloud.nextCid := by decide
  exact ⟨Sample.occupied_ready, rfl, Sample.occupied_unmatched,
    release_closes_cycle Sample.occupied_ready allowed rfl rfl rfl rfl rfl Sample.occupied_unmatched
      Sample.occupied_numbered entries⟩

end InstancePool
