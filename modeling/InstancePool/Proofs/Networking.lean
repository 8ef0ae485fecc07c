import Mathlib.Data.List.Nodup
import InstancePool.Proofs.Courses

/-!
# Networks on their way to the agent

A request names its networks, and the agent of its instance sets them up. In between they are sorted by
kind, which is where a request is refused, and entered by name again. Nothing is lost on the way and
nothing is overwritten, because a name stands in a dictionary once.

* `Dict.mem_entries_insert`, `Dict.mem_entries_foldl`: the entries of a dictionary with more entries;
  `Dict.entries_eq`: entries in ascending order are told by their members;
* `Networks.select_eq_ok`: what accepted networks are sorted into; `Networks.refusal?_eq`: the rule by which
  networks are accepted;
* `Agent.Network.setUp?`: what the agent sets up for a network, and `Agent.entries_networks`: all that it
  sets up;
* `networks_reach_agent`: what becomes of the networks of a request.
-/

namespace InstancePool

/-! ## 1. Entries of dictionaries -/

namespace Dict

section Entries

variable {κ α : Type} [LT κ] [Key κ]

theorem keys_nodup {entries : List (κ × α)} (ascends : Ascending entries) :
    (entries.map Prod.fst).Nodup := by
  have ascends : entries.Pairwise fun p p' => p.1 < p'.1 := ascends
  refine List.pairwise_map.mpr (ascends.imp fun {p p'} less equal => ?_)
  rw [equal] at less
  exact Key.irrefl _ less

/-- A name stands in a dictionary once. -/
theorem eq_of_key_eq {d : Dict κ α} {p p' : κ × α} (hp : p ∈ d.entries) (hp' : p' ∈ d.entries)
    (same : p.1 = p'.1) : p = p' :=
  List.inj_on_of_nodup_map (keys_nodup d.ascending) hp hp' same

/-- **Entries in ascending order** are told by their members. -/
theorem entries_eq {entries others : List (κ × α)} (ascends : Ascending entries)
    (ascends' : Ascending others) (same : ∀ p, p ∈ entries ↔ p ∈ others) : entries = others := by
  have permuted : entries.Perm others :=
    (List.perm_ext_iff_of_nodup (.of_map _ (keys_nodup ascends)) (.of_map _ (keys_nodup ascends'))).mpr same
  refine permuted.eq_of_pairwise (fun p p' _ _ less more => ?_) ascends ascends'
  exact absurd (Key.trans less more) (Key.irrefl _)

variable [DecidableEq κ] {d : Dict κ α} {key : κ} {value : α}

theorem mem_entries_iff : (key, value) ∈ d.entries ↔ d.get? key = some value := by
  constructor
  · intro member
    cases found : d.entries.find? fun p => p.1 = key with
    | none => exact absurd (List.find?_eq_none.mp found _ member) (by simp)
    | some p =>
      have here : p.1 = key := by simpa using List.find?_some found
      obtain rfl : p = (key, value) := eq_of_key_eq (List.mem_of_find?_eq_some found) member here
      rw [get?, found]
      rfl
  · intro found
    obtain ⟨⟨k, v⟩, inside, rfl⟩ := Option.map_eq_some_iff.mp found
    obtain rfl : k = key := by simpa using List.find?_some inside
    exact List.mem_of_find?_eq_some inside

variable [DecidableLT κ] {k : κ} {v : α}

/-- A new entry stands beside the others. -/
theorem mem_entries_insert (fresh : d.get? key = none) :
    (k, v) ∈ (d.insert key value).entries ↔ (k = key ∧ v = value) ∨ (k, v) ∈ d.entries := by
  rw [mem_entries_iff, mem_entries_iff]
  by_cases same : k = key
  · subst same
    rw [get?_insert_self, fresh]
    simp [eq_comm]
  · rw [get?_insert_of_ne d value same]
    simp [same]

/-- **New entries under names of their own** all stand beside the others. -/
theorem mem_entries_foldl {β : Type} {f : β → α} {more : List (κ × β)}
    (distinct : (more.map Prod.fst).Nodup) (fresh : ∀ p ∈ more, d.get? p.1 = none) :
    (k, v) ∈ (more.foldl (fun d p => d.insert p.1 (f p.2)) d).entries ↔
      (k, v) ∈ d.entries ∨ ∃ b, (k, b) ∈ more ∧ v = f b := by
  induction more generalizing d with
  | nil => simp
  | cons p more ih =>
    obtain ⟨key, b⟩ := p
    obtain ⟨once, distinct⟩ := List.nodup_cons.mp distinct
    obtain ⟨here, fresh⟩ := List.forall_mem_cons.mp fresh
    have later : ∀ p ∈ more, (d.insert key (f b)).get? p.1 = none := by
      intro p hp
      have named : p.1 ∈ more.map Prod.fst := List.mem_map_of_mem hp
      have other : p.1 ≠ key := fun same => once (same ▸ named)
      rw [get?_insert_of_ne d _ other]
      exact fresh p hp
    rw [List.foldl_cons, ih distinct later, mem_entries_insert here]
    constructor
    · rintro ((⟨rfl, rfl⟩ | inside) | ⟨b', member, rfl⟩)
      · exact .inr ⟨b, List.mem_cons_self, rfl⟩
      · exact .inl inside
      · exact .inr ⟨b', List.mem_cons_of_mem _ member, rfl⟩
    · rintro (inside | ⟨b', member, rfl⟩)
      · exact .inl (.inr inside)
      · rcases List.mem_cons.mp member with same | member
        · cases same
          exact .inl (.inl ⟨rfl, rfl⟩)
        · exact .inr ⟨b', member, rfl⟩

end Entries

end Dict

/-! ## 2. Networks by kind -/

namespace Networks

variable {networks : Dict String Network.Definition} {selected : Networks} {kind : Network.Kind}

theorem mem_ofKind {p : String × Network.Definition} :
    p ∈ ofKind kind networks ↔ p ∈ networks.entries ∧ p.2.kind = kind := by
  rw [ofKind, List.mem_filter, beq_iff_eq]

theorem length_ofKind : (ofKind kind networks).length = networks.values.countP (·.kind = kind) := by
  rw [ofKind, Dict.values, List.countP_map, List.countP_eq_length_filter]
  rfl

theorem ofKind_eq_nil : ofKind kind networks = [] ↔ ∀ d ∈ networks.values, d.kind ≠ kind := by
  rw [ofKind, List.filter_eq_nil_iff, Dict.values, List.forall_mem_map]
  exact forall₂_congr fun p _ => not_congr beq_iff_eq

/-- **Networks are accepted** where none is a virtual address and one is dynamic. -/
theorem select_eq_ok : select networks = .ok selected ↔ ofKind .vip networks = [] ∧
    ofKind .dynamic networks = [(selected.dynamicName, selected.dynamic)] ∧
    selected.manual = ofKind .manual networks := by
  unfold select
  split
  · rename_i vip
    simp [vip]
  · rename_i vip
    split
    · rename_i name definition dynamic
      rw [dynamic]
      constructor
      · rintro ⟨⟩
        exact ⟨vip, rfl, rfl⟩
      · obtain ⟨name', definition', manual'⟩ := selected
        rintro ⟨-, same, rfl⟩
        cases same
        rfl
    · rename_i uneven
      constructor
      · nofun
      · rintro ⟨-, dynamic, -⟩
        exact absurd dynamic (uneven _ _)

/-- Of what kind the fault is with which networks are refused, if they are. -/
def refusal? (networks : Dict String Network.Definition) : Option Fault.Kind :=
  match select networks with
  | .ok _ => none
  | .error f => some f.kind

theorem refusal?_eq_some {k : Fault.Kind} :
    refusal? networks = some k ↔ ∃ f, select networks = .error f ∧ f.kind = k := by
  unfold refusal?
  cases select networks <;> simp

theorem refusal?_eq_none : refusal? networks = none ↔ ∃ selected, select networks = .ok selected := by
  unfold refusal?
  cases select networks <;> simp

/-- **The rule**: a virtual address is not supported, and without one there must be one dynamic network. -/
theorem refusal?_eq (networks : Dict String Network.Definition) : refusal? networks =
    if ∃ d ∈ networks.values, d.kind = .vip then some .notSupported
    else if networks.values.countP (·.kind = .dynamic) = 1 then none
    else some .invalidRequest := by
  have unsupported : (∃ d ∈ networks.values, d.kind = .vip) ↔ ofKind .vip networks ≠ [] := by
    rw [Ne, ofKind_eq_nil]
    push Not
    rfl
  simp only [unsupported, ← length_ofKind]
  unfold refusal? select
  cases ofKind .vip networks with
  | cons p rest => rfl
  | nil =>
    match ofKind .dynamic networks with
    | [] => rfl
    | [p] => rfl
    | _ :: _ :: _ => simp [Fault.invalid, Fault.new]

section Accepted

variable (accepted : select networks = .ok selected)

include accepted

theorem dynamic_mem {name : String} {d : Network.Definition} :
    (name, d) ∈ networks.entries ∧ d.kind = .dynamic ↔
      name = selected.dynamicName ∧ d = selected.dynamic := by
  rw [← mem_ofKind (p := (name, d)), (select_eq_ok.mp accepted).2.1, List.mem_singleton, Prod.mk.injEq]

theorem manual_mem {p : String × Network.Definition} :
    p ∈ selected.manual ↔ p ∈ networks.entries ∧ p.2.kind = .manual := by
  rw [(select_eq_ok.mp accepted).2.2, mem_ofKind]

/-- The manual networks have names of their own, -/
theorem manual_nodup : (selected.manual.map Prod.fst).Nodup := by
  rw [(select_eq_ok.mp accepted).2.2]
  exact (List.filter_sublist.map _).nodup (Dict.keys_nodup networks.ascending)

/-- and none of them the name of the dynamic one. -/
theorem manual_ne_dynamic : ∀ p ∈ selected.manual, p.1 ≠ selected.dynamicName := by
  intro p hp same
  obtain ⟨inManual, isManual⟩ := (manual_mem accepted).mp hp
  obtain ⟨inDynamic, isDynamic⟩ := (dynamic_mem accepted).mpr ⟨rfl, rfl⟩
  obtain rfl := Dict.eq_of_key_eq inManual inDynamic same
  cases isManual.symm.trans isDynamic

end Accepted

end Networks

/-! ## 3. What the agent sets up -/

namespace Agent

/-- What the agent of an instance sets up for a network, if anything. A dynamic one has the private
    address of the instance, or else the one that is pinned on it; a manual one has its own. -/
def Network.setUp? (i : Instance) (d : InstancePool.Network.Definition) : Option Network :=
  let under (kind : String) (ip : Option Address) : Network :=
    { kind, ip := ip.map Address.render, netmask := d.netmask, gateway := d.gateway.map Address.render,
      dns := d.dns, default := d.default }
  match d.kind with
  | .dynamic => some (under "dynamic" (i.primaryBackendIp.or d.ip))
  | .manual => some (under "manual" d.ip)
  | .vip | .unspecified => none

theorem Network.setUp?_eq_some {i : Instance} {d : InstancePool.Network.Definition} {n : Network} :
    setUp? i d = some n ↔
      (d.kind = .dynamic ∧ n = ofDefinition .dynamic d (i.primaryBackendIp.or d.ip)) ∨
        (d.kind = .manual ∧ n = ofDefinition .manual d d.ip) := by
  unfold setUp?
  cases d.kind <;> simp [ofDefinition, InstancePool.Network.Kind.name, eq_comm]

section Accepted

variable {networks : Dict String InstancePool.Network.Definition} {selected : Networks}
  (accepted : Networks.select networks = .ok selected) (i : Instance)

include accepted

theorem mem_networks {name : String} {n : Network} : (name, n) ∈ (Agent.networks i selected).entries ↔
    ∃ d, (name, d) ∈ networks.entries ∧ Network.setUp? i d = some n := by
  let dynamic : Network :=
    .ofDefinition .dynamic selected.dynamic (i.primaryBackendIp.or selected.dynamic.ip)
  have fresh : ∀ p ∈ selected.manual,
      (Dict.empty.insert selected.dynamicName dynamic).get? p.1 = none := fun p hp =>
    Dict.get?_insert_of_ne _ _ (Networks.manual_ne_dynamic accepted p hp)
  let manual (d : InstancePool.Network.Definition) : Network := .ofDefinition .manual d d.ip
  have members : (name, n) ∈ (Agent.networks i selected).entries ↔
      (name, n) ∈ (Dict.empty.insert selected.dynamicName dynamic).entries ∨
        ∃ d, (name, d) ∈ selected.manual ∧ n = manual d :=
    Dict.mem_entries_foldl (f := manual) (Networks.manual_nodup accepted) fresh
  have alone : (name, n) ∈ (Dict.empty.insert selected.dynamicName dynamic).entries ↔
      name = selected.dynamicName ∧ n = dynamic :=
    (Dict.mem_entries_insert rfl).trans (or_iff_left List.not_mem_nil)
  rw [members, alone]
  constructor
  · rintro (⟨rfl, rfl⟩ | ⟨d, member, rfl⟩)
    · obtain ⟨member, kind⟩ := (Networks.dynamic_mem accepted).mpr ⟨rfl, rfl⟩
      exact ⟨selected.dynamic, member, Network.setUp?_eq_some.mpr (.inl ⟨kind, rfl⟩)⟩
    · obtain ⟨member, kind⟩ := (Networks.manual_mem accepted).mp member
      exact ⟨d, member, Network.setUp?_eq_some.mpr (.inr ⟨kind, rfl⟩)⟩
  · rintro ⟨d, member, set⟩
    rcases Network.setUp?_eq_some.mp set with ⟨kind, rfl⟩ | ⟨kind, rfl⟩
    · obtain ⟨rfl, rfl⟩ := (Networks.dynamic_mem accepted).mp ⟨member, kind⟩
      exact .inl ⟨rfl, rfl⟩
    · exact .inr ⟨d, (Networks.manual_mem accepted).mpr ⟨member, kind⟩, rfl⟩

/-- **The agent sets up every network** that is dynamic or manual, under its own name, and no other. -/
theorem entries_networks : (Agent.networks i selected).entries =
    networks.entries.filterMap fun p => (Network.setUp? i p.2).map (p.1, ·) := by
  have ascends : Dict.Ascending
      (networks.entries.filterMap fun p => (Network.setUp? i p.2).map (p.1, ·)) := by
    refine List.Pairwise.filterMap _ (fun p p' less q hq q' hq' => ?_) networks.ascending
    obtain ⟨_, -, rfl⟩ := Option.map_eq_some_iff.mp hq
    obtain ⟨_, -, rfl⟩ := Option.map_eq_some_iff.mp hq'
    exact less
  refine Dict.entries_eq (Agent.networks i selected).ascending ascends fun p => ?_
  obtain ⟨name, n⟩ := p
  rw [mem_networks accepted i, List.mem_filterMap]
  constructor
  · rintro ⟨d, member, set⟩
    exact ⟨(name, d), member, Option.map_eq_some_iff.mpr ⟨n, set, rfl⟩⟩
  · rintro ⟨⟨_, d⟩, member, set⟩
    obtain ⟨_, set, same⟩ := Option.map_eq_some_iff.mp set
    cases same
    exact ⟨d, member, set⟩

/-- **The dynamic network of the settings has the private address of the instance.** -/
theorem networks_dynamic : (Agent.networks i selected).get? selected.dynamicName =
    some (Network.ofDefinition .dynamic selected.dynamic
      (i.primaryBackendIp.or selected.dynamic.ip)) := by
  obtain ⟨member, kind⟩ := (Networks.dynamic_mem accepted).mpr ⟨rfl, rfl⟩
  exact Dict.mem_entries_iff.mp ((mem_networks accepted i).mpr
    ⟨selected.dynamic, member, Network.setUp?_eq_some.mpr (.inl ⟨kind, rfl⟩)⟩)

end Accepted

end Agent

/-! ## 4. From the request to the agent -/

/-- What becomes of the networks of a request. -/
structure Handled (networks : Dict String Network.Definition) : Prop where
  /-- A virtual address is not supported, whatever else is requested. -/
  unsupported : (∃ f, Networks.select networks = .error f ∧ f.kind = .notSupported) ↔
    ∃ d ∈ networks.values, d.kind = .vip
  /-- Without one, the request is invalid if it has no dynamic network or several. -/
  invalid : (∃ f, Networks.select networks = .error f ∧ f.kind = .invalidRequest) ↔
    (¬∃ d ∈ networks.values, d.kind = .vip) ∧ networks.values.countP (·.kind = .dynamic) ≠ 1
  /-- All else is accepted. -/
  accepted : (∃ selected, Networks.select networks = .ok selected) ↔
    (¬∃ d ∈ networks.values, d.kind = .vip) ∧ networks.values.countP (·.kind = .dynamic) = 1
  /-- Where the networks are refused, the allocation ends with the fault, and nobody was asked for
      anything. -/
  quiet : ∀ {f : Fault}, Networks.select networks = .error f →
    ∀ {σ : Type} (answer : Answering (Timed Services) σ) (site : Site) (request : Request) (s : σ),
      request.networks = networks → (Allocation.run site request).trace answer s =
        ⟨.error (f.inContext s!"validating networks for agent {request.agentId}"), s, []⟩
  /-- Where they are accepted, the agent is told of each network it is to set up, in the order of their
      names, whatever it is told beside. -/
  told : ∀ {selected : Networks}, Networks.select networks = .ok selected →
    ∀ (i : Instance) (request : Request) (endpoints : Agent.Endpoints) (options : Agent.Options),
      (Agent.settings i request selected endpoints options).networks.entries =
        networks.entries.filterMap fun p => (Agent.Network.setUp? i p.2).map (p.1, ·)

/-- **Networks reach the agent**, or the request is refused before anybody is asked for anything. -/
theorem networks_reach_agent (networks : Dict String Network.Definition) : Handled networks := by
  have rule := Networks.refusal?_eq networks
  constructor
  case unsupported =>
    rw [← Networks.refusal?_eq_some, rule]
    split_ifs <;> simp [*]
  case invalid =>
    rw [← Networks.refusal?_eq_some, rule]
    split_ifs <;> simp [*]
  case accepted =>
    rw [← Networks.refusal?_eq_none, rule]
    split_ifs <;> simp [*]
  case quiet =>
    intro f refused σ answer site request s same
    exact Allocation.trace_invalid (same ▸ refused)
  case told => exact fun accepted i _ _ _ => Agent.entries_networks accepted i

end InstancePool
