import InstancePool.Proofs.Handling

/-!
# Transactions of the cloud in memory

All that workflows wait for in a trial is a transaction of the double: it is there at the first look and
gone at the second, and its effect is there then. Any number of orders on any number of instances may
come between two looks, and an order takes the place of the one before it on the same instance. What the
double tells of an instance is still what its own last order and the looks since then make of it.

* `CloudDouble.replay`: a new double after a history of deeds, the latest one first;
* `Fair`: histories in which looks do not fail and no instance takes the place of another one;
* `orders`, `standing?`: the transactions that a history queues, and the last one of an instance with the
  number of looks at it; `disksAfter`: the disks that this leads to;
* `Phase`: a machine after so many looks; `Mirrors`, `mirrors_replay`: every machine, by the history;
* `transactions_keep_course`: numbers, looks, the last transaction and the disks of every instance.
-/

namespace InstancePool.Simulation

/-! ## 1. Histories -/

/-- A new double after a history of deeds, the latest of which stands first. -/
def CloudDouble.replay : List Deed → CloudDouble
  | [] => {}
  | deed :: earlier => (replay earlier).after deed

open CloudDouble (replay baselineDevices pending observe observe_idle observe_first observe_second)

/-- A history of which every deed was one of a fair trial. -/
def Fair : List Deed → Prop
  | [] => True
  | deed :: earlier => Fair earlier ∧ (replay earlier).Admits deed

/-- The transactions that were queued in a history, each with its instance, the latest one first. -/
def orders : List Deed → List (UInt64 × Transaction)
  | [] => []
  | deed :: earlier => ((replay earlier).order? deed).toList ++ orders earlier

/-- How many numbers of transactions were given out in a history. -/
def numbersGiven : List Deed → Nat
  | [] => 0
  | deed :: earlier =>
    numbersGiven earlier +
      if ((replay earlier).after deed).nextTransaction = (replay earlier).nextTransaction then 0 else 1

/-- The transaction that was queued last on an instance, and how often it was looked at since. -/
def standing? (cid : UInt64) : List Deed → Option (Transaction × Nat)
  | [] => none
  | deed :: earlier =>
    match (replay earlier).order? deed with
    | some (c, t) => if c = cid then some (t, 0) else standing? cid earlier
    | none => (standing? cid earlier).map fun (t, looks) => (t, looks + deed.looks cid)

/-- Whether a look at the transactions of an instance would be the second one at an upgrade, and upgrades
    add a disk. -/
def upgradeEnds (cid : UInt64) (history : List Deed) : Bool :=
  match standing? cid history with
  | some (t, 1) => t.inGroup Transaction.instanceUpgrade && (replay history).upgradeAddsDevice
  | _ => false

/-- The disks of an instance after one more deed, if they were these before it. -/
def disksAfter (cid : UInt64) (history : List Deed) (disks : List BlockDevice) :
    Deed → List BlockDevice
  | .call (.activeTransactions c) =>
    if c = cid ∧ upgradeEnds cid history then
      disks ++ [⟨.ofNat (disks.length + 1), toString disks.length, none⟩]
    else disks
  | .call (.reloadOs c stemcell) =>
    if c = cid ∧ ((replay history).answer (.reloadOs c stemcell)).1.isOk then baselineDevices
    else disks
  | _ => disks

/-! ## 2. One look -/

section Looks

variable {m : Machine} {t : Transaction} {looks : Nat}

/-- How a machine stands to the last transaction that was queued on it, after so many looks. -/
def Phase (t : Transaction) : Nat → Machine → Prop
  | 0, m => m.queued = some t ∧ m.observed = false
  | 1, m => m.queued = some t ∧ m.observed = true
  | _ + 2, m => m.queued = none ∧
    m.report.lastTransaction = some { t with status := some Transaction.complete }

theorem Phase.answer (phase : Phase t looks m) (adds : Bool) :
    (observe adds m).1 = if looks = 0 then [t] else [] := by
  match looks with
  | 0 => simp [observe_first adds phase.1 phase.2]
  | 1 => simp [observe_second adds phase.1 phase.2]
  | looks + 2 => simp [observe_idle adds phase.1]

theorem Phase.next (phase : Phase t looks m) (underWay : ∃ id group, t = pending id group)
    (adds : Bool) : Phase t (looks + 1) (observe adds m).2 := by
  match looks with
  | 0 =>
    rw [observe_first adds phase.1 phase.2]
    exact ⟨phase.1, rfl⟩
  | 1 =>
    obtain ⟨id, group, rfl⟩ := underWay
    rw [observe_second adds phase.1 phase.2]
    exact ⟨rfl, rfl⟩
  | looks + 2 =>
    rw [observe_idle adds phase.1]
    exact phase

/-- The second look at an upgrade finds one disk more, if upgrades add one. Other looks find the disks as
    they were. -/
theorem Phase.disks (phase : Phase t looks m) (adds : Bool) :
    (observe adds m).2.report.blockDevices =
      if looks = 1 ∧ (t.inGroup Transaction.instanceUpgrade && adds) then
        m.report.blockDevices ++
          [⟨.ofNat (m.report.blockDevices.length + 1), toString m.report.blockDevices.length, none⟩]
      else m.report.blockDevices := by
  match looks with
  | 0 => simp [observe_first adds phase.1 phase.2]
  | 1 => simp [observe_second adds phase.1 phase.2, CloudDouble.withUpgrade]
  | looks + 2 => simp [observe_idle adds phase.1]

/-- A machine is probed at any time. -/
theorem Phase.probed (phase : Phase t looks m) (unreachable : Nat) :
    Phase t looks { m with unreachable } := by
  match looks with
  | 0 => exact phase
  | 1 => exact phase
  | looks + 2 => exact phase

end Looks

/-! ## 3. Histories of any length -/

section Histories

variable {history : List Deed} {deed : Deed} {cid : UInt64} {t : Transaction} {looks : Nat}

theorem quiet_replay (fair : Fair history) :
    (replay history).failures .activeTransactions = none := by
  induction history with
  | nil => rfl
  | cons deed earlier ih => exact CloudDouble.after_quiet (ih fair.1) fair.2

theorem standing?_ordered (ordered : (replay history).order? deed = some (cid, t)) :
    standing? cid (deed :: history) = some (t, 0) := by
  simp [standing?, ordered]

theorem standing?_seen :
    standing? cid (.call (.activeTransactions cid) :: history) =
      (standing? cid history).map fun (t, looks) => (t, looks + 1) := by
  simp [standing?, CloudDouble.order?, Deed.looks]

theorem standing?_still (still : (replay history).Still cid deed) :
    standing? cid (deed :: history) = standing? cid history := by
  cases ordered : (replay history).order? deed with
  | none => simp [standing?, ordered, still.unseen]
  | some order =>
    obtain ⟨c, t⟩ := order
    have ne : c ≠ cid := by
      rintro rfl
      exact still.unordered t ordered
    simp [standing?, ordered, ne]

/-- What the history of an instance says of its machine. -/
def Mirrors : Option (Transaction × Nat) → Option Machine → Prop
  | none, m? => ∀ m, m? = some m → m.queued = none
  | some (t, looks), m? => ∃ m, m? = some m ∧ (∃ id group, t = pending id group) ∧ Phase t looks m

/-- **One deed** leaves a machine that mirrors what the history says of it. -/
theorem Mirrors.after {m m' : Option Machine} (mirrors : Mirrors (standing? cid history) m)
    (handles : (replay history).Handles cid deed m m') :
    Mirrors (standing? cid (deed :: history)) m' := by
  cases handles with
  | spared still =>
    rw [standing?_still still]
    exact mirrors
  | probed still kept =>
    rw [standing?_still still]
    cases standing : standing? cid history with
    | none =>
      rw [standing] at mirrors
      intro m' probed
      obtain ⟨m, found, rfl⟩ := Option.map_eq_some_iff.mp probed
      obtain ⟨unreachable, changed⟩ := kept m
      rw [changed]
      exact mirrors m found
    | some order =>
      rw [standing] at mirrors
      obtain ⟨m, rfl, underWay, phase⟩ := mirrors
      obtain ⟨unreachable, changed⟩ := kept m
      exact ⟨_, rfl, underWay, changed ▸ phase.probed unreachable⟩
  | entered still report =>
    rw [standing?_still still]
    -- Whatever was queued had a machine, and there was none.
    cases standing : standing? cid history with
    | none =>
      intro m entered
      cases entered
      rfl
    | some order =>
      rw [standing] at mirrors
      obtain ⟨m, absent, -⟩ := mirrors
      cases absent
  | seen look =>
    subst look
    rw [standing?_seen]
    cases standing : standing? cid history with
    | none =>
      rw [standing] at mirrors
      intro m' seen
      obtain ⟨m, found, rfl⟩ := Option.map_eq_some_iff.mp seen
      have idle : m.queued = none := mirrors m found
      rw [observe_idle _ idle]
      exact idle
    | some order =>
      rw [standing] at mirrors
      obtain ⟨m, rfl, underWay, phase⟩ := mirrors
      exact ⟨_, rfl, underWay, phase.next underWay _⟩
  | upgrading order ordered m =>
    obtain ⟨group, queued⟩ := CloudDouble.order?_pending ordered
    rw [standing?_ordered ordered]
    exact ⟨_, rfl, ⟨_, group, queued⟩, rfl, rfl⟩
  | reloading order ordered m =>
    obtain ⟨group, queued⟩ := CloudDouble.order?_pending ordered
    rw [standing?_ordered ordered]
    exact ⟨_, rfl, ⟨_, group, queued⟩, rfl, rfl⟩

/-- **Every history** leaves machines that mirror what it says of them. -/
theorem mirrors_replay (fair : Fair history) (cid : UInt64) :
    Mirrors (standing? cid history) ((replay history).machines.get? cid) := by
  induction history with
  | nil =>
    intro m found
    cases found
  | cons deed earlier ih =>
    exact (ih fair.1).after (CloudDouble.after_handles (quiet_replay fair.1) fair.2 cid)

/-- The answer to a look, by how often the transaction was looked at before. -/
theorem active_of_standing (fair : Fair history) (standing : standing? cid history = some (t, looks)) :
    (replay history).active cid = .ok (if looks = 0 then [t] else []) := by
  have mirrors := mirrors_replay fair cid
  rw [standing] at mirrors
  obtain ⟨m, found, -, phase⟩ := mirrors
  rw [CloudDouble.active_found (quiet_replay fair) found, phase.answer]

theorem active_of_idle (fair : Fair history) {disks : List BlockDevice}
    (idle : standing? cid history = none) (there : (replay history).disks? cid = some disks) :
    (replay history).active cid = .ok [] := by
  obtain ⟨m, found, -⟩ := Option.map_eq_some_iff.mp there
  have mirrors := mirrors_replay fair cid
  rw [idle] at mirrors
  rw [CloudDouble.active_found (quiet_replay fair) found, observe_idle _ (mirrors m found)]

theorem last?_of_standing (fair : Fair history) (standing : standing? cid history = some (t, looks))
    (twice : 2 ≤ looks) :
    (replay history).last? cid = some (some { t with status := some Transaction.complete }) := by
  have mirrors := mirrors_replay fair cid
  rw [standing] at mirrors
  obtain ⟨m, found, -, phase⟩ := mirrors
  obtain ⟨more, rfl⟩ := Nat.exists_eq_add_of_le' twice
  have ended : m.report.lastTransaction = some { t with status := some Transaction.complete } := phase.2
  simp [CloudDouble.last?, found, ended]

theorem disksAfter_still (still : (replay history).Still cid deed) (disks : List BlockDevice) :
    disksAfter cid history disks deed = disks := by
  unfold disksAfter
  split
  · rename_i c
    have ne : c ≠ cid := by
      rintro rfl
      have unseen := still.unseen
      simp [Deed.looks] at unseen
    simp [ne]
  · rename_i c stemcell
    by_cases same : c = cid
    · subst same
      have unordered : (replay history).order? (.call (.reloadOs c stemcell)) = none := by
        rw [Option.eq_none_iff_forall_ne_some]
        rintro ⟨c', t⟩ ordered
        cases CloudDouble.subject?_of_order ordered
        exact still.unordered t ordered
      have refused : ((replay history).answer (.reloadOs c stemcell)).1.isOk = false := by
        rw [CloudDouble.reload_isOk, unordered]
        rfl
      rw [refused]
      simp
    · simp [same]
  · rfl

theorem upgradeEnds_of_standing (standing : standing? cid history = some (t, looks)) :
    upgradeEnds cid history = true ↔
      looks = 1 ∧ (t.inGroup Transaction.instanceUpgrade && (replay history).upgradeAddsDevice) = true := by
  unfold upgradeEnds
  rw [standing]
  match looks with
  | 0 => simp
  | 1 => simp
  | looks + 2 => simp

theorem not_upgradeEnds (standing : standing? cid history = none) :
    upgradeEnds cid history = false := by
  unfold upgradeEnds
  rw [standing]

/-- **One deed** changes the disks of an instance at a second look or by a reload, or not at all. -/
theorem disks_handled {m : Machine} {m' : Option Machine}
    (mirrors : Mirrors (standing? cid history) (some m))
    (handles : (replay history).Handles cid deed (some m) m') :
    m'.map (fun m => m.report.blockDevices) =
      some (disksAfter cid history m.report.blockDevices deed) := by
  cases handles with
  | spared still =>
    rw [disksAfter_still still]
    rfl
  | probed still kept =>
    obtain ⟨unreachable, changed⟩ := kept m
    rw [disksAfter_still still, Option.map_some, Option.map_some, changed]
  | seen look =>
    subst look
    refine congrArg some ?_
    show (observe (replay history).upgradeAddsDevice m).2.report.blockDevices = _
    cases standing : standing? cid history with
    | none =>
      rw [standing] at mirrors
      rw [observe_idle _ (mirrors m rfl)]
      simp [disksAfter, not_upgradeEnds standing]
    | some order =>
      obtain ⟨t, looks⟩ := order
      rw [standing] at mirrors
      obtain ⟨m', same, -, phase⟩ := mirrors
      cases same
      rw [phase.disks]
      simp only [disksAfter, upgradeEnds_of_standing standing, true_and]
  | upgrading order ordered m =>
    subst order
    rfl
  | @reloading stemcell order t ordered m =>
    subst order
    have accepted : ((replay history).answer (.reloadOs cid stemcell)).1.isOk = true := by
      rw [CloudDouble.reload_isOk, ordered]
      rfl
    unfold disksAfter
    dsimp only
    rw [if_pos ⟨rfl, accepted⟩]
    rfl

theorem disks?_after (fair : Fair history) (admits : (replay history).Admits deed)
    {disks : List BlockDevice} (there : (replay history).disks? cid = some disks) :
    (replay (deed :: history)).disks? cid = some (disksAfter cid history disks deed) := by
  obtain ⟨m, found, rfl⟩ := Option.map_eq_some_iff.mp there
  have mirrors := mirrors_replay fair cid
  have handles := CloudDouble.after_handles (quiet_replay fair) admits cid
  rw [found] at mirrors handles
  exact disks_handled mirrors handles

/-- The numbers are given out in turn. -/
theorem next_replay (history : List Deed) :
    (replay history).nextTransaction = UInt64.ofNat (numbersGiven history + 1) := by
  induction history with
  | nil => rfl
  | cons deed earlier ih =>
    show ((replay earlier).after deed).nextTransaction = _
    unfold numbersGiven
    rcases CloudDouble.after_next (replay earlier) deed with same | counted
    · rw [if_pos same, same, ih, Nat.add_zero]
    · have ne : (replay earlier).nextTransaction + 1 ≠ (replay earlier).nextTransaction := by simp
      rw [counted, if_neg ne, ih, UInt64.ofNat_add (numbersGiven earlier + 1)]
      rfl

/-- A transaction that is queued has the number after those that were given out before. -/
theorem order_number (ordered : (replay history).order? deed = some (cid, t)) :
    t.id = UInt64.ofNat (numbersGiven (deed :: history)) ∧
      numbersGiven (deed :: history) = numbersGiven history + 1 := by
  have counted : numbersGiven (deed :: history) = numbersGiven history + 1 := by
    have next := CloudDouble.order_next ordered
    simp [numbersGiven, next]
  obtain ⟨group, rfl⟩ := CloudDouble.order?_pending ordered
  exact ⟨(next_replay history).trans (congrArg _ counted.symm), counted⟩

theorem numbersGiven_le (deed : Deed) (history : List Deed) :
    numbersGiven history ≤ numbersGiven (deed :: history) :=
  Nat.le_add_right _ _

/-- No transaction has a number that was not given out yet. -/
theorem id_le_numbersGiven {order : UInt64 × Transaction} (member : order ∈ orders history) :
    order.2.id.toNat ≤ numbersGiven history := by
  induction history with
  | nil => cases member
  | cons deed earlier ih =>
    have grows := numbersGiven_le deed earlier
    obtain ⟨c, t⟩ := order
    rcases List.mem_append.mp member with latest | before
    · have ordered : (replay earlier).order? deed = some (c, t) := Option.mem_toList.mp latest
      rw [(order_number ordered).1, UInt64.toNat_ofNat']
      exact Nat.mod_le _ _
    · have bound := ih before
      omega

theorem orders_increase (last : numbersGiven history < UInt64.size) :
    (orders history).Pairwise fun later earlier => earlier.2.id < later.2.id := by
  induction history with
  | nil => exact .nil
  | cons deed earlier ih =>
    have grows := numbersGiven_le deed earlier
    have before := ih (by omega)
    unfold orders
    cases ordered : (replay earlier).order? deed with
    | none => exact before
    | some order =>
      obtain ⟨c, t⟩ := order
      obtain ⟨number, counted⟩ := order_number ordered
      refine List.pairwise_cons.mpr ⟨fun first member => ?_, before⟩
      have bound := id_le_numbersGiven member
      -- The latest number has not run over: it is the count itself, which no earlier one exceeds.
      rw [number, UInt64.lt_iff_toNat_lt, UInt64.toNat_ofNat', Nat.mod_eq_of_lt last, counted]
      omega

theorem active_apart (fair : Fair history) (admits : (replay history).Admits deed)
    (apart : (replay history).subject? deed ≠ some cid) :
    (replay (deed :: history)).active cid = (replay history).active cid := by
  have quiet := quiet_replay fair
  have quiet' : (replay (deed :: history)).failures .activeTransactions = none :=
    quiet_replay ⟨fair, admits⟩
  have same : (replay (deed :: history)).machines.get? cid = (replay history).machines.get? cid :=
    CloudDouble.get?_after_of_ne apart
  cases found : (replay history).machines.get? cid with
  | none =>
    rw [CloudDouble.active_absent quiet found, CloudDouble.active_absent quiet' (same.trans found)]
  | some m =>
    rw [CloudDouble.active_found quiet found, CloudDouble.active_found quiet' (same.trans found)]
    exact congrArg Except.ok (CloudDouble.observe_finds _ _ m)

/-- What the double has kept to after a history, and keeps to in the next deed. -/
structure KeepsCourse (history : List Deed) : Prop where
  /-- A transaction has the number after all those that were given out before it. -/
  numbered : ∀ deed cid t, (replay history).order? deed = some (cid, t) →
    t.id = UInt64.ofNat (numbersGiven history + 1)
  /-- So the numbers increase, as long as a word holds them. -/
  increasing : numbersGiven history < UInt64.size →
    (orders history).Pairwise fun later earlier => earlier.2.id < later.2.id
  /-- The first look after an order finds its transaction and no other, and later ones find none. -/
  seen : ∀ cid t looks, standing? cid history = some (t, looks) →
    (replay history).active cid = .ok (if looks = 0 then [t] else [])
  /-- From the second look on, this transaction is the last one, and complete. -/
  completed : ∀ cid t looks, standing? cid history = some (t, looks) → 2 ≤ looks →
    (replay history).last? cid = some (some { t with status := some Transaction.complete })
  /-- An instance on which nothing was queued has nothing under way. -/
  idle : ∀ cid disks, standing? cid history = none → (replay history).disks? cid = some disks →
    (replay history).active cid = .ok []
  /-- The disks of an instance change where an upgrade ends and in a reload, and nowhere else. -/
  disks : ∀ deed cid disks, (replay history).Admits deed → (replay history).disks? cid = some disks →
    (replay (deed :: history)).disks? cid = some (disksAfter cid history disks deed)
  /-- A deed about another instance changes none of this. -/
  apart : ∀ deed cid, (replay history).Admits deed → (replay history).subject? deed ≠ some cid →
    standing? cid (deed :: history) = standing? cid history ∧
      (replay (deed :: history)).active cid = (replay history).active cid ∧
      (replay (deed :: history)).last? cid = (replay history).last? cid ∧
      (replay (deed :: history)).disks? cid = (replay history).disks? cid

/-- **Transactions keep their course** through every fair history. -/
theorem transactions_keep_course (fair : Fair history) : KeepsCourse history where
  numbered deed cid t ordered := by
    obtain ⟨number, counted⟩ := order_number ordered
    rw [number, counted]
  increasing := orders_increase
  seen _ _ _ := active_of_standing fair
  completed _ _ _ := last?_of_standing fair
  idle _ _ := active_of_idle fair
  disks _ _ _ admits := disks?_after fair admits
  apart deed cid admits apart := by
    have same : (replay (deed :: history)).machines.get? cid = (replay history).machines.get? cid :=
      CloudDouble.get?_after_of_ne apart
    refine ⟨standing?_still (CloudDouble.still_of_ne apart), active_apart fair admits apart, ?_, ?_⟩
    · exact congrArg (Option.map _) same
    · exact congrArg (Option.map _) same

end Histories

/-- Two instances, and an upgrade of the first one that a reload takes over before it is looked at twice.
    Then the second one is upgraded, and both are looked at until nothing is under way. -/
def Sample.takenOver : List Deed :=
  [.call (.activeTransactions 43), .call (.activeTransactions 42), .call (.activeTransactions 43),
    .call (.attachDisk 43 100), .call (.activeTransactions 42), .call (.reloadOs 42 ⟨7, "image"⟩),
    .call (.activeTransactions 42), .call (.attachDisk 42 100), .enroll { cid := 43 },
    .enroll { cid := 42 }]

/-- There the first instance has the two disks of a reload, and only the second one has a third. -/
theorem transactions_keep_course_taken_over :
    Fair Sample.takenOver ∧ KeepsCourse Sample.takenOver ∧
      (orders Sample.takenOver).map (fun order => (order.1, order.2.id)) = [(43, 5), (42, 4), (42, 3)] ∧
      ((replay Sample.takenOver).disks? 42).map List.length = some 2 ∧
      ((replay Sample.takenOver).disks? 43).map List.length = some 3 := by
  have fair : Fair Sample.takenOver :=
    ⟨⟨⟨⟨⟨⟨⟨⟨⟨⟨trivial, rfl⟩, rfl⟩, trivial⟩, trivial⟩, trivial⟩, trivial⟩, trivial⟩, trivial⟩, trivial⟩,
      trivial⟩
  exact ⟨fair, transactions_keep_course fair, by decide, by decide, by decide⟩

end InstancePool.Simulation
