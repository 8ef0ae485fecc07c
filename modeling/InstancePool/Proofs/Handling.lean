import InstancePool.Proofs.Footprint
import InstancePool.Proofs.Secrecy

/-!
# What is done to the cloud in memory

A double of the cloud can be called, and it can be told how to answer from then on. All that any of this
does to one instance is one of a few things: an order takes its place in the queue of the instance, a look
moves the queue on, a new instance comes in, and everything else leaves the queue and the disks alone.

* `Deed`, `CloudDouble.after`: what is done to the double, and the double after it;
* `order?`: the transaction that a deed queues; `subject?`: the instance that it is about;
* `Admits`: deeds that make no look fail and put no instance in the place of another one;
* `Handles`, `after_handles`: all that a deed does to the machine of an instance;
* `Keeps`, `after_next`, `order_next`: what calls leave alone, and the numbers of transactions.
-/

namespace InstancePool.Simulation

/-! ## 1. Deeds -/

/-- What is done to the double of the cloud: a call, or a change of what it holds or how it answers. -/
inductive Deed where
  | call (call : Cloud.Call)
  | enroll (i : Instance)
  /-- An operation is made to fail. -/
  | failing (op : Operation) (f : Fault)
  /-- The number of the orders for disks is fixed. -/
  | numberOrders (id : UInt64)
  /-- Orders for disks are placed and answered with a fault. -/
  | faultOrders (f : Fault)
  /-- Whether upgrades add a disk is settled. -/
  | addDevices (adds : Bool)

/-- How often a deed looks at the transactions of an instance. -/
def Deed.looks (cid : UInt64) : Deed → Nat
  | call (.activeTransactions c) => if c = cid then 1 else 0
  | _ => 0

namespace CloudDouble

/-- The double after a deed. -/
def after (d : CloudDouble) : Deed → CloudDouble
  | .call call => (d.answer call).2
  | .enroll i => d.enroll i
  | .failing op f => d.failing op f
  | .numberOrders id => { d with orderId := some id }
  | .faultOrders f => { d with orderFault := some f }
  | .addDevices adds => { d with upgradeAddsDevice := adds }

/-- The instance that a deed is about. -/
def subject? (d : CloudDouble) : Deed → Option UInt64
  | .call call => d.touched? call
  | .enroll i => some i.cid
  | _ => none

/-- A deed of a fair trial: it does not make looks at transactions fail, and puts no instance in the place
    of another one. -/
def Admits (d : CloudDouble) : Deed → Prop
  | .call (.createInstance _) =>
    d.failures .createInstance = none → d.machines.get? d.nextCid = none
  | .enroll i => d.machines.get? i.cid = none
  | .failing op _ => op ≠ .activeTransactions
  | _ => True

/-- The transaction that a deed queues, and its instance. An order for a disk queues one although it may
    be answered with a fault, and none if its number is zero. -/
def order? (d : CloudDouble) : Deed → Option (UInt64 × Transaction)
  | .call (.attachDisk cid _) =>
    if (d.failures .attachDisk).isNone ∧ d.orderId.getD (cid + 500000) ≠ 0 ∧
        (d.machines.get? cid).isSome then
      some (cid, pending d.nextTransaction Transaction.instanceUpgrade)
    else none
  | .call (.reloadOs cid _) =>
    if (d.failures .reloadOs).isNone ∧ (d.machines.get? cid).isSome then
      some (cid, pending d.nextTransaction Transaction.serviceSetup)
    else none
  | _ => none

/-- The transactions under way that an instance is said to have. -/
def active (d : CloudDouble) (cid : UInt64) : Except Fault (List Transaction) :=
  (d.answer (.activeTransactions cid)).1

/-- The last transaction in the report on an instance. -/
def last? (d : CloudDouble) (cid : UInt64) : Option (Option Transaction) :=
  (d.machines.get? cid).map fun m => m.report.lastTransaction

/-- The disks in the report on an instance. -/
def disks? (d : CloudDouble) (cid : UInt64) : Option (List BlockDevice) :=
  (d.machines.get? cid).map fun m => m.report.blockDevices

/-! ## 2. Parts of calls -/

section Parts

variable {d : CloudDouble} {cid : UInt64} {m : Machine}

/-- The machine that a change leaves. -/
theorem get?_change {α : Type} (d : CloudDouble) (cid : UInt64) (act : Machine → α × Machine) :
    (d.change cid act).2.machines.get? cid = (d.machines.get? cid).map fun m => (act m).2 := by
  cases found : d.machines.get? cid with
  | none => rw [change_absent found, found, Option.map_none]
  | some m => rw [change_found found, get?_put, Option.map_some]

theorem change_frame {α : Type} (d : CloudDouble) (cid : UInt64) (act : Machine → α × Machine) :
    ∃ machines, (d.change cid act).2 = { d with machines } := by
  unfold change
  split <;> exact ⟨_, rfl⟩

theorem withAddress_state (d : CloudDouble) (field : Instance → Option Address) (ip : Address) :
    (d.withAddress field ip).2 = d := by
  unfold withAddress
  split <;> rfl

theorem keepSettings_frame (d : CloudDouble) (cid : UInt64) (s : Agent.Settings) :
    ∃ settings, (d.keepSettings cid s).2 = { d with settings } := by
  unfold keepSettings ask
  cases d.machines.get? cid <;> exact ⟨_, rfl⟩

/-- A machine with a transaction in its queue. -/
def queueing (t : Transaction) (m : Machine) : Machine := { m with queued := some t, observed := false }

/-- A machine without what a reload wipes. -/
def wiped (m : Machine) : Machine :=
  { m with report := { m.report with lastTransaction := none, blockDevices := baselineDevices } }

theorem orderDisk_unplaced (unplaced : d.orderId.getD (cid + 500000) = 0) :
    d.orderDisk cid = (.ok 0, d) := by
  simp [orderDisk, unplaced]

/-- An order for a disk leaves what queueing it leaves, whatever it is answered with. -/
theorem orderDisk_placed (placed : d.orderId.getD (cid + 500000) ≠ 0) :
    (d.orderDisk cid).2 = (d.enqueue cid Transaction.instanceUpgrade).2 := by
  unfold orderDisk
  rw [if_neg placed]
  cases found : d.machines.get? cid with
  | none => rw [enqueue_absent found]
  | some m =>
    rw [enqueue_found found]
    dsimp only
    split <;> rfl

theorem get?_enqueue (d : CloudDouble) (cid : UInt64) (group : String) :
    (d.enqueue cid group).2.machines.get? cid =
      (d.machines.get? cid).map (queueing (pending d.nextTransaction group)) :=
  get?_change _ _ _

theorem get?_reinstall (d : CloudDouble) (cid : UInt64) :
    (d.reinstall cid).2.machines.get? cid = (d.machines.get? cid).map fun m =>
      queueing (pending d.nextTransaction Transaction.serviceSetup) (wiped m) := by
  unfold reinstall
  cases found : d.machines.get? cid with
  | none =>
    rw [enqueue_absent found]
    exact found
  | some m =>
    rw [enqueue_found found]
    dsimp only
    rw [get?_change, get?_put]
    rfl

theorem enqueue_frame (d : CloudDouble) (cid : UInt64) (group : String) :
    ∃ machines, (d.enqueue cid group).2 =
      { d with machines, nextTransaction := d.nextTransaction + 1 } :=
  change_frame _ _ _

theorem reinstall_frame (d : CloudDouble) (cid : UInt64) :
    ∃ machines, (d.reinstall cid).2 =
      { d with machines, nextTransaction := d.nextTransaction + 1 } := by
  unfold reinstall
  cases found : d.machines.get? cid with
  | none =>
    rw [enqueue_absent found]
    exact ⟨_, rfl⟩
  | some m =>
    rw [enqueue_found found]
    exact change_frame _ _ _

end Parts

/-! ## 3. One deed -/

section Deeds

variable {d : CloudDouble} {deed : Deed} {call : Cloud.Call} {cid : UInt64} {t : Transaction}

theorem answer_machines (d : CloudDouble) (call : Cloud.Call) :
    (d.answer call).2.machines = (d.told call).2.machines := by
  rw [answer_eq]
  rfl

theorem told_failing {f : Fault} (failing : d.failures call.operation = some f) :
    d.told call = (.error f, d) := by
  unfold told
  rw [failing]

theorem told_unfailed (unfailed : d.failures call.operation = none) :
    d.told call = d.perform call := by
  unfold told
  rw [unfailed]

/-- The two ways to queue a transaction. It is pending under the next number. -/
theorem order?_cases (ordered : d.order? deed = some (cid, t)) :
    (∃ sizeGb, deed = .call (.attachDisk cid sizeGb) ∧ d.failures .attachDisk = none ∧
        d.orderId.getD (cid + 500000) ≠ 0 ∧
        t = pending d.nextTransaction Transaction.instanceUpgrade) ∨
      ∃ stemcell, deed = .call (.reloadOs cid stemcell) ∧ d.failures .reloadOs = none ∧
        t = pending d.nextTransaction Transaction.serviceSetup := by
  unfold order? at ordered
  split at ordered
  · rename_i c sizeGb
    split at ordered
    · rename_i held
      cases ordered
      exact .inl ⟨sizeGb, rfl, Option.isNone_iff_eq_none.mp held.1, held.2.1, rfl⟩
    · cases ordered
  · rename_i c stemcell
    split at ordered
    · rename_i held
      cases ordered
      exact .inr ⟨stemcell, rfl, Option.isNone_iff_eq_none.mp held.1, rfl⟩
    · cases ordered
  · cases ordered

theorem order?_pending (ordered : d.order? deed = some (cid, t)) :
    ∃ group, t = pending d.nextTransaction group := by
  rcases order?_cases ordered with ⟨_, -, -, -, queued⟩ | ⟨_, -, -, queued⟩
  · exact ⟨_, queued⟩
  · exact ⟨_, queued⟩

theorem subject?_of_order (ordered : d.order? deed = some (cid, t)) :
    d.subject? deed = some cid := by
  rcases order?_cases ordered with ⟨_, rfl, -⟩ | ⟨_, rfl, -⟩
  · rfl
  · rfl

theorem subject?_of_looks (looked : deed.looks cid ≠ 0) : d.subject? deed = some cid := by
  unfold Deed.looks at looked
  split at looked
  · rename_i c
    have same : c = cid := by
      by_contra ne
      exact looked (if_neg ne)
    exact congrArg some same
  · exact absurd rfl looked

/-- A deed that queues no transaction on an instance and does not look at any of it. -/
structure Still (d : CloudDouble) (cid : UInt64) (deed : Deed) : Prop where
  unordered : ∀ t, d.order? deed ≠ some (cid, t)
  unseen : deed.looks cid = 0

/-- What a deed does to the machine of an instance. An order finds its machine there, since it is none
    otherwise; anything else may come to a number that no instance has. -/
inductive Handles (d : CloudDouble) (cid : UInt64) (deed : Deed) :
    Option Machine → Option Machine → Prop where
  | spared (still : d.Still cid deed) (m : Option Machine) : Handles d cid deed m m
  /-- What probes and reboots change is no part of a transaction. -/
  | probed (still : d.Still cid deed) {change : Machine → Machine}
      (kept : ∀ m, ∃ unreachable, change m = { m with unreachable }) (m : Option Machine) :
      Handles d cid deed m (m.map change)
  /-- An instance comes in where there was none. -/
  | entered (still : d.Still cid deed) (report : Instance) : Handles d cid deed none (some { report })
  | seen (look : deed = .call (.activeTransactions cid)) (m : Option Machine) :
      Handles d cid deed m (m.map fun m => (observe d.upgradeAddsDevice m).2)
  /-- Whatever was queued before gives way. -/
  | upgrading {sizeGb : UInt64} (order : deed = .call (.attachDisk cid sizeGb)) {t : Transaction}
      (ordered : d.order? deed = some (cid, t)) (m : Machine) :
      Handles d cid deed (some m) (some (queueing t m))
  | reloading {stemcell : Stemcell} (order : deed = .call (.reloadOs cid stemcell)) {t : Transaction}
      (ordered : d.order? deed = some (cid, t)) (m : Machine) :
      Handles d cid deed (some m) (some (queueing t (wiped m)))

/-- A deed about another instance, or about none, leaves a machine as it is. -/
theorem get?_after_of_ne (apart : d.subject? deed ≠ some cid) :
    (d.after deed).machines.get? cid = d.machines.get? cid := by
  cases deed with
  | enroll i => exact Dict.get?_insert_of_ne _ _ fun same => apart (congrArg some same.symm)
  | call call =>
    show (d.answer call).2.machines.get? cid = d.machines.get? cid
    cases touched : d.touched? call with
    | none =>
      -- No instance is touched, so it holds of any other one that this one is not touched.
      have own : ∀ other, d.touched? call = some other → other = cid + 1 :=
        fun other same => nomatch touched.symm.trans same
      have ne : cid ≠ cid + 1 := by simp
      exact congrArg Prod.fst ((answer_touches own).file ne)
    | some c =>
      have own : ∀ other, d.touched? call = some other → other = c :=
        fun other same => Option.some.inj (same.symm.trans touched)
      have ne : cid ≠ c := by
        rintro rfl
        exact apart touched
      exact congrArg Prod.fst ((answer_touches own).file ne)
  | _ => rfl

theorem still_of_ne (apart : d.subject? deed ≠ some cid) : d.Still cid deed where
  unordered _ ordered := apart (subject?_of_order ordered)
  unseen := by
    by_contra looked
    exact apart (subject?_of_looks looked)

/-- A call that is made to fail does nothing. -/
theorem still_of_failing (quiet : d.failures .activeTransactions = none) {f : Fault}
    (failing : d.failures call.operation = some f) : d.Still cid (.call call) where
  unordered := by
    cases call <;> simp [order?, failing]
  unseen := by
    cases call with
    | activeTransactions c => cases quiet.symm.trans failing
    | _ => rfl

theorem still_of_none (unordered : d.order? deed = none) (unseen : deed.looks cid = 0) :
    d.Still cid deed where
  unordered _ ordered := nomatch unordered.symm.trans ordered
  unseen := unseen

/-- A call that is not made to fail, and what it does to the instance that it may change. -/
theorem perform_handles (admits : d.Admits (.call call)) (unfailed : d.failures call.operation = none)
    (about : d.touched? call = some cid) :
    Handles d cid (.call call) (d.machines.get? cid) ((d.perform call).2.machines.get? cid) := by
  have asked : ∀ {α : Type} (answer : Machine → α), d.Still cid (.call call) →
      Handles d cid (.call call) (d.machines.get? cid) ((d.ask cid answer).2.machines.get? cid) := by
    intro α answer still
    rw [ask_state]
    exact .spared still _
  cases call with
  | createInstance template =>
    obtain rfl : d.nextCid = cid := Option.some.inj about
    have made : (d.create template).2.machines.get? d.nextCid =
        some { report := built d.nextCid d.nextTransaction template } := Dict.get?_insert_self _ _ _
    show Handles d _ _ _ ((d.create template).2.machines.get? d.nextCid)
    rw [made, admits unfailed]
    exact .entered (still_of_none rfl rfl) _
  | activeTransactions c =>
    obtain rfl : c = cid := Option.some.inj about
    show Handles d _ _ _ ((d.change c (observe d.upgradeAddsDevice)).2.machines.get? c)
    rw [get?_change]
    exact .seen rfl _
  | pingable c =>
    obtain rfl : c = cid := Option.some.inj about
    show Handles d _ _ _ ((d.change c probe).2.machines.get? c)
    rw [get?_change]
    exact .probed (still_of_none rfl rfl) (fun m => ⟨_, rfl⟩) _
  | reboot c =>
    obtain rfl : c = cid := Option.some.inj about
    show Handles d _ _ _ ((d.change c fun m => ((), { m with unreachable := 1 })).2.machines.get? c)
    rw [get?_change]
    exact .probed (still_of_none rfl rfl) (fun m => ⟨_, rfl⟩) _
  | attachDisk c sizeGb =>
    obtain rfl : c = cid := Option.some.inj about
    show Handles d _ _ _ ((d.orderDisk c).2.machines.get? c)
    by_cases unplaced : d.orderId.getD (c + 500000) = 0
    · rw [orderDisk_unplaced unplaced]
      exact .spared (still_of_none (by simp [order?, unplaced]) rfl) _
    · rw [orderDisk_placed unplaced, get?_enqueue]
      cases found : d.machines.get? c with
      | none => exact .spared (still_of_none (by simp [order?, found]) rfl) _
      | some m => exact .upgrading rfl (by simp [order?, unfailed, unplaced, found]) m
  | reloadOs c stemcell =>
    obtain rfl : c = cid := Option.some.inj about
    show Handles d _ _ _ ((d.reinstall c).2.machines.get? c)
    rw [get?_reinstall]
    cases found : d.machines.get? c with
    | none => exact .spared (still_of_none (by simp [order?, found]) rfl) _
    | some m => exact .reloading rfl (by simp [order?, unfailed, found]) m
  | pushSettings c settings =>
    show Handles d _ _ _ ((d.keepSettings c settings).2.machines.get? cid)
    obtain ⟨settings', kept⟩ := keepSettings_frame d c settings
    rw [kept]
    exact .spared (still_of_none rfl rfl) _
  | instanceByPrivateIp ip => cases about
  | instanceByPublicIp ip => cases about
  | getInstance c | lastTransaction c | powerState c | blockDevices c | setCredential c _ =>
    obtain rfl : c = cid := Option.some.inj about
    exact asked _ (still_of_none rfl rfl)

/-- **All that a deed does to a machine.** -/
theorem after_handles (quiet : d.failures .activeTransactions = none) (admits : d.Admits deed)
    (cid : UInt64) :
    Handles d cid deed (d.machines.get? cid) ((d.after deed).machines.get? cid) := by
  by_cases about : d.subject? deed = some cid
  · cases deed with
    | call call =>
      show Handles d cid _ _ ((d.answer call).2.machines.get? cid)
      rw [answer_machines]
      cases failing : d.failures call.operation with
      | some f =>
        rw [told_failing failing]
        exact .spared (still_of_failing quiet failing) _
      | none =>
        rw [told_unfailed failing]
        exact perform_handles admits failing about
    | enroll i =>
      obtain rfl : i.cid = cid := Option.some.inj about
      have absent : d.machines.get? i.cid = none := admits
      have entered : ∃ report, (d.after (.enroll i)).machines.get? i.cid = some { report } :=
        ⟨_, Dict.get?_insert_self _ _ _⟩
      obtain ⟨report, entered⟩ := entered
      rw [absent, entered]
      exact .entered (still_of_none rfl rfl) report
    | _ => cases about
  · rw [get?_after_of_ne about]
    exact .spared (still_of_ne about) _

/-- What a call leaves as it is, and the number of the next transaction, which is as before or the one
    after it. -/
structure Keeps (d d' : CloudDouble) : Prop where
  failures : d'.failures = d.failures
  next : d'.nextTransaction = d.nextTransaction ∨ d'.nextTransaction = d.nextTransaction + 1

theorem Keeps.refl (d : CloudDouble) : Keeps d d := ⟨rfl, .inl rfl⟩

theorem keeps_ask {α : Type} (d : CloudDouble) (cid : UInt64) (answer : Machine → α) :
    Keeps d (d.ask cid answer).2 := by
  rw [ask_state]
  exact .refl d

theorem keeps_change {α : Type} (d : CloudDouble) (cid : UInt64) (act : Machine → α × Machine) :
    Keeps d (d.change cid act).2 := by
  obtain ⟨machines, changed⟩ := change_frame d cid act
  rw [changed]
  exact ⟨rfl, .inl rfl⟩

theorem keeps_perform (d : CloudDouble) (call : Cloud.Call) : Keeps d (d.perform call).2 := by
  cases call with
  | createInstance template => exact ⟨rfl, .inr rfl⟩
  | activeTransactions c => exact keeps_change d c _
  | pingable c => exact keeps_change d c probe
  | reboot c => exact keeps_change d c fun m => ((), { m with unreachable := 1 })
  | attachDisk c sizeGb =>
    show Keeps d (d.orderDisk c).2
    by_cases unplaced : d.orderId.getD (c + 500000) = 0
    · rw [orderDisk_unplaced unplaced]
      exact .refl d
    · obtain ⟨machines, queued⟩ := enqueue_frame d c Transaction.instanceUpgrade
      rw [orderDisk_placed unplaced, queued]
      exact ⟨rfl, .inr rfl⟩
  | reloadOs c stemcell =>
    obtain ⟨machines, reloaded⟩ := reinstall_frame d c
    show Keeps d (d.reinstall c).2
    rw [reloaded]
    exact ⟨rfl, .inr rfl⟩
  | pushSettings c settings =>
    obtain ⟨settings', kept⟩ := keepSettings_frame d c settings
    show Keeps d (d.keepSettings c settings).2
    rw [kept]
    exact ⟨rfl, .inl rfl⟩
  | instanceByPrivateIp ip | instanceByPublicIp ip =>
    show Keeps d (d.withAddress _ ip).2
    rw [withAddress_state]
    exact .refl d
  | getInstance c | lastTransaction c | powerState c | blockDevices c | setCredential c _ =>
    exact keeps_ask d c _

theorem keeps_answer (d : CloudDouble) (call : Cloud.Call) : Keeps d (d.answer call).2 := by
  have told : Keeps d (d.told call).2 := by
    cases failing : d.failures call.operation with
    | some f =>
      rw [told_failing failing]
      exact .refl d
    | none =>
      rw [told_unfailed failing]
      exact keeps_perform d call
  rw [answer_eq]
  exact ⟨told.failures, told.next⟩

theorem after_next (d : CloudDouble) (deed : Deed) :
    (d.after deed).nextTransaction = d.nextTransaction ∨
      (d.after deed).nextTransaction = d.nextTransaction + 1 := by
  cases deed with
  | call call => exact (keeps_answer d call).next
  | enroll i =>
    show d.nextTransaction + (if i.lastTransaction.isNone then 1 else 0) = _ ∨ _
    by_cases untold : i.lastTransaction.isNone
    · exact .inr (by simp [after, enroll, untold])
    · exact .inl (by simp [untold])
  | _ => exact .inl rfl

/-- A look at transactions keeps its answer in a fair trial. -/
theorem after_quiet (quiet : d.failures .activeTransactions = none) (admits : d.Admits deed) :
    (d.after deed).failures .activeTransactions = none := by
  cases deed with
  | call call => exact (congrFun (keeps_answer d call).failures _).trans quiet
  | failing op f => exact (if_neg (Ne.symm admits)).trans quiet
  | _ => exact quiet

/-- The number of a transaction that is queued is given out. -/
theorem order_next (ordered : d.order? deed = some (cid, t)) :
    (d.after deed).nextTransaction = d.nextTransaction + 1 := by
  rcases order?_cases ordered with ⟨sizeGb, rfl, unfailed, placed, -⟩ | ⟨stemcell, rfl, unfailed, -⟩
  · obtain ⟨machines, queued⟩ := enqueue_frame d cid Transaction.instanceUpgrade
    show (d.answer (.attachDisk cid sizeGb)).2.nextTransaction = _
    rw [answer_eq, told_unfailed unfailed]
    show (d.orderDisk cid).2.nextTransaction = _
    rw [orderDisk_placed placed, queued]
  · obtain ⟨machines, reloaded⟩ := reinstall_frame d cid
    show (d.answer (.reloadOs cid stemcell)).2.nextTransaction = _
    rw [answer_eq, told_unfailed unfailed]
    show (d.reinstall cid).2.nextTransaction = _
    rw [reloaded]

/-- A reload is answered well exactly where it queues a transaction. -/
theorem reload_isOk (d : CloudDouble) (cid : UInt64) (stemcell : Stemcell) :
    (d.answer (.reloadOs cid stemcell)).1.isOk =
      (d.order? (.call (.reloadOs cid stemcell))).isSome := by
  rw [answer_eq]
  cases failing : d.failures .reloadOs with
  | some f =>
    rw [told_failing failing]
    simp [order?, failing, Except.isOk, Except.toBool]
  | none =>
    rw [told_unfailed failing]
    show (d.reinstall cid).1.isOk = _
    unfold reinstall
    cases found : d.machines.get? cid with
    | none =>
      rw [enqueue_absent found]
      simp [order?, found, Except.isOk, Except.toBool]
    | some m =>
      rw [enqueue_found found]
      dsimp only
      rw [change_found (get?_put _ _ _)]
      simp [order?, found, failing, Except.isOk, Except.toBool]

theorem active_eq (quiet : d.failures .activeTransactions = none) :
    d.active cid = (d.change cid (observe d.upgradeAddsDevice)).1 := by
  unfold active
  rw [answer_eq, told_unfailed quiet]
  rfl

theorem active_found {m : Machine} (quiet : d.failures .activeTransactions = none)
    (found : d.machines.get? cid = some m) :
    d.active cid = .ok (observe d.upgradeAddsDevice m).1 := by
  rw [active_eq quiet, change_found found]

theorem active_absent (quiet : d.failures .activeTransactions = none)
    (absent : d.machines.get? cid = none) : d.active cid = .error (unknown cid) := by
  rw [active_eq quiet, change_absent absent]

/-- What a look finds does not depend on what an upgrade does when it ends. -/
theorem observe_finds (adds adds' : Bool) (m : Machine) : (observe adds m).1 = (observe adds' m).1 := by
  unfold observe
  cases m.queued with
  | none => rfl
  | some t => by_cases seen : m.observed <;> simp [seen]

end Deeds

end CloudDouble

end InstancePool.Simulation
