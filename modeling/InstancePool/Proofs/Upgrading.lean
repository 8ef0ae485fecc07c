import InstancePool.Proofs.Observing

/-!
# Orders for an extra disk

An extra disk is there once everything has been seen that it takes: the instance idle and set up before the
order, the upgrade under way, ended and complete, the instance on again, and enough disks. This file says
what becomes of an order in every case.

* `Disk.Notice`, `Disk.isPriceNotice_iff`, `Disk.Placed`: which answers to an order mean that it is placed;
* `Disk.count`, `Disk.attach_eq`, `Disk.finish_eq`: the parts of an attachment;
* `Disk.finish_course`, `Disk.finish_ok`, `Disk.finish_few`, `Disk.finish_failed`: what a placed order comes
  to;
* `Disk.Outcome`, `Disk.Attached`, `Disk.attached_iff_observed`: the whole of it.
-/

namespace InstancePool.Disk

variable {σ : Type}

/-! ## 1. Answers to an order -/

/-- A fault that gives notice of a price: its own message says so, whatever the case of the letters. -/
def Notice (f : Fault) : Prop := priceNotice.toList <:+: (Text.lower f.message).toList

theorem occursIn_iff {part text : List Char} : occursIn part text = true ↔ part <:+: text := by
  induction text with
  | nil => rw [occursIn, List.isEmpty_iff, List.infix_nil]
  | cons c cs ih => rw [occursIn, Bool.or_eq_true, List.isPrefixOf_iff_prefix, ih, List.infix_cons_iff]

theorem isPriceNotice_iff {f : Fault} : isPriceNotice f = true ↔ Notice f := occursIn_iff

/-- Whether an order is placed that is answered so. -/
def Placed : Except Fault UInt64 → Prop
  | .ok number => number ≠ 0
  | .error f => Notice f

/-- What is said of an order that fails. -/
def refusal (cid sizeGb : UInt64) (f : Fault) : Fault :=
  f.inContext s!"ordering {sizeGb} GB ephemeral disk for instance {cid}"

/-- Whether there is an upgrade to wait for, according to the answer to an order. -/
def verdict (cid sizeGb : UInt64) : Except Fault UInt64 → Except Fault Bool
  | .ok number => .ok (number ≠ 0)
  | .error f => if isPriceNotice f then .ok true else .error (refusal cid sizeGb f)

theorem verdict_placed (cid sizeGb : UInt64) {reply : Except Fault UInt64} (placed : Placed reply) :
    verdict cid sizeGb reply = .ok true := by
  cases reply with
  | ok number => exact congrArg Except.ok (decide_eq_true placed)
  | error f => exact if_pos (isPriceNotice_iff.mpr placed)

theorem verdict_refused (cid sizeGb : UInt64) {f : Fault} (refused : ¬Notice f) :
    verdict cid sizeGb (.error f) = .error (refusal cid sizeGb f) :=
  if_neg (mt isPriceNotice_iff.mp refused)

/-! ## 2. The parts of an attachment -/

/-- What is said of an instance that has too few disks. -/
def missing (cid : UInt64) (count : Nat) : Fault :=
  .new .resourceExhausted
    s!"instance {cid} has {count} block devices after disk upgrade, expected at least {devicesAfterUpgrade}"

/-- Lists the disks, and counts them. -/
def count (cid : UInt64) : Workflow Unit :=
  ((Workflow.cloud (.blockDevices cid)).inContext s!"listing block devices of instance {cid}").bind
    fun devices =>
      if devices.length < devicesAfterUpgrade then .fail (missing cid devices.length) else .done ()

theorem finish_eq (waits : Waits) (cid : UInt64) :
    finish waits cid = awaitEach waits cid (count cid)
      [(.busy, "waiting for disk upgrade to start"), (.idle, "waiting for disk upgrade to finish"),
        (.completed [Transaction.cloudMigrate, Transaction.instanceUpgrade],
          "waiting for disk upgrade transaction"),
        (.power .running, "waiting for instance to power on after disk upgrade")] := rfl

/-- What is left of an attachment when the instance is ready. -/
def orderAndFinish (waits : Waits) (cid sizeGb : UInt64) : Workflow Unit :=
  (order cid sizeGb).bind fun placed => if placed then finish waits cid else .done ()

theorem attach_eq (waits : Waits) (cid sizeGb : UInt64) :
    attach waits cid sizeGb = awaitEach waits cid (orderAndFinish waits cid sizeGb)
      [(.idle, "waiting for idle instance before disk upgrade"),
        (.completed [Transaction.serviceSetup], "waiting for instance setup before disk upgrade")] := rfl

section Parts

variable {answer : Answering (Timed Services) σ} {cid sizeGb : UInt64} {s : σ}

/-- An order is one call, -/
theorem order_eq : order cid sizeGb =
    .ask (Cloud.Call.attachDisk cid sizeGb).query fun reply => .ofExcept (verdict cid sizeGb reply) := by
  refine congrArg (Program.ask _) (funext fun reply => ?_)
  cases reply with
  | ok number => rfl
  | error f =>
    cases placed : isPriceNotice f with
    | true => simp [verdict, placed, Program.ofExcept, Program.attempt]
    | false => simp [verdict, placed, Program.ofExcept, Program.attempt, refusal]

theorem trace_order :
    let e := answer.exchange (Cloud.Call.attachDisk cid sizeGb).query s
    (order cid sizeGb).trace answer s = ⟨verdict cid sizeGb e.reply, e.after, [e]⟩ := by
  rw [order_eq, Program.trace_ask, Program.trace_ofExcept]
  rfl

/-- What is made of a list of the disks. -/
def counted (cid : UInt64) : Except Fault (List BlockDevice) → Except Fault Unit
  | .error f => .error (f.inContext s!"listing block devices of instance {cid}")
  | .ok devices =>
    if devices.length < devicesAfterUpgrade then .error (missing cid devices.length) else .ok ()

/-- And so is a count. -/
theorem count_eq : count cid =
    .ask (Cloud.Call.blockDevices cid).query fun reply => .ofExcept (counted cid reply) := by
  refine congrArg (Program.ask _) (funext fun reply => ?_)
  cases reply with
  | ok devices => exact (apply_ite Program.ofExcept (devices.length < devicesAfterUpgrade)
    (.error (missing cid devices.length)) (.ok ())).symm
  | error f => rfl

theorem trace_count :
    let e := answer.exchange (Cloud.Call.blockDevices cid).query s
    (count cid).trace answer s = ⟨counted cid e.reply, e.after, [e]⟩ := by
  rw [count_eq, Program.trace_ask, Program.trace_ofExcept]
  rfl

end Parts

/-! ## 3. After an order -/

/-- What is to be seen before an order. -/
def ready : List Condition := [.idle, .completed [Transaction.serviceSetup]]

/-- What is to be seen after one that is placed. -/
def upgraded : List Condition :=
  [.busy, .idle, .completed [Transaction.cloudMigrate, Transaction.instanceUpgrade], .power .running]

/-- After an order, some exchanges see all that is to be seen, and then list the disks, once, with this
    reply. -/
def Lists (clock : σ → Duration) (timeout : Duration) (cid : UInt64) (begun : Duration)
    (later : List (Exchange (Timed Services) σ)) (reply : Except Fault (List BlockDevice)) : Prop :=
  ∃ es e, later = es ++ [e] ∧ Observed clock timeout cid begun upgraded es (clock e.before) ∧
    e.heard = ⟨(Cloud.Call.blockDevices cid).query, reply⟩

section Finish

variable {answer : Answering (Timed Services) σ} {clock : σ → Duration} {waits : Waits} {cid : UInt64}
  {s : σ}

/-- **What a placed order comes to**: everything is seen, and the disks are counted, or it stalls. -/
theorem finish_course (positive : 0 < waits.interval)
    (steady : ∀ e ∈ ((finish waits cid).trace answer s).exchanges, Steady clock e) :
    Stalls clock waits.timeout cid (clock s) upgraded ((finish waits cid).trace answer s) ∨
    ∃ es s', Observed clock waits.timeout cid (clock s) upgraded es (clock s') ∧
      let e := answer.exchange (Cloud.Call.blockDevices cid).query s'
      (finish waits cid).trace answer s = ⟨counted cid e.reply, e.after, es ++ [e]⟩ := by
  rw [finish_eq] at steady ⊢
  have course := trace_awaitEach positive (by simp) steady
  refine course.imp_right fun ⟨es, s', observed, went⟩ => ⟨es, s', observed, ?_⟩
  rw [went, trace_count]
  rfl

/-- A row of waits that breaks off does not end with a list of the disks. -/
theorem stalled_not_lists {timeout begun : Duration} {cs : List Condition}
    {es : List (Exchange (Timed Services) σ)} {f : Fault} (stalled : Stalled clock timeout cid begun cs es f)
    {devices : List BlockDevice} : ¬Lists clock timeout cid begun es (.ok devices) := by
  rintro ⟨es, e, split, -, lists⟩
  obtain ⟨earlier, last, split', ends⟩ := stalled.last
  obtain ⟨-, same⟩ := List.append_inj' (split.symm.trans split') rfl
  cases same
  rcases ends with silent | ⟨f, failed⟩
  · have asked : e.query = (Cloud.Call.blockDevices cid).query := congrArg Heard.query lists
    rw [asked] at silent
    cases silent
  · have answered : faultOf? e.heard.query e.heard.reply = none := by
      rw [lists]
      rfl
    cases answered.symm.trans failed

/-- What is listed after all was seen. -/
theorem lists_iff {timeout begun : Duration} {es : List (Exchange (Timed Services) σ)} {s' : σ}
    (observed : Observed clock timeout cid begun upgraded es (clock s'))
    {reply : Except Fault (List BlockDevice)} :
    let e := answer.exchange (Cloud.Call.blockDevices cid).query s'
    Lists clock timeout cid begun (es ++ [e]) reply ↔ e.reply = reply := by
  intro e
  constructor
  · rintro ⟨es', e', split, -, lists⟩
    obtain ⟨-, same⟩ := List.append_inj' split rfl
    cases same
    exact eq_of_heq (Heard.mk.inj lists).2
  · intro answered
    exact ⟨es, e, rfl, observed, congrArg (Heard.mk _) answered⟩

theorem counted_few {devices : List BlockDevice} (few : devices.length < 3) :
    counted cid (.ok devices) = .error (missing cid devices.length) :=
  if_pos few

theorem counted_enough {devices : List BlockDevice} (enough : 3 ≤ devices.length) :
    counted cid (.ok devices) = .ok () :=
  if_neg (Nat.not_lt_of_le enough)

theorem counted_ok {reply : Except Fault (List BlockDevice)} :
    counted cid reply = .ok () ↔ ∃ devices, reply = .ok devices ∧ 3 ≤ devices.length := by
  cases reply with
  | error f => exact ⟨nofun, fun ⟨_, ok, _⟩ => nomatch ok⟩
  | ok devices =>
    rcases Nat.lt_or_ge devices.length 3 with few | enough
    · rw [counted_few few]
      refine iff_of_false nofun ?_
      rintro ⟨_, same, enough⟩
      cases same
      exact absurd enough (Nat.not_le_of_lt few)
    · exact iff_of_true (counted_enough enough) ⟨devices, rfl, enough⟩

/-- **After a placed order all ends well if and only if everything is seen**, and there are enough disks. -/
theorem finish_ok (positive : 0 < waits.interval)
    (steady : ∀ e ∈ ((finish waits cid).trace answer s).exchanges, Steady clock e) :
    let t := (finish waits cid).trace answer s
    t.result = .ok () ↔ (∀ e ∈ t.exchanges, faultOf? e.query e.reply = none) ∧
      ∃ devices, Lists clock waits.timeout cid (clock s) t.exchanges (.ok devices) ∧
        3 ≤ devices.length := by
  intro t
  rcases finish_course positive steady with ⟨f, g, stalled, failed, -⟩ | ⟨es, s', observed, ended⟩
  · refine iff_of_false (fun ok => ?_) fun ⟨_, devices, lists, _⟩ => stalled_not_lists stalled lists
    cases failed.symm.trans ok
  · have ended : t = _ := ended
    rw [ended]
    dsimp only
    rw [counted_ok]
    constructor
    · rintro ⟨devices, answered, enough⟩
      refine ⟨List.forall_mem_append.mpr ⟨observed.calm (by decide), ?_⟩, devices,
        (lists_iff observed).mpr answered, enough⟩
      exact List.forall_mem_singleton.mpr (faultOf?_eq_none.mpr ⟨devices, answered⟩)
    · rintro ⟨-, devices, lists, enough⟩
      exact ⟨devices, (lists_iff observed).mp lists, enough⟩

theorem finish_few (positive : 0 < waits.interval)
    (steady : ∀ e ∈ ((finish waits cid).trace answer s).exchanges, Steady clock e)
    {devices : List BlockDevice} :
    let t := (finish waits cid).trace answer s
    Lists clock waits.timeout cid (clock s) t.exchanges (.ok devices) → devices.length < 3 →
      t.result = .error (missing cid devices.length) := by
  intro t lists few
  rcases finish_course positive steady with ⟨f, g, stalled, -⟩ | ⟨es, s', observed, ended⟩
  · exact absurd lists (stalled_not_lists stalled)
  · have ended : t = _ := ended
    rw [ended] at lists ⊢
    have answered := (lists_iff observed).mp lists
    exact (congrArg (counted cid) answered).trans (counted_few few)

theorem finish_failed (positive : 0 < waits.interval)
    (steady : ∀ e ∈ ((finish waits cid).trace answer s).exchanges, Steady clock e) {g : Fault} :
    let t := (finish waits cid).trace answer s
    t.result = .error g →
      (∃ f, Stalled clock waits.timeout cid (clock s) upgraded t.exchanges f ∧ g.Extends f) ∨
      (∃ f, Lists clock waits.timeout cid (clock s) t.exchanges (.error f) ∧ g.Extends f) ∨
      ∃ devices, Lists clock waits.timeout cid (clock s) t.exchanges (.ok devices) ∧
        devices.length < 3 := by
  intro t failed
  rcases finish_course positive steady with ⟨f, g', stalled, failed', more⟩ | ⟨es, s', observed, ended⟩
  · cases failed.symm.trans failed'
    exact .inl ⟨f, stalled, more⟩
  · have ended : t = _ := ended
    rw [ended] at failed ⊢
    refine .inr ?_
    cases answered : (answer.exchange (Cloud.Call.blockDevices cid).query s').reply with
    | error f =>
      rw [answered] at failed
      cases failed
      exact .inl ⟨f, (lists_iff observed).mpr answered, (Fault.Extends.refl f).inContext _⟩
    | ok devices =>
      refine .inr ⟨devices, (lists_iff observed).mpr answered, Nat.lt_of_not_le fun enough => ?_⟩
      rw [answered] at failed
      cases failed.symm.trans (counted_enough enough)

end Finish

/-! ## 4. The whole attachment -/

/-- What becomes of an order that is answered by `reply` and leaves the state `since`: the exchanges after
    it, the result, and the state at the end. -/
structure Outcome (answer : Answering (Timed Services) σ) (clock : σ → Duration) (waits : Waits)
    (cid sizeGb : UInt64) (reply : Except Fault UInt64) (since : σ)
    (later : List (Exchange (Timed Services) σ)) (result : Except Fault Unit) (final : σ) : Prop where
  /-- Where there is nothing to order, all is well, and nothing else is asked. -/
  nothing : reply = .ok 0 → result = .ok () ∧ later = []
  /-- A fault that gives no notice of a price is the end, too. -/
  refused : ∀ f, reply = .error f → ¬Notice f → result = .error (refusal cid sizeGb f) ∧ later = []
  /-- Where an order is placed it does not matter which answer said so. -/
  placed : Placed reply → (finish waits cid).trace answer since = ⟨result, final, later⟩
  /-- Then all ends well if and only if no call fails, all that is to be seen is seen, and at least three
      disks are listed. -/
  attached : Placed reply → (result = .ok () ↔ (∀ e ∈ later, faultOf? e.query e.reply = none) ∧
    ∃ devices, Lists clock waits.timeout cid (clock since) later (.ok devices) ∧ 3 ≤ devices.length)
  /-- Fewer disks are a fault of their own. -/
  few : Placed reply → ∀ devices, Lists clock waits.timeout cid (clock since) later (.ok devices) →
    devices.length < 3 → result = .error (missing cid devices.length)
  /-- It fails in no other way than by them, in one of the waits, or where the disks cannot be listed. -/
  failed : Placed reply → ∀ g, result = .error g →
    (∃ f, Stalled clock waits.timeout cid (clock since) upgraded later f ∧ g.Extends f) ∨
    (∃ f, Lists clock waits.timeout cid (clock since) later (.error f) ∧ g.Extends f) ∨
    ∃ devices, Lists clock waits.timeout cid (clock since) later (.ok devices) ∧ devices.length < 3

/-- How an extra disk is attached. -/
inductive Attached (answer : Answering (Timed Services) σ) (clock : σ → Duration) (waits : Waits)
    (cid sizeGb : UInt64) (begun : Duration) (t : Trace (Timed Services) σ Unit) : Prop where
  /-- The instance is not seen idle and set up in time, and no disk is ordered. -/
  | unready (stalls : Stalls clock waits.timeout cid begun ready t)
    (unordered : .attachDisk ∉ operations t.exchanges)
  /-- The instance is seen idle, then set up, and then one disk is ordered. -/
  | ordered {es later : List (Exchange (Timed Services) σ)} {e : Exchange (Timed Services) σ}
    {reply : Except Fault UInt64} (split : t.exchanges = es ++ e :: later)
    (first : Observed clock waits.timeout cid begun ready es (clock e.before))
    (asked : e.heard = ⟨(Cloud.Call.attachDisk cid sizeGb).query, reply⟩)
    (once : .attachDisk ∉ operations es ∧ .attachDisk ∉ operations later)
    (outcome : Outcome answer clock waits cid sizeGb reply e.after later t.result t.state)

section Attach

variable {answer : Answering (Timed Services) σ} {clock : σ → Duration} {waits : Waits}
  {cid sizeGb : UInt64} {s : σ}

/-- No poll is an order. -/
theorem unordered_of_polls {cs : List Condition} {es : List (Exchange (Timed Services) σ)}
    (polls : ∀ e ∈ es, Condition.PollsFor cid cs e) : .attachDisk ∉ operations es := by
  intro ordered
  cases Condition.operations_of_polls polls _ ordered

theorem finish_unordered (positive : 0 < waits.interval)
    (steady : ∀ e ∈ ((finish waits cid).trace answer s).exchanges, Steady clock e) :
    .attachDisk ∉ operations ((finish waits cid).trace answer s).exchanges := by
  rcases finish_course positive steady with ⟨f, g, stalled, -⟩ | ⟨es, s', observed, ended⟩
  · exact unordered_of_polls stalled.pollsFor
  · rw [ended, operations_append, List.mem_append, not_or]
    have count : Operation.attachDisk ∉ [Operation.blockDevices] := by decide
    exact ⟨unordered_of_polls observed.pollsFor, count⟩

/-- What an order comes to. -/
theorem trace_orderAndFinish :
    let e := answer.exchange (Cloud.Call.attachDisk cid sizeGb).query s
    (orderAndFinish waits cid sizeGb).trace answer s =
      match verdict cid sizeGb e.reply with
      | .ok true => ((finish waits cid).trace answer e.after).precededBy [e]
      | .ok false => ⟨.ok (), e.after, [e]⟩
      | .error f => ⟨.error f, e.after, [e]⟩ := by
  intro e
  have ordered : (order cid sizeGb).trace answer s = ⟨verdict cid sizeGb e.reply, e.after, [e]⟩ :=
    trace_order
  unfold orderAndFinish
  rw [Program.trace_bind, ordered]
  cases verdict cid sizeGb e.reply with
  | ok placed => cases placed <;> rfl
  | error f => rfl

/-- An order that is placed is followed up, -/
theorem outcome_of_placed (positive : 0 < waits.interval) {reply : Except Fault UInt64}
    (placed : Placed reply)
    (steady : ∀ e ∈ ((finish waits cid).trace answer s).exchanges, Steady clock e) :
    let t := (finish waits cid).trace answer s
    Outcome answer clock waits cid sizeGb reply s t.exchanges t.result t.state := by
  intro t
  constructor
  case nothing =>
    rintro rfl
    exact absurd rfl placed
  case refused =>
    rintro f rfl refused
    exact absurd placed refused
  case placed => exact fun _ => rfl
  case attached => exact fun _ => finish_ok positive steady
  case few => exact fun _ devices => finish_few positive steady
  case failed => exact fun _ g => finish_failed positive steady

/-- and one that is not placed is the end. -/
theorem outcome_of_unplaced {reply : Except Fault UInt64} (unplaced : ¬Placed reply)
    {result : Except Fault Unit} (nothing : reply = .ok 0 → result = .ok ())
    (refused : ∀ f, reply = .error f → result = .error (refusal cid sizeGb f)) {since final : σ} :
    Outcome answer clock waits cid sizeGb reply since [] result final where
  nothing zero := ⟨nothing zero, rfl⟩
  refused f failed _ := ⟨refused f failed, rfl⟩
  placed placed := absurd placed unplaced
  attached placed := absurd placed unplaced
  few placed := absurd placed unplaced
  failed placed := absurd placed unplaced

/-- **What becomes of an order**, whatever it is answered. -/
theorem outcome_of_order (positive : 0 < waits.interval)
    (steady : ∀ e ∈ ((orderAndFinish waits cid sizeGb).trace answer s).exchanges, Steady clock e) :
    let e := answer.exchange (Cloud.Call.attachDisk cid sizeGb).query s
    let t := (orderAndFinish waits cid sizeGb).trace answer s
    ∃ later, t.exchanges = e :: later ∧ .attachDisk ∉ operations later ∧
      Outcome answer clock waits cid sizeGb e.reply e.after later t.result t.state := by
  intro e t
  have went : t = _ := trace_orderAndFinish
  by_cases placed : Placed e.reply
  · rw [verdict_placed cid sizeGb placed] at went
    have went : t = ((finish waits cid).trace answer e.after).precededBy [e] := went
    have steady : ∀ e' ∈ t.exchanges, Steady clock e' := steady
    rw [went] at steady ⊢
    have later := (List.forall_mem_cons.mp steady).2
    exact ⟨_, rfl, finish_unordered positive later, outcome_of_placed positive placed later⟩
  · cases answered : e.reply with
    | ok number =>
      rw [answered] at placed
      have zero : number = 0 := not_not.mp placed
      rw [answered, zero] at went
      have went : t = ⟨.ok (), e.after, [e]⟩ := went
      rw [went]
      exact ⟨[], rfl, List.not_mem_nil, outcome_of_unplaced placed (fun _ => rfl) nofun⟩
    | error f =>
      rw [answered] at placed
      rw [answered, verdict_refused cid sizeGb placed] at went
      have went : t = ⟨.error (refusal cid sizeGb f), e.after, [e]⟩ := went
      rw [went]
      refine ⟨[], rfl, List.not_mem_nil, outcome_of_unplaced placed nofun fun f' same => ?_⟩
      cases same
      rfl

/-- **An extra disk is attached exactly where all that it takes was seen**, in order and in time. -/
theorem attached_iff_observed (positive : 0 < waits.interval)
    (steady : ∀ e ∈ ((attach waits cid sizeGb).trace answer s).exchanges, Steady clock e) :
    Attached answer clock waits cid sizeGb (clock s) ((attach waits cid sizeGb).trace answer s) := by
  rw [attach_eq] at steady ⊢
  rcases trace_awaitEach positive (by simp) steady with stalls | ⟨es, s', observed, went⟩
  · have ⟨_, _, row, _⟩ := stalls
    exact .unready stalls (unordered_of_polls row.pollsFor)
  · rw [went] at steady ⊢
    obtain ⟨later, first, once, outcome⟩ :=
      outcome_of_order positive fun e he => steady e (List.mem_append_right _ he)
    exact .ordered (congrArg (es ++ ·) first) observed rfl
      ⟨unordered_of_polls observed.pollsFor, once⟩ outcome

end Attach

open Simulation

/-- A world in which an order is answered with a fault, which gives notice of its price. The first look at
    the transactions after it takes two seconds and shows none. -/
def Sample.dear : World where
  cloud := CloudDouble.enroll
    { orderFault := some (.new .resourceExhausted "A Current Price was provided for the Upgrade Order.") }
    { cid := 42, hostname := "vm-42" }
  script := [⟨.activeTransactions, {}⟩,
    ⟨.activeTransactions, { takes := .ofSeconds 2, outcome := .answers [] }⟩]

/-- There the order counts as placed, and the upgrade is waited for. -/
theorem attached_iff_observed_at_price :
    let t := (attach {} 42 100).trace (World.answer {}) Sample.dear
    0 < ({} : Waits).interval ∧ (∀ e ∈ t.exchanges, Steady (·.clock.time) e) ∧
      Attached (World.answer {}) (·.clock.time) {} 42 100 0 t ∧ t.result = .ok () := by
  have steady : ∀ e ∈ ((attach {} 42 100).trace (World.answer {}) Sample.dear).exchanges,
      Steady (·.clock.time) e := World.trace_steady _ rfl
  refine ⟨by decide, steady, attached_iff_observed (by decide) steady, ?_⟩
  simp only [attach_eq, orderAndFinish, finish_eq, awaitEach, Condition.await, Condition.awaitWithin,
    reduceCtorEq, Condition.completed.injEq, List.cons_ne_nil, if_false]
  -- What the conditions are called does not matter where none of the waits fails.
  generalize Condition.text _ = idle
  generalize Condition.text _ = setUp
  generalize Condition.text _ = busy
  generalize Condition.text _ = complete
  generalize Condition.text _ = running
  cbv

end InstancePool.Disk
