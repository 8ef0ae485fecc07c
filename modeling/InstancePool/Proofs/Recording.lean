import Mathlib.Data.List.Dedup
import InstancePool.Proofs.Aliases
import InstancePool.Simulation.World

/-!
# Records in a file and in memory

Under which address a host is reached is recorded in a hosts file, or in memory where there is none. The
two agree. After any records the file has one line for each host that was recorded, with the address that
is remembered in memory, and these lines follow all others, which stay as they were.

* `lines_record`: the lines of a file with one more record;
* `HostsFile.Unnamed`, `Recorded`: lines that name none of some hosts, and what a file then holds;
* `HostsFile.recordEach`, `rememberEach`, `recorded_each`: records made one after another;
* `Files.Tree.text_of_upsert`: what a file holds once an alias was recorded in it;
* `Simulation.World.recordAll`, `text_recordAll`, `aliases_recordAll`: the same records made by a world;
* `Simulation.World.file_refines_memory`: what stands in the file, and what in memory.
-/

namespace InstancePool

/-! ## 1. One record in a file -/

namespace HostsFile

section Lines

variable {contents : String} {a : Alias}

/-- The line of a record has no carriage return. -/
theorem no_return_line (plain : Plain a.hostname) : '\r' ∉ line a.hostname a.ip := by
  intro member
  rcases List.mem_append.mp member with member | member
  · exact absurd (isBlank_renderChars a.ip _ member) (by decide)
  · rcases List.mem_cons.mp member with same | member
    · cases same
    · exact absurd (plain.2 _ member) (by decide)

/-- **The lines of a file with one more record**: those that do not name the host, and its own. -/
theorem lines_record (plain : Plain a.hostname) (clean : '\r' ∉ contents.toList) :
    Text.lines (record contents a.hostname a.ip).toList =
      others a.hostname contents.toList ++ [line a.hostname a.ip] := by
  have unbroken : ∀ text ∈ others a.hostname contents.toList ++ [line a.hostname a.ip], '\n' ∉ text := by
    intro text member
    rcases List.mem_append.mp member with member | member
    · exact Text.not_mem_lines (List.mem_of_mem_filter member)
    · rw [List.mem_singleton.mp member]
      exact not_mem_line plain
  have whole : ∀ text ∈ others a.hostname contents.toList ++ [line a.hostname a.ip],
      Text.dropReturn text = text := by
    intro text member
    rcases List.mem_append.mp member with member | member
    · have inside := Text.lines_subset (List.mem_of_mem_filter member)
      exact Text.dropReturn_eq_self fun here => clean (inside here)
    · rw [List.mem_singleton.mp member]
      exact Text.dropReturn_eq_self (no_return_line plain)
  rw [record, String.toList_ofList, Text.lines_flatMap unbroken, List.map_congr_left whole, List.map_id']

/-- A file is made of its lines, once something was recorded in it. -/
theorem record_eq_lines (plain : Plain a.hostname) (clean : '\r' ∉ contents.toList) :
    record contents a.hostname a.ip = String.ofList
      ((Text.lines (record contents a.hostname a.ip).toList).flatMap (· ++ ['\n'])) := by
  rw [lines_record plain clean]
  rfl

/-- And it has no carriage returns if it had none. -/
theorem no_return_record (plain : Plain a.hostname) (clean : '\r' ∉ contents.toList) :
    '\r' ∉ (record contents a.hostname a.ip).toList := by
  rw [record, String.toList_ofList]
  intro member
  obtain ⟨text, part, inside⟩ := List.mem_flatMap.mp member
  rcases List.mem_append.mp inside with inside | inside
  · rcases List.mem_append.mp part with part | part
    · exact clean (Text.lines_subset (List.mem_of_mem_filter part) inside)
    · rw [List.mem_singleton.mp part] at inside
      exact no_return_line plain inside
  · cases List.mem_singleton.mp inside

end Lines

/-! ## 2. Records one after another -/

/-- The text of a file after some records, the first one first. -/
def recordEach (as : List Alias) (contents : String) : String :=
  as.foldl (fun contents a => record contents a.hostname a.ip) contents

/-- What is remembered after them. -/
def rememberEach (as : List Alias) (memory : Dict String Address) : Dict String Address :=
  as.foldl (fun memory a => memory.insert a.hostname a.ip) memory

/-- A line that names none of the hosts. -/
def Unnamed (as : List Alias) (line : List Char) : Prop := ∀ a ∈ as, a.hostname.toList ∉ names line

instance (as : List Alias) : DecidablePred (Unnamed as) := fun line =>
  inferInstanceAs (Decidable (∀ a ∈ as, a.hostname.toList ∉ names line))

/-- What becomes of a file in which aliases are recorded: every host that they name is `held` at one
    address. -/
structure Recorded (as : List Alias) (held : String → Address) (before after : String) : Prop where
  /-- The lines that name none of the hosts are as before. One line for each host follows, the host that
      was recorded last at the end. -/
  lines : Text.lines after.toList = (Text.lines before.toList).filter (Unnamed as ·) ++
    (as.map Alias.hostname).dedup.map fun host => line host (held host)
  /-- Each line ends in a line feed, -/
  ended : as ≠ [] → after = String.ofList ((Text.lines after.toList).flatMap (· ++ ['\n']))
  /-- and a file in which nothing is recorded is left alone. -/
  untouched : as = [] → after = before

section Each

theorem recordEach_cons (a : Alias) (later : List Alias) (contents : String) :
    recordEach (a :: later) contents = recordEach later (record contents a.hostname a.ip) := by
  unfold recordEach
  rw [List.foldl_cons]

theorem rememberEach_cons (a : Alias) (later : List Alias) (memory : Dict String Address) :
    rememberEach (a :: later) memory = rememberEach later (memory.insert a.hostname a.ip) := rfl

variable {a : Alias} {as : List Alias} {memory : Dict String Address} {contents : String}

theorem names_line (plain : Plain a.hostname) : names (line a.hostname a.ip) = [a.hostname.toList] := by
  rw [names, words_line plain]
  rfl

/-- What a host is remembered at changes only where it is recorded. -/
theorem get?_rememberEach_of_notMem {host : String} (other : host ∉ as.map Alias.hostname) :
    (rememberEach as memory).get? host = memory.get? host := by
  induction as generalizing memory with
  | nil => rfl
  | cons a later ih =>
    rw [List.map_cons, List.mem_cons, not_or] at other
    obtain ⟨ne, other⟩ := other
    rw [rememberEach_cons, ih other, Dict.get?_insert_of_ne memory a.ip ne]

/-- Every host that was recorded is remembered. -/
theorem get?_rememberEach_of_mem {host : String} (member : host ∈ as.map Alias.hostname) :
    ∃ ip, (rememberEach as memory).get? host = some ip := by
  induction as generalizing memory with
  | nil => cases member
  | cons a later ih =>
    by_cases again : host ∈ later.map Alias.hostname
    · exact ih again
    · have same : host = a.hostname := (List.mem_cons.mp member).resolve_right again
      refine ⟨a.ip, ?_⟩
      rw [rememberEach_cons, get?_rememberEach_of_notMem again, same, Dict.get?_insert_self]

theorem unnamed_cons {later : List Alias} {text : List Char} :
    Unnamed (a :: later) text ↔ Unnamed later text ∧ a.hostname.toList ∉ names text :=
  List.forall_mem_cons.trans and_comm

/-- The lines that do not name one host, and none of some others. -/
theorem filter_others (later : List Alias) (contents : List Char) :
    (others a.hostname contents).filter (Unnamed later ·) =
      (Text.lines contents).filter (Unnamed (a :: later) ·) := by
  rw [others, List.filter_filter]
  refine List.filter_congr fun text _ => ?_
  simp [unnamed_cons]

/-- The line of a record outlasts others unless one of them is of the same host. -/
theorem filter_line (plain : Plain a.hostname) (later : List Alias) :
    [line a.hostname a.ip].filter (Unnamed later ·) =
      if a.hostname ∈ later.map Alias.hostname then [] else [line a.hostname a.ip] := by
  have named : Unnamed later (line a.hostname a.ip) ↔ a.hostname ∉ later.map Alias.hostname := by
    unfold Unnamed
    rw [names_line plain]
    simp [String.toList_inj, eq_comm]
  by_cases again : a.hostname ∈ later.map Alias.hostname
  · simp [again, named]
  · simp [again, named]

/-- **After any records**, one after another, the file and the memory agree. -/
theorem recorded_each (plain : ∀ a ∈ as, Plain a.hostname) (clean : '\r' ∉ contents.toList)
    {held : String → Address}
    (remembered : ∀ a ∈ as, (rememberEach as memory).get? a.hostname = some (held a.hostname)) :
    Recorded as held contents (recordEach as contents) := by
  induction as generalizing contents memory with
  | nil =>
    constructor
    case lines => simp [recordEach, Unnamed]
    case ended => exact fun some => absurd rfl some
    case untouched => exact fun _ => rfl
  | cons a later ih =>
    obtain ⟨here, others⟩ := List.forall_mem_cons.mp plain
    obtain ⟨first, remembered⟩ := List.forall_mem_cons.mp remembered
    rw [rememberEach_cons] at first
    have rest : Recorded later held (record contents a.hostname a.ip)
        (recordEach later (record contents a.hostname a.ip)) :=
      ih others (no_return_record here clean) remembered
    rw [recordEach_cons]
    constructor
    case lines =>
      rw [rest.lines, lines_record here clean, List.filter_append, filter_others, filter_line here,
        List.append_assoc, List.map_cons]
      by_cases again : a.hostname ∈ later.map Alias.hostname
      · rw [if_pos again, List.dedup_cons_of_mem again, List.nil_append]
      · rw [get?_rememberEach_of_notMem again, Dict.get?_insert_self] at first
        have same : a.ip = held a.hostname := Option.some.inj first
        rw [if_neg again, List.dedup_cons_of_notMem again, List.map_cons, ← same]
        rfl
    case ended =>
      intro _
      by_cases none : later = []
      · rw [rest.untouched none]
        exact record_eq_lines here clean
      · exact rest.ended none
    case untouched => exact fun empty => absurd empty (List.cons_ne_nil _ _)

end Each

end HostsFile

/-! ## 3. The two services -/

namespace Files.Tree

variable {t t' : Tree} {path contents : String} {a : HostsFile.Alias}

/-- What was read is written back with the record, -/
theorem run_writing_ok (written : t.write path (HostsFile.record contents a.hostname a.ip) = .ok t') :
    ((HostsFile.writing path a contents).run answer).run t = (.ok (), t') := by
  have reply : answer (.write path (HostsFile.record contents a.hostname a.ip)) t = (.ok (), t') := by
    simp only [answer, written]
  unfold HostsFile.writing
  simp only [Program.run, StateT.run_bind]
  rw [StateT.run, reply]
  rfl

/-- or the file is as it was. -/
theorem run_writing_error {refusal : Refusal}
    (failed : t.write path (HostsFile.record contents a.hostname a.ip) = .error refusal) :
    ((HostsFile.writing path a contents).run answer).run t =
      (.error (.cloud s!"writing hosts file {path}: {refusal}"), t) := by
  have reply : answer (.write path (HostsFile.record contents a.hostname a.ip)) t = (.error refusal, t) := by
    simp only [answer, failed]
  unfold HostsFile.writing
  simp only [Program.run, StateT.run_bind]
  rw [StateT.run, reply]
  rfl

theorem text_write (written : t.write path contents = .ok t') : t'.text path = contents := by
  unfold text
  rw [read_write written]

/-- **A record in a file** that succeeds puts its text there. -/
theorem text_of_upsert
    (succeeded : (((HostsFile.upsert path a.hostname a.ip).run answer).run t).1 = .ok ()) :
    (((HostsFile.upsert path a.hostname a.ip).run answer).run t).2.text path =
      HostsFile.record (t.text path) a.hostname a.ip := by
  have run : ((HostsFile.upsert path a.hostname a.ip).run answer).run t =
      ((HostsFile.opened path a (t.read path)).run answer).run t := by
    rw [HostsFile.upsert_eq]
    rfl
  rw [run] at succeeded ⊢
  have unfailed : ∀ f, HostsFile.opened path a (t.read path) ≠ .fail f := by
    intro f failed
    rw [failed] at succeeded
    cases succeeded
  rw [HostsFile.opened_read unfailed] at succeeded ⊢
  cases written : t.write path (HostsFile.record (t.text path) a.hostname a.ip) with
  | error refusal =>
    rw [run_writing_error written] at succeeded
    cases succeeded
  | ok t' =>
    rw [run_writing_ok written]
    exact text_write written

end Files.Tree

namespace Simulation.World

open HostsFile (Alias Plain Recorded recordEach rememberEach)

/-- Serves records of aliases one after another. One that fails is the last. -/
def recordAll (wiring : Wiring) : List Alias → World → Except Fault Unit × World
  | [], w => (.ok (), w)
  | a :: later, w =>
    match serve wiring (.hostAlias a.hostname a.ip) w with
    | (.ok (), w) => recordAll wiring later w
    | (.error f, w) => (.error f, w)

section Services

variable {wiring : Wiring} {path : String} {a : Alias} {as later : List Alias} {w w' : World}

/-- What is asked of the files is answered by them alone. -/
theorem run_answerFiles {α : Type} (p : Program Files α) (w : World) :
    (p.run answerFiles).run w =
      (((p.run Files.Tree.answer).run w.files).1,
        { w with files := ((p.run Files.Tree.answer).run w.files).2 }) := by
  induction p generalizing w with
  | done a => rfl
  | fail f => rfl
  | ask q k ih => exact ih _ _

/-- A record in a file is made in the files. -/
theorem text_of_served (filed : wiring.aliases = .file path)
    (served : (serve wiring (.hostAlias a.hostname a.ip) w).1 = .ok ()) :
    (serve wiring (.hostAlias a.hostname a.ip) w).2.files.text path =
      HostsFile.record (w.files.text path) a.hostname a.ip := by
  have run : serve wiring (.hostAlias a.hostname a.ip) w =
      ((HostsFile.upsert path a.hostname a.ip).run answerFiles).run w := by
    unfold serve
    rw [filed]
    rfl
  rw [run, run_answerFiles] at served ⊢
  exact Files.Tree.text_of_upsert served

theorem recordAll_cons_ok (served : serve wiring (.hostAlias a.hostname a.ip) w = (.ok (), w')) :
    recordAll wiring (a :: later) w = recordAll wiring later w' := by
  rw [recordAll, served]

theorem recordAll_cons_error {f : Fault}
    (failed : serve wiring (.hostAlias a.hostname a.ip) w = (.error f, w')) :
    recordAll wiring (a :: later) w = (.error f, w') := by
  rw [recordAll, failed]

/-- **Records in a file**, all of which succeed. -/
theorem text_recordAll (filed : wiring.aliases = .file path)
    (succeeded : (recordAll wiring as w).1 = .ok ()) :
    (recordAll wiring as w).2.files.text path = recordEach as (w.files.text path) := by
  induction as generalizing w with
  | nil => rfl
  | cons a later ih =>
    match served : serve wiring (.hostAlias a.hostname a.ip) w with
    | (.ok (), w') =>
      have ok : (serve wiring (.hostAlias a.hostname a.ip) w).1 = .ok () := congrArg Prod.fst served
      have text := text_of_served filed ok
      rw [served] at text
      rw [recordAll_cons_ok served] at succeeded ⊢
      rw [ih succeeded, text, HostsFile.recordEach_cons]
    | (.error f, w') =>
      rw [recordAll_cons_error served] at succeeded
      cases succeeded

/-- **Records in memory** never fail. -/
theorem aliases_recordAll (kept : wiring.aliases = .memory) :
    (recordAll wiring as w).1 = .ok () ∧
      (recordAll wiring as w).2.aliases = rememberEach as w.aliases := by
  induction as generalizing w with
  | nil => exact ⟨rfl, rfl⟩
  | cons a later ih =>
    have served : serve wiring (.hostAlias a.hostname a.ip) w =
        (.ok (), { w with aliases := w.aliases.insert a.hostname a.ip }) := by
      unfold serve
      rw [kept]
    rw [recordAll_cons_ok served]
    exact ih (w := { w with aliases := w.aliases.insert a.hostname a.ip })

end Services

/-- **A hosts file agrees with the memory.** The same aliases are recorded in a file and in memory, one
    after another. If the file can be read and written, its first lines are those that name none of the
    hosts, and one line follows for each host, the one recorded last at the end, with the address that is
    remembered. -/
theorem file_refines_memory {wiring wiring' : Wiring} {path : String}
    (filed : wiring.aliases = .file path) (kept : wiring'.aliases = .memory) {as : List Alias}
    (plain : ∀ a ∈ as, Plain a.hostname) {w w' : World} (clean : '\r' ∉ (w.files.text path).toList)
    (succeeded : (recordAll wiring as w).1 = .ok ()) :
    (recordAll wiring' as w').1 = .ok () ∧ ∃ held : String → Address,
      Recorded as held (w.files.text path) ((recordAll wiring as w).2.files.text path) ∧
      ∀ a ∈ as, (recordAll wiring' as w').2.aliases.get? a.hostname = some (held a.hostname) := by
  obtain ⟨never, memory⟩ := @aliases_recordAll wiring' as w' kept
  have some_held : ∀ host, ∃ ip, host ∈ as.map Alias.hostname →
      (rememberEach as w'.aliases).get? host = some ip := by
    intro host
    by_cases member : host ∈ as.map Alias.hostname
    · have remembered : ∃ ip, (rememberEach as w'.aliases).get? host = some ip :=
        HostsFile.get?_rememberEach_of_mem member
      obtain ⟨ip, remembered⟩ := remembered
      exact ⟨ip, fun _ => remembered⟩
    · exact ⟨.v4 0 0 0 0, fun member' => absurd member' member⟩
  choose held remembered using some_held
  have remembered : ∀ a ∈ as, (rememberEach as w'.aliases).get? a.hostname = some (held a.hostname) :=
    fun a ha => remembered a.hostname (List.mem_map_of_mem ha)
  refine ⟨never, held, ?_, ?_⟩
  · rw [text_recordAll filed succeeded]
    exact HostsFile.recorded_each plain clean remembered
  · rw [memory]
    exact remembered

/-- A world with a hosts file that names two hosts. -/
def Sample.twoHosts : World where
  files := ({} : Files.Tree).put ["hosts"] (.file (some "127.0.0.1 localhost\n10.0.0.1 vm-a\n"))

/-- Three records, two of them of the same host. -/
def Sample.threeRecords : List Alias :=
  [⟨"vm-b", .v4 10 0 0 2⟩, ⟨"vm-a", .v4 10 0 0 3⟩, ⟨"vm-b", .v4 10 0 0 4⟩]

/-- There the host that the file did not name comes last, with its second address. -/
theorem file_refines_memory_renewed :
    let after := recordAll { aliases := .file "hosts" } Sample.threeRecords Sample.twoHosts
    let remembered := recordAll {} Sample.threeRecords {}
    (∀ a ∈ Sample.threeRecords, Plain a.hostname) ∧ '\r' ∉ (Sample.twoHosts.files.text "hosts").toList ∧
      after.1 = .ok () ∧ remembered.1 = .ok () ∧ (∃ held : String → Address,
        Recorded Sample.threeRecords held (Sample.twoHosts.files.text "hosts") (after.2.files.text "hosts") ∧
        ∀ a ∈ Sample.threeRecords, remembered.2.aliases.get? a.hostname = some (held a.hostname)) ∧
      after.2.files.text "hosts" = "127.0.0.1 localhost\n10.0.0.3 vm-a\n10.0.0.4 vm-b\n" := by
  have spelled : ∀ a ∈ Sample.threeRecords, a.hostname.toList ≠ [] ∧
      a.hostname.toList.Forall fun c => Text.isBlank c = false := by
    decide
  have plain : ∀ a ∈ Sample.threeRecords, Plain a.hostname :=
    fun a ha => (spelled a ha).imp_right List.forall_iff_forall_mem.mp
  have clean : '\r' ∉ (Sample.twoHosts.files.text "hosts").toList := by decide
  have succeeded : (recordAll { aliases := .file "hosts" } Sample.threeRecords Sample.twoHosts).1 =
      .ok () := by decide +kernel
  obtain ⟨never, agree⟩ := @file_refines_memory { aliases := .file "hosts" } {} "hosts" rfl rfl
    Sample.threeRecords plain Sample.twoHosts {} clean succeeded
  exact ⟨plain, clean, succeeded, never, agree, by decide +kernel⟩

end Simulation.World

end InstancePool
