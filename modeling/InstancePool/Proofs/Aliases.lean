import Mathlib.Logic.Function.Basic
import InstancePool.HostsFile
import InstancePool.Proofs.Cutting
import InstancePool.Proofs.Rendering

/-!
# Aliases recorded side by side

Callers that share a hosts file record their aliases in it at the same time. Each of them reads the
whole file and writes the whole file, and what others wrote in between is not in what it writes. So an
alias lasts as long as nobody writes a copy that was read before it was there.

* `HostsFile.bindings`: what a file binds a name to, and `fields_record`: the fields of a file with one
  more record;
* `Files.Tree.read_write`: a text that was written is read;
* `Recorders`, `Recorders.after`: callers that record aliases, taking turns;
* `Drafts`, `follows_after`: whose records stand in the file, and whose in the copy of each caller;
* `Serial`, `complete_iff_serial`: nobody writes while another one holds a copy;
* `aliases_last_iff`: when every alias is there at the end.
-/

namespace InstancePool

/-! ## 1. Bindings -/

namespace HostsFile

/-- An address and the host name that it is to be recorded under. -/
structure Alias where
  hostname : String
  ip : Address

/-- A host name that can stand in a line among others: it is not empty and has no blanks. -/
def Plain (hostname : String) : Prop :=
  hostname.toList ≠ [] ∧ ∀ c ∈ hostname.toList, Text.isBlank c = false

/-- The fields of each line. -/
def fields (contents : String) : List (List (List Char)) :=
  (Text.lines contents.toList).map Text.words

/-- Whether a name stands in a line after its first field. -/
def mentions (hostname : String) (line : List (List Char)) : Bool :=
  (line.drop 1).contains hostname.toList

/-- The first fields of the lines that name a host. -/
def bindings (contents hostname : String) : List (List Char) :=
  ((fields contents).filter (mentions hostname)).filterMap List.head?

section Fields

variable {hostname : String} {ip : Address}

theorem isBlank_digitChar (n : Nat) : Text.isBlank (Nat.digitChar n) = false := by
  by_cases small : n < 16
  · exact (by decide : ∀ n < 16, Text.isBlank (Nat.digitChar n) = false) n small
  · rw [Nat.digitChar_eq_star.mpr (Nat.le_of_not_lt small)]
    rfl

theorem isBlank_renderChars (ip : Address) : ∀ c ∈ ip.renderChars, Text.isBlank c = false := by
  intro c member
  by_contra blank
  have digit : ∀ n, Nat.digitChar n ≠ c := fun n same =>
    blank (same ▸ isBlank_digitChar n)
  have colon : c ≠ ':' := fun same => blank (same ▸ rfl)
  have dot : c ≠ '.' := fun same => blank (same ▸ rfl)
  exact Address.not_mem_renderChars digit colon dot ip member

theorem renderChars_ne_nil (ip : Address) : ip.renderChars ≠ [] := by
  cases ip with
  | v4 a b c d => simp [Address.renderChars, Address.renderOctets]
  | v6 groups length_eq =>
    obtain ⟨g, more, rfl⟩ := List.exists_cons_of_length_eq_add_one length_eq
    obtain ⟨g', rest, rfl⟩ := List.exists_cons_of_length_eq_add_one (Nat.succ.inj length_eq)
    unfold Address.renderChars
    dsimp only
    split
    · simp
    · unfold Address.renderCompressed
      dsimp only
      split <;> simp [Address.renderGroups]

/-- The line of a record has two fields. -/
theorem words_line (plain : Plain hostname) :
    Text.words (line hostname ip) = [ip.renderChars, hostname.toList] := by
  rw [line, Text.words_join (by decide), Text.words_single (isBlank_renderChars ip) (renderChars_ne_nil ip),
    Text.words_single plain.2 plain.1]
  rfl

theorem not_mem_line (plain : Plain hostname) : '\n' ∉ line hostname ip := by
  intro member
  rcases List.mem_append.mp member with member | member
  · exact absurd (isBlank_renderChars ip _ member) (by decide)
  · rcases List.mem_cons.mp member with same | member
    · cases same
    · exact absurd (plain.2 _ member) (by decide)

/-- **The fields of a file with one more record.** -/
theorem fields_record (plain : Plain hostname) (contents : String) :
    fields (record contents hostname ip) =
      (fields contents).filter (!mentions hostname ·) ++ [[ip.renderChars, hostname.toList]] := by
  have unbroken : ∀ text ∈ others hostname contents.toList ++ [line hostname ip], '\n' ∉ text := by
    intro text member
    rcases List.mem_append.mp member with member | member
    · exact Text.not_mem_lines (List.mem_of_mem_filter member)
    · rw [List.mem_singleton.mp member]
      exact not_mem_line plain
  have words : Text.words ∘ Text.dropReturn = Text.words := funext Text.words_dropReturn
  rw [fields, record, String.toList_ofList, Text.lines_flatMap unbroken, List.map_map, words,
    List.map_append, List.map_singleton, words_line plain, fields, List.filter_map]
  rfl

end Fields

/-! ### Records one after another -/

section Records

variable {h other : Alias} {contents : String}

/-- A record is the one line that names its host. -/
theorem record_mentions (plain : Plain h.hostname) (contents : String) :
    (fields (record contents h.hostname h.ip)).filter (mentions h.hostname) =
      [[h.ip.renderChars, h.hostname.toList]] := by
  have own : mentions h.hostname [h.ip.renderChars, h.hostname.toList] = true := by simp [mentions]
  rw [fields_record plain, List.filter_append, List.filter_filter, List.filter_eq_nil_iff.mpr (by simp),
    List.nil_append, List.filter_cons_of_pos own, List.filter_nil]

/-- Another record leaves those lines alone that name the host and not the other one. -/
theorem record_other_mentions (plain : Plain other.hostname) (ne : other.hostname ≠ h.hostname)
    {lines : List (List (List Char))} (apart : ∀ l ∈ lines, mentions other.hostname l = false)
    (before : (fields contents).filter (mentions h.hostname) = lines) :
    (fields (record contents other.hostname other.ip)).filter (mentions h.hostname) = lines := by
  have foreign : mentions h.hostname [other.ip.renderChars, other.hostname.toList] = false := by
    simp [mentions, String.toList_inj, ne.symm]
  have commuted : ((fields contents).filter (!mentions other.hostname ·)).filter (mentions h.hostname) =
      lines.filter (!mentions other.hostname ·) := by
    rw [List.filter_comm, before]
  rw [fields_record plain, List.filter_append, commuted, List.filter_cons_of_neg (by simp [foreign]),
    List.filter_nil, List.append_nil]
  exact List.filter_eq_self.mpr fun l member => by simp [apart l member]

end Records

end HostsFile

/-! ## 2. A file that is written and read -/

namespace Files.Tree

variable {t t' : Tree} {path contents : String}

/-- The text of a file, none if it cannot be read. -/
def text (t : Tree) (path : String) : String :=
  match t.read path with
  | .ok contents => contents
  | .error _ => ""

/-- Where no directory stands, a file can be put. -/
theorem node?_put_self {place : List String} {node : Node} (free : t.node? place ≠ some .directory) :
    (t.put place node).node? place = some node := by
  unfold node? at free ⊢
  split at free
  · exact absurd rfl free
  · rename_i inside
    rw [if_neg inside]
    exact Dict.get?_insert_self _ _ _

/-- A directory stays where it is when something is put where none stands. -/
theorem node?_put_directory {place other : List String} {node : Node}
    (free : t.node? place ≠ some .directory) (directory : t.node? other = some .directory) :
    (t.put place node).node? other = some .directory := by
  unfold node? at directory ⊢
  split at directory
  · rename_i root
    rw [if_pos root]
  · rename_i inside
    rw [if_neg inside]
    have apart : "/".intercalate other ≠ "/".intercalate place := by
      intro same
      refine free ?_
      unfold node?
      split
      · rfl
      · rw [← same]
        exact directory
    exact (Dict.get?_insert_of_ne _ _ apart).trans directory

/-- Steps from directories can be taken as before. -/
theorem step_put {place here next : List String} {name : String} {node : Node}
    (free : t.node? place ≠ some .directory) (taken : t.step here name = .ok next) :
    (t.put place node).step here name = .ok next := by
  unfold step at taken ⊢
  split at taken
  · cases taken
  · cases taken
  · rename_i directory
    rw [node?_put_directory free directory]
    exact taken

/-- **A path leads to the same place** after something was put where no directory stands. -/
theorem follow_put {place found : List String} {node : Node} (free : t.node? place ≠ some .directory)
    (leads : t.follow path = .ok found) : (t.put place node).follow path = .ok found := by
  have walked : ∀ (names : List String) {here : List String}, names.foldlM t.step here = .ok found →
      names.foldlM (t.put place node).step here = .ok found := by
    intro names
    induction names with
    | nil => exact fun done => done
    | cons name names ih =>
      intro here taken
      rw [List.foldlM_cons] at taken ⊢
      cases first : t.step here name with
      | error refusal => rw [first] at taken; cases taken
      | ok next =>
        rw [first] at taken
        rw [step_put free first]
        exact ih taken
  unfold follow at leads ⊢
  split at leads
  · cases leads
  · rename_i named
    split at leads
    · cases leads
    · rename_i filled
      split at leads
      · cases leads
      · rename_i short
        rw [if_neg named, if_neg filled, if_neg short]
        exact walked _ leads

/-- **A text that was written is read.** -/
theorem read_write (written : t.write path contents = .ok t') : t'.read path = .ok contents := by
  unfold write at written
  cases found : t.follow path with
  | error refusal => rw [found] at written; cases written
  | ok place =>
    rw [found] at written
    dsimp only [bind, Except.bind] at written
    split at written
    · cases written
    · rename_i file
      split at written
      · cases written
      · rename_i free
        cases written
        have again : (t.put place (.file (some contents))).follow path = .ok place :=
          follow_put free found
        unfold read
        rw [again]
        dsimp only [bind, Except.bind]
        rw [node?_put_self free]
        exact if_neg file

end Files.Tree

/-! ## 3. Callers that take turns -/

namespace HostsFile

/-- What is left of recording an alias once the file was read. -/
def writing (path : String) (a : Alias) (contents : String) : Program Files Unit :=
  .ask (.write path (record contents a.hostname a.ip)) fun
    | .ok () => .done ()
    | .error refusal => .fail (.cloud s!"writing hosts file {path}: {refusal}")

/-- What is left of recording an alias when the file is read so. -/
def opened (path : String) (a : Alias) : Except Files.Refusal String → Program Files Unit
  | .ok contents => writing path a contents
  | .error .missing => writing path a ""
  | .error refusal => .fail (.cloud s!"reading hosts file {path}: {refusal}")

theorem upsert_eq (path : String) (a : Alias) :
    upsert path a.hostname a.ip = .ask (.read path) (opened path a) := by
  unfold upsert
  simp only [Program.bind_eq, Files.read, Program.ask_bind, Program.done_bind]
  refine congrArg (Program.ask _) (funext fun reply => ?_)
  cases reply with
  | ok contents => exact congrArg (Program.ask _) (funext fun written => by cases written <;> rfl)
  | error refusal =>
    cases refusal with
    | missing => exact congrArg (Program.ask _) (funext fun written => by cases written <;> rfl)
    | _ => rfl

/-- A file that could be read, or is missing, is taken by its text. -/
theorem opened_read {path : String} {a : Alias} {t : Files.Tree}
    (unfailed : ∀ f, opened path a (t.read path) ≠ .fail f) :
    opened path a (t.read path) = writing path a (t.text path) := by
  unfold Files.Tree.text
  cases found : t.read path with
  | ok contents => rfl
  | error refusal =>
    rw [found] at unfailed
    cases refusal with
    | missing => rfl
    | _ => exact absurd rfl (unfailed _)

end HostsFile

open HostsFile (Alias record upsert writing bindings fields mentions Plain)

/-- The files, and what is left of each caller that records an alias. -/
structure Recorders (ι : Type) where
  tree : Files.Tree
  rest : ι → Program Files Unit

namespace Recorders

variable {ι : Type} [DecidableEq ι] {s : Recorders ι} {path : String} {a : Alias} {i : ι}

/-- Before the first turn. -/
def start (path : String) (aliases : ι → Alias) (tree : Files.Tree) : Recorders ι where
  tree
  rest i := upsert path (aliases i).hostname (aliases i).ip

/-- One turn: a caller reads, or writes. One that has ended lets it pass. -/
def advance (s : Recorders ι) (i : ι) : Recorders ι :=
  match s.rest i with
  | .done _ => s
  | .fail _ => s
  | .ask q next =>
    let (reply, tree) := Files.Tree.answer q s.tree
    { tree, rest := Function.update s.rest i (next reply) }

/-- After the turns of a schedule, the latest of which stands first. -/
def after (s : Recorders ι) : List ι → Recorders ι
  | [] => s
  | i :: earlier => (s.after earlier).advance i

/-- One that failed has failed for good. -/
theorem advance_fail {j : ι} {f : Fault} (failed : s.rest j = .fail f) : (s.advance i).rest j = .fail f := by
  unfold advance
  split
  · exact failed
  · exact failed
  · rename_i q next asked
    have apart : j ≠ i := by
      rintro rfl
      cases failed.symm.trans asked
    exact (Function.update_of_ne apart _ _).trans failed

theorem advance_ask {q : Files.Query} {next : Files.Reply q → Program Files Unit}
    (asked : s.rest i = .ask q next) :
    s.advance i = {
      tree := (Files.Tree.answer q s.tree).2
      rest := Function.update s.rest i (next (Files.Tree.answer q s.tree).1) } := by
  unfold advance
  rw [asked]
  rfl

theorem advance_done (ended : s.rest i = .done ()) : s.advance i = s := by
  unfold advance
  rw [ended]

/-- **A caller reads** the text of the file, unless it fails. -/
theorem advance_upsert (unread : s.rest i = upsert path a.hostname a.ip)
    (unfailed : ∀ f, (s.advance i).rest i ≠ .fail f) :
    s.advance i = { s with rest := Function.update s.rest i (writing path a (s.tree.text path)) } := by
  have turn := advance_ask (unread.trans (HostsFile.upsert_eq path a))
  have own : (s.advance i).rest i = HostsFile.opened path a (s.tree.read path) := by
    rw [turn]
    exact Function.update_self ..
  rw [turn, ← HostsFile.opened_read (own ▸ unfailed)]
  rfl

/-- **A caller writes** the text that it read, with its record, unless it fails. -/
theorem advance_writing {contents : String} (holding : s.rest i = writing path a contents)
    (unfailed : ∀ f, (s.advance i).rest i ≠ .fail f) :
    (s.advance i).rest = Function.update s.rest i (.done ()) ∧
      (s.advance i).tree.text path = record contents a.hostname a.ip := by
  cases written : s.tree.write path (record contents a.hostname a.ip) with
  | error refusal =>
    have reply : Files.Tree.answer (.write path (record contents a.hostname a.ip)) s.tree =
        (.error refusal, s.tree) := by
      simp only [Files.Tree.answer, written]
    rw [advance_ask holding, reply] at unfailed
    exact absurd (Function.update_self ..) (unfailed _)
  | ok tree =>
    have reply : Files.Tree.answer (.write path (record contents a.hostname a.ip)) s.tree =
        (.ok (), tree) := by
      simp only [Files.Tree.answer, written]
    rw [advance_ask holding, reply]
    refine ⟨rfl, ?_⟩
    unfold Files.Tree.text
    rw [Files.Tree.read_write written]

end Recorders

/-! ## 4. Copies -/

/-- The text of a file in which callers have put their records, the latest first. -/
def recorded {ι : Type} (aliases : ι → Alias) (contents : String) : List ι → String
  | [] => contents
  | i :: earlier => record (recorded aliases contents earlier) (aliases i).hostname (aliases i).ip

/-- What a caller has in hand: nothing yet, a copy of the file with the records of some callers, the
    latest first, or nothing any more. -/
inductive Hand (ι : Type) where
  | empty
  | holding (copy : List ι)
  | done

/-- What is left of a caller with that in hand, where the file began with the given contents. -/
def Hand.rest {ι : Type} (path : String) (aliases : ι → Alias) (contents : String) (i : ι) :
    Hand ι → Program Files Unit
  | empty => upsert path (aliases i).hostname (aliases i).ip
  | holding copy => writing path (aliases i) (recorded aliases contents copy)
  | done => .done ()

/-- Whose records stand in the file, the latest first, and what each caller has in hand. -/
structure Drafts (ι : Type) where
  file : List ι := []
  hand : ι → Hand ι := fun _ => .empty

namespace Drafts

variable {ι : Type} [DecidableEq ι]

/-- One turn: a caller takes a copy of the file, or puts it back and its own record with it. -/
def advance (d : Drafts ι) (i : ι) : Drafts ι :=
  match d.hand i with
  | .empty => { d with hand := Function.update d.hand i (.holding d.file) }
  | .holding copy => { file := i :: copy, hand := Function.update d.hand i .done }
  | .done => d

/-- After the turns of a schedule, the latest of which stands first. -/
def after : List ι → Drafts ι
  | [] => {}
  | i :: earlier => (after earlier).advance i

end Drafts

section Following

variable {ι : Type} [DecidableEq ι] {path : String} {aliases : ι → Alias} {contents : String}

/-- The callers and the file are as the drafts say. -/
structure Follows (path : String) (aliases : ι → Alias) (contents : String) (s : Recorders ι)
    (d : Drafts ι) : Prop where
  rest : ∀ i, s.rest i = (d.hand i).rest path aliases contents i
  file : s.tree.text path = recorded aliases contents d.file

theorem rest_update {s : Recorders ι} {d : Drafts ι} (h : Follows path aliases contents s d) (i : ι)
    (hand : Hand ι) : ∀ j, Function.update s.rest i (hand.rest path aliases contents i) j =
      (Function.update d.hand i hand j).rest path aliases contents j := by
  intro j
  by_cases same : j = i
  · subst same
    rw [Function.update_self, Function.update_self]
  · rw [Function.update_of_ne same, Function.update_of_ne same]
    exact h.rest j

/-- **One turn** of a caller that does not fail. -/
theorem Follows.advance {s : Recorders ι} {d : Drafts ι} (h : Follows path aliases contents s d) {i : ι}
    (unfailed : ∀ f, (s.advance i).rest i ≠ .fail f) :
    Follows path aliases contents (s.advance i) (d.advance i) := by
  have left := h.rest i
  unfold Drafts.advance
  cases hand : d.hand i with
  | empty =>
    rw [hand] at left
    rw [Recorders.advance_upsert left unfailed, h.file]
    exact ⟨rest_update h i (.holding d.file), h.file⟩
  | holding copy =>
    rw [hand] at left
    obtain ⟨rest, text⟩ := Recorders.advance_writing left unfailed
    refine ⟨?_, text⟩
    rw [rest]
    exact rest_update h i .done
  | done =>
    rw [hand] at left
    rw [Recorders.advance_done left]
    exact h

/-- **After any schedule** in which no caller failed, the callers and the file are as the drafts say. -/
theorem follows_after (tree : Files.Tree) {schedule : List ι}
    (unfailed : ∀ i f, ((Recorders.start path aliases tree).after schedule).rest i ≠ .fail f) :
    Follows path aliases (tree.text path) ((Recorders.start path aliases tree).after schedule)
      (Drafts.after schedule) := by
  induction schedule with
  | nil => exact ⟨fun _ => rfl, rfl⟩
  | cons i earlier ih =>
    exact (ih fun j f failed => unfailed j f (Recorders.advance_fail failed)).advance (unfailed i)

end Following

/-! ## 5. Serial schedules -/

/-- No caller writes, with its second turn, while another one has had its first turn and not its
    second. -/
def Serial {ι : Type} [DecidableEq ι] : List ι → Prop
  | [] => True
  | i :: earlier =>
    Serial earlier ∧ (earlier.count i = 1 → ∀ j, earlier.count j = 1 → j = i)

/-- What a caller has in hand after so many turns. -/
def Hand.Fits {ι : Type} (turns : Nat) : Hand ι → Prop
  | empty => turns = 0
  | holding _ => turns = 1
  | done => 2 ≤ turns

namespace Drafts

variable {ι : Type} [DecidableEq ι] {d : Drafts ι} {schedule : List ι}

/-- The records in the file and in the copies are those of callers that wrote. -/
structure Written (d : Drafts ι) : Prop where
  file : ∀ j ∈ d.file, d.hand j = .done
  copy : ∀ {h copy}, d.hand h = .holding copy → ∀ j ∈ copy, d.hand j = .done

/-- A copy is the file, or somebody wrote since it was taken. -/
def Dated (d : Drafts ι) : Prop :=
  ∀ h copy, d.hand h = .holding copy → copy = d.file ∨ ∃ j, d.hand j = .done ∧ j ∉ copy

/-- Every record that was written is in the file, and in every copy that will be put back. -/
structure Complete (d : Drafts ι) : Prop where
  file : ∀ {j}, d.hand j = .done → j ∈ d.file
  copy : ∀ {h copy}, d.hand h = .holding copy → ∀ {j}, d.hand j = .done → j ∈ copy

/-- If a caller has a copy, no other one has. -/
def Alone (d : Drafts ι) (i : ι) : Prop :=
  ∀ {copy}, d.hand i = .holding copy → ∀ {j other}, d.hand j = .holding other → j = i

section Turns

variable {i j : ι} {copy : List ι}

/-- With its first turn a caller has a copy of the file. -/
theorem advance_empty (free : d.hand i = .empty) :
    (d.advance i).file = d.file ∧ (d.advance i).hand i = .holding d.file := by
  unfold advance
  rw [free]
  exact ⟨rfl, Function.update_self ..⟩

/-- With its second turn the file is that copy and the caller's own record. -/
theorem advance_holding (held : d.hand i = .holding copy) :
    (d.advance i).file = i :: copy ∧ (d.advance i).hand i = .done := by
  unfold advance
  rw [held]
  exact ⟨rfl, Function.update_self ..⟩

theorem advance_ended (ended : d.hand i = .done) : d.advance i = d := by
  unfold advance
  rw [ended]

/-- What others have in hand stays as it is. -/
theorem advance_other (ne : j ≠ i) : (d.advance i).hand j = d.hand j := by
  unfold advance
  split
  · exact Function.update_of_ne ne _ _
  · exact Function.update_of_ne ne _ _
  · rfl

/-- One that has written has written. -/
theorem advance_done (ended : d.hand j = .done) : (d.advance i).hand j = .done := by
  by_cases same : j = i
  · subst same
    rw [advance_ended ended]
    exact ended
  · rw [advance_other same]
    exact ended

end Turns

theorem fits_after (schedule : List ι) (i : ι) : ((after schedule).hand i).Fits (schedule.count i) := by
  induction schedule with
  | nil => rfl
  | cons j earlier ih =>
    unfold after
    by_cases same : i = j
    · subst same
      rw [List.count_cons_self]
      cases hand : (after earlier).hand i with
      | empty =>
        rw [hand] at ih
        rw [(advance_empty hand).2]
        exact congrArg (· + 1) ih
      | holding copy =>
        rw [hand] at ih
        rw [(advance_holding hand).2]
        exact Nat.succ_le_succ (Nat.le_of_eq ih.symm)
      | done =>
        rw [hand] at ih
        rw [advance_done hand]
        exact Nat.le_succ_of_le ih
    · rw [advance_other same, List.count_cons_of_ne (Ne.symm same)]
      exact ih

theorem holding_iff (schedule : List ι) (i : ι) :
    (∃ copy, (after schedule).hand i = .holding copy) ↔ schedule.count i = 1 := by
  have fits := fits_after schedule i
  cases hand : (after schedule).hand i with
  | empty => rw [hand] at fits; simp [Hand.Fits] at fits ⊢; omega
  | holding copy => rw [hand] at fits; simpa [Hand.Fits] using fits
  | done => rw [hand] at fits; simp [Hand.Fits] at fits ⊢; omega

/-- Nobody puts back what was never written. -/
theorem Written.advance (h : Written d) (i : ι) : Written (d.advance i) := by
  cases hand : d.hand i with
  | empty =>
    obtain ⟨file, own⟩ := advance_empty hand
    refine ⟨fun j member => advance_done (h.file j (file ▸ member)), fun {k copy} held j member => ?_⟩
    by_cases same : k = i
    · subst same
      cases own.symm.trans held
      exact advance_done (h.file j member)
    · exact advance_done (h.copy (advance_other same ▸ held) j member)
  | holding mine =>
    obtain ⟨file, own⟩ := advance_holding hand
    refine ⟨fun j member => ?_, fun {k copy} held j member => ?_⟩
    · rcases List.mem_cons.mp (file ▸ member) with rfl | member
      · exact own
      · exact advance_done (h.copy hand j member)
    · have other : k ≠ i := by
        rintro rfl
        cases own.symm.trans held
      exact advance_done (h.copy (advance_other other ▸ held) j member)
  | done =>
    rw [advance_ended hand]
    exact h

/-- **A copy gets out of date** when somebody writes, and then it lacks the record of the last one that
    did. -/
theorem Dated.advance (h : Dated d) (written : Written d) (i : ι) : Dated (d.advance i) := by
  intro k copy held
  cases hand : d.hand i with
  | empty =>
    obtain ⟨file, own⟩ := advance_empty hand
    rw [file]
    by_cases same : k = i
    · subst same
      cases own.symm.trans held
      exact .inl rfl
    · rcases h k copy (advance_other same ▸ held) with current | ⟨j, ended, missing⟩
      · exact .inl current
      · exact .inr ⟨j, advance_done ended, missing⟩
  | holding mine =>
    obtain ⟨-, own⟩ := advance_holding hand
    have other : k ≠ i := by
      rintro rfl
      cases own.symm.trans held
    refine .inr ⟨i, own, fun member => ?_⟩
    cases (written.copy (advance_other other ▸ held) i member).symm.trans hand
  | done =>
    rw [advance_ended hand] at held ⊢
    exact h k copy held

/-- **One turn keeps every record** exactly if nobody else has a copy when the caller puts back its own. -/
theorem complete_advance_iff (written : Written d) (dated : Dated d) (i : ι) :
    Complete (d.advance i) ↔ Complete d ∧ Alone d i := by
  cases hand : d.hand i with
  | empty =>
    obtain ⟨file, own⟩ := advance_empty hand
    have apart : ∀ {j}, d.hand j ≠ .empty → j ≠ i := by
      rintro j used rfl
      exact used hand
    constructor
    · intro complete
      refine ⟨⟨fun ended => file ▸ complete.file (advance_done ended), fun {k copy} held j ended => ?_⟩,
        fun held => by cases hand.symm.trans held⟩
      have other : k ≠ i := apart fun free => by cases held.symm.trans free
      exact complete.copy ((advance_other other).trans held) (advance_done ended)
    · rintro ⟨complete, -⟩
      have before : ∀ {j}, (d.advance i).hand j = .done → d.hand j = .done := by
        intro j ended
        have other : j ≠ i := by
          rintro rfl
          cases own.symm.trans ended
        exact advance_other other ▸ ended
      refine ⟨fun ended => file ▸ complete.file (before ended), fun {k copy} held j ended => ?_⟩
      by_cases same : k = i
      · subst same
        cases own.symm.trans held
        exact complete.file (before ended)
      · exact complete.copy (advance_other same ▸ held) (before ended)
  | holding mine =>
    obtain ⟨file, own⟩ := advance_holding hand
    constructor
    · intro complete
      -- The caller's record is in no copy that was taken before, so there is none.
      have alone : Alone d i := by
        intro _ _ j other held
        by_contra ne
        have inside : i ∈ other := complete.copy ((advance_other ne).trans held) own
        cases (written.copy held i inside).symm.trans hand
      have mine_complete : ∀ {j}, d.hand j = .done → j ∈ mine := by
        intro j ended
        have ne : j ≠ i := by
          rintro rfl
          cases hand.symm.trans ended
        exact (List.mem_cons.mp (file ▸ complete.file (advance_done ended))).resolve_left ne
      refine ⟨⟨fun ended => ?_, fun {k copy} held j ended => ?_⟩, alone⟩
      · rcases dated i mine hand with current | ⟨j, written, missing⟩
        · exact current ▸ mine_complete ended
        · exact absurd (mine_complete written) missing
      · obtain rfl := alone hand held
        cases hand.symm.trans held
        exact mine_complete ended
    · rintro ⟨complete, alone⟩
      refine ⟨fun {j} ended => ?_, fun {k copy} held j ended => ?_⟩
      · rw [file]
        by_cases same : j = i
        · exact same ▸ List.mem_cons_self
        · exact List.mem_cons_of_mem _ (complete.copy hand (advance_other same ▸ ended))
      · have other : k ≠ i := by
          rintro rfl
          cases own.symm.trans held
        exact absurd (alone hand (advance_other other ▸ held)) other
  | done =>
    rw [advance_ended hand]
    exact ⟨fun complete => ⟨complete, fun held => by cases hand.symm.trans held⟩, And.left⟩

theorem alone_iff (schedule : List ι) (i : ι) : Alone (after schedule) i ↔
    (schedule.count i = 1 → ∀ j, schedule.count j = 1 → j = i) := by
  constructor
  · intro alone once j other
    obtain ⟨_, mine⟩ := (holding_iff schedule i).mpr once
    obtain ⟨_, held⟩ := (holding_iff schedule j).mpr other
    exact alone mine held
  · intro single _ mine j _ held
    exact single ((holding_iff schedule i).mp ⟨_, mine⟩) j ((holding_iff schedule j).mp ⟨_, held⟩)

theorem written_dated_after (schedule : List ι) :
    Written (after schedule) ∧ Dated (after schedule) := by
  induction schedule with
  | nil => exact ⟨⟨fun _ member => absurd member List.not_mem_nil, nofun⟩, nofun⟩
  | cons i earlier ih => exact ⟨ih.1.advance i, ih.2.advance ih.1 i⟩

/-- **Every record is kept** exactly by the serial schedules. -/
theorem complete_iff_serial (schedule : List ι) : Complete (after schedule) ↔ Serial schedule := by
  induction schedule with
  | nil => exact ⟨fun _ => trivial, fun _ => ⟨nofun, nofun⟩⟩
  | cons i earlier ih =>
    obtain ⟨written, dated⟩ := written_dated_after earlier
    exact (complete_advance_iff written dated i).trans (and_congr ih (alone_iff earlier i))

end Drafts

/-! ## 6. Which aliases last -/

section Lasting

variable {ι : Type} {aliases : ι → Alias} (plain : ∀ i, Plain (aliases i).hostname)
  (distinct : ∀ i j, (aliases i).hostname = (aliases j).hostname → i = j)

include plain distinct

/-- Whose record stands in the file is bound to its address and to nothing else. -/
theorem recorded_bindings (contents : String) {i : ι} {file : List ι} (member : i ∈ file) :
    bindings (recorded aliases contents file) (aliases i).hostname = [(aliases i).ip.renderChars] := by
  have lines : (fields (recorded aliases contents file)).filter (mentions (aliases i).hostname) =
      [[(aliases i).ip.renderChars, (aliases i).hostname.toList]] := by
    induction file with
    | nil => cases member
    | cons j earlier ih =>
      by_cases same : j = i
      · subst same
        exact HostsFile.record_mentions (plain j) _
      · have others : (aliases j).hostname ≠ (aliases i).hostname := fun shared => same (distinct j i shared)
        have apart : mentions (aliases j).hostname
            [(aliases i).ip.renderChars, (aliases i).hostname.toList] = false := by
          simp [mentions, String.toList_inj, others]
        exact HostsFile.record_other_mentions (plain j) others (by simpa using apart)
          (ih ((List.mem_cons.mp member).resolve_left (Ne.symm same)))
  unfold bindings
  rw [lines]
  rfl

/-- A host that the file did not name, and whose record does not stand in it, is bound to nothing. -/
theorem recorded_unbound {contents : String} {i : ι}
    (unnamed : ∀ line ∈ fields contents, mentions (aliases i).hostname line = false) {file : List ι}
    (missing : i ∉ file) :
    (fields (recorded aliases contents file)).filter (mentions (aliases i).hostname) = [] := by
  induction file with
  | nil => exact List.filter_eq_nil_iff.mpr fun line member => by simp [unnamed line member]
  | cons j earlier ih =>
    have others : (aliases j).hostname ≠ (aliases i).hostname := fun shared =>
      missing (distinct j i shared ▸ List.mem_cons_self)
    exact HostsFile.record_other_mentions (plain j) others (by simp)
      (ih fun member => missing (List.mem_cons_of_mem _ member))

omit plain distinct in
theorem Hand.done_of_rest {path contents : String} {i : ι} {hand : Hand ι}
    (ended : hand.rest path aliases contents i = .done ()) : hand = .done := by
  cases hand with
  | empty => rw [Hand.rest, HostsFile.upsert_eq] at ended; cases ended
  | holding copy => cases ended
  | done => rfl

/-- **When every alias lasts.** Callers record aliases of different hosts in one file, they take turns
    in any order, and all of them succeed. If the schedule is serial, every host is bound to its address
    at the end. If none of the hosts was named before, every host is bound to its address only then. -/
theorem aliases_last_iff [DecidableEq ι] (path : String) (tree : Files.Tree) (schedule : List ι)
    (succeeded : ∀ i, ((Recorders.start path aliases tree).after schedule).rest i = .done ()) :
    let contents := ((Recorders.start path aliases tree).after schedule).tree.text path
    let Lasting := ∀ i, bindings contents (aliases i).hostname = [(aliases i).ip.renderChars]
    (Serial schedule → Lasting) ∧
      ((∀ i, ∀ line ∈ fields (tree.text path), mentions (aliases i).hostname line = false) →
        Lasting → Serial schedule) := by
  have follows : Follows path aliases (tree.text path) ((Recorders.start path aliases tree).after schedule)
      (Drafts.after schedule) :=
    follows_after tree fun i f failed => by cases (succeeded i).symm.trans failed
  have ended : ∀ i, (Drafts.after schedule).hand i = .done := fun i =>
    Hand.done_of_rest ((follows.rest i).symm.trans (succeeded i))
  have complete : Drafts.Complete (Drafts.after schedule) ↔ ∀ i, i ∈ (Drafts.after schedule).file :=
    ⟨fun complete i => complete.file (ended i), fun all =>
      ⟨fun _ => all _, fun held => by cases (ended _).symm.trans held⟩⟩
  intro contents Lasting
  have text : contents = recorded aliases (tree.text path) (Drafts.after schedule).file := follows.file
  constructor
  · intro serial i
    have member := complete.mp ((Drafts.complete_iff_serial schedule).mpr serial) i
    rw [text]
    exact recorded_bindings plain distinct _ member
  · intro unnamed lasting
    refine (Drafts.complete_iff_serial schedule).mp (complete.mpr fun i => ?_)
    by_contra missing
    have bound := lasting i
    have unbound := recorded_unbound plain distinct (unnamed i) missing
    rw [text, bindings, unbound] at bound
    cases bound

end Lasting

namespace Sample

/-- Two aliases. -/
def aliases : Bool → Alias
  | false => ⟨"vm-a", .v4 10 0 0 1⟩
  | true => ⟨"vm-b", .v4 10 0 0 2⟩

/-- The two callers that record them in a file that is missing, after a schedule. -/
def recorders (schedule : List Bool) : Recorders Bool :=
  (Recorders.start "hosts" aliases {}).after schedule

theorem aliases_plain (i : Bool) : Plain (aliases i).hostname := by
  cases i <;> exact ⟨by decide, List.forall_iff_forall_mem.mp (by decide)⟩

theorem aliases_distinct : ∀ i j, (aliases i).hostname = (aliases j).hostname → i = j := by
  decide

end Sample

theorem aliases_last_in_turn :
    (∀ i, (Sample.recorders [true, true, false, false]).rest i = .done ()) ∧
      ∀ i, bindings ((Sample.recorders [true, true, false, false]).tree.text "hosts")
        (Sample.aliases i).hostname = [(Sample.aliases i).ip.renderChars] := by
  have succeeded : ∀ i, (Sample.recorders [true, true, false, false]).rest i = .done () := by
    intro i
    cases i <;> rfl
  have serial : Serial [true, true, false, false] := by simp [Serial]
  exact ⟨succeeded, (aliases_last_iff Sample.aliases_plain Sample.aliases_distinct "hosts" {}
    [true, true, false, false] succeeded).1 serial⟩

/-- Both callers read the file before either of them writes it. Both succeed, and the first of the two
    aliases is gone. -/
theorem overlap_loses_alias :
    (∀ i, Plain (Sample.aliases i).hostname) ∧
      (∀ i j, (Sample.aliases i).hostname = (Sample.aliases j).hostname → i = j) ∧
      (∀ i, (Sample.recorders [true, false, true, false]).rest i = .done ()) ∧
      bindings ((Sample.recorders [true, false, true, false]).tree.text "hosts") "vm-a" = [] := by
  refine ⟨Sample.aliases_plain, Sample.aliases_distinct, ?_, by decide⟩
  intro i
  cases i <;> rfl

end InstancePool
