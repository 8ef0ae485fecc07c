import InstancePool.Proofs.Aliases

/-!
# Names that share a line

A line of a hosts file may name several hosts. When one of them is recorded anew the whole line gives way,
so the others keep only what other lines say of them. Lines that do not name the host stay, with all of
their names.

* `HostsFile.bindingsApart`: what a file binds a name to without the lines of another one;
* `HostsFile.bindings_record`: what is left of a name after a record of another one;
* `HostsFile.record_spares_iff`: when nothing is lost;
* `HostsFile.shared_line_is_lost`: a name that is lost.
-/

namespace InstancePool.HostsFile

/-- The first fields of the lines that name a host and do not name another one. -/
def bindingsApart (contents hostname other : String) : List (List Char) :=
  ((fields contents).filter fun line =>
    mentions hostname line && !mentions other line).filterMap List.head?

section Names

variable {contents hostname name : String} {ip : Address} {address : List Char}

theorem mem_bindings : address ∈ bindings contents name ↔
    ∃ line ∈ fields contents, mentions name line = true ∧ line.head? = some address := by
  simp [bindings, and_assoc]

theorem mem_bindingsApart : address ∈ bindingsApart contents name hostname ↔
    ∃ line ∈ fields contents, mentions name line = true ∧ mentions hostname line = false ∧
      line.head? = some address := by
  simp [bindingsApart, and_assoc]

/-- A line that names a host has a field before it. -/
theorem head?_of_mentions {line : List (List Char)} (named : mentions name line = true) :
    ∃ first, line.head? = some first := by
  cases line with
  | nil => simp [mentions] at named
  | cons first rest => exact ⟨first, rfl⟩

/-- **What is left of a name** after a record of another one: what the lines say that do not name the
    recorded host. -/
theorem bindings_record (plain : Plain hostname) (other : name ≠ hostname) (contents : String) :
    bindings (record contents hostname ip) name = bindingsApart contents name hostname := by
  have foreign : mentions name [ip.renderChars, hostname.toList] = false := by
    simp [mentions, String.toList_inj, other]
  rw [bindings, fields_record plain, List.filter_append, List.filter_cons_of_neg (by simp [foreign]),
    List.filter_nil, List.append_nil, List.filter_filter]
  rfl

end Names

/-- **A record spares another name** where the lines that the two share say nothing of it that no other
    line says. What it is bound to afterwards stands in the lines that name it and not the recorded host,
    in their order. -/
theorem record_spares_iff {hostname name : String} (plain : Plain hostname) (other : name ≠ hostname)
    (contents : String) (ip : Address) :
    let after := record contents hostname ip
    bindings after name = bindingsApart contents name hostname ∧
      ((∀ address, address ∈ bindings after name ↔ address ∈ bindings contents name) ↔
        ∀ shared ∈ fields contents, mentions hostname shared = true → mentions name shared = true →
          ∃ line ∈ fields contents, mentions name line = true ∧ mentions hostname line = false ∧
            line.head? = shared.head?) := by
  intro after
  have left : bindings after name = bindingsApart contents name hostname :=
    bindings_record plain other contents
  refine ⟨left, ?_⟩
  rw [left]
  constructor
  · intro same shared member _ named
    obtain ⟨first, begins⟩ := head?_of_mentions named
    have bound : first ∈ bindings contents name := mem_bindings.mpr ⟨shared, member, named, begins⟩
    rw [begins]
    exact mem_bindingsApart.mp ((same first).mpr bound)
  · intro told address
    constructor
    · intro kept
      obtain ⟨line, member, named, -, begins⟩ := mem_bindingsApart.mp kept
      exact mem_bindings.mpr ⟨line, member, named, begins⟩
    · intro bound
      obtain ⟨line, member, named, begins⟩ := mem_bindings.mp bound
      cases both : mentions hostname line with
      | false => exact mem_bindingsApart.mpr ⟨line, member, named, both, begins⟩
      | true =>
        obtain ⟨apart, member', named', unnamed, same⟩ := told line member both named
        exact mem_bindingsApart.mpr ⟨apart, member', named', unnamed, same.trans begins⟩

/-- A host that two lines name with one address keeps it when the line that it shares gives way. -/
theorem record_spares_iff_where_repeated :
    let contents := "10.0.0.1 vm-a vm-b\n10.0.0.1\tvm-c  vm-b # backup\r\n"
    let after := record contents "vm-a" (.v4 10 0 0 9)
    Plain "vm-a" ∧ "vm-b" ≠ "vm-a" ∧
      after = "10.0.0.1\tvm-c  vm-b # backup\n10.0.0.9 vm-a\n" ∧
      bindings after "vm-b" = bindingsApart contents "vm-b" "vm-a" ∧
      ∀ address, address ∈ bindings after "vm-b" ↔ address ∈ bindings contents "vm-b" := by
  intro contents after
  have plain : Plain "vm-a" := ⟨by decide, List.forall_iff_forall_mem.mp (by decide)⟩
  have other : "vm-b" ≠ "vm-a" := by decide
  obtain ⟨left, spared⟩ := record_spares_iff plain other contents (.v4 10 0 0 9)
  exact ⟨plain, other, by decide, left, spared.mpr (by decide)⟩

/-- Two hosts in one line: when the first one is recorded anew, the second one is bound to nothing. -/
theorem shared_line_is_lost :
    let contents := "10.0.0.1 vm-a vm-b\n"
    Plain "vm-a" ∧ "vm-b" ≠ "vm-a" ∧ bindings contents "vm-b" = ["10.0.0.1".toList] ∧
      bindings (record contents "vm-a" (.v4 10 0 0 9)) "vm-b" = [] :=
  ⟨⟨by decide, List.forall_iff_forall_mem.mp (by decide)⟩, by decide, by decide, by decide⟩

end InstancePool.HostsFile
