import PrivilegeCatalog.Formatting
import PrivilegeCatalog.Proofs.Reading.Bindings

/-!
# The namespaces of a formatted document

A document in canonical form shows the bindings that were kept of it and the further ones, each of
them once (`shown`). The two agree when all of them together are one-to-one, and nothing else can
go wrong (`namespaces_ok`).
-/

namespace PrivilegeCatalog

/-! ## Labels in use -/

namespace Privilege

theorem mem_insertOnce {s t : String} {texts : List String} :
    t ∈ labels.insertOnce texts s ↔ t = s ∨ t ∈ texts := by
  induction texts with
  | nil => rw [labels.insertOnce, List.mem_singleton, List.mem_nil_iff, or_false]
  | cons first rest ih =>
    rw [labels.insertOnce]
    split
    case isTrue same =>
      rw [same, List.mem_cons, ← or_assoc, or_self]
    case isFalse =>
      split
      case isTrue => rw [List.mem_cons]
      case isFalse => rw [List.mem_cons, List.mem_cons, ih, or_left_comm]

/-- The labels of a privilege are those of its names. -/
theorem mem_labels {p : Privilege} {label : String} :
    label ∈ p.labels ↔ ∃ name ∈ p.names, name.label = label := by
  have folded : ∀ texts taken, label ∈ List.foldl labels.insertOnce taken texts
      ↔ label ∈ texts ∨ label ∈ taken := by
    intro texts
    induction texts with
    | nil => simp
    | cons first rest ih =>
      intro taken
      rw [List.foldl_cons, ih, mem_insertOnce, List.mem_cons, or_left_comm, or_assoc]
  rw [labels, folded, List.mem_map, List.mem_nil_iff, or_false]

end Privilege

namespace Formatting

open Reading (tableOf oneToOne_eraseDups oneToOne_eraseDups_append eraseDups_append_singleton)

/-- Some name in the privileges has the label. -/
def Uses (privileges : List Privilege) (label : String) : Prop :=
  ∃ p ∈ privileges, ∃ name ∈ p.names, name.label = label

theorem isUsed_iff {privileges : List Privilege} {label : String} :
    isUsed privileges label = true ↔ Uses privileges label := by
  simp only [isUsed, List.any_eq_true, List.contains_iff_mem, Privilege.mem_labels, Uses]

theorem isWellKnown_iff {b : String × String} : isWellKnown b = true ↔ b ∈ wellKnown := by
  rw [isWellKnown, beq_iff_eq, Dictionary.find?_eq_some NamespaceTable.oneToOne_wellKnown]

/-- All bindings are kept but those of the well-known ones that are not used. -/
theorem mem_kept {catalog : Catalog} {b : String × String} :
    b ∈ kept catalog ↔
      b ∈ catalog.namespaces.bindings ∧ (b ∈ wellKnown → Uses catalog.privileges b.1) := by
  rw [kept, List.mem_filter, Bool.or_eq_true, isUsed_iff, Bool.not_eq_true', ← Bool.not_eq_true,
    isWellKnown_iff, imp_iff_not_or]

/-! ## Binding several pairs -/

section

variable {bound more : List (String × String)} {label uri : String}

theorem bind_tableOf_ok (h : OneToOne bound) :
    ((tableOf bound).bind label uri).answer = .ok () ↔ OneToOne (bound ++ [(label, uri)]) := by
  rw [tableOf, NamespaceTable.bind_ofPairs_ok (oneToOne_eraseDups.mpr h),
    oneToOne_eraseDups_append]

theorem bind_tableOf_table (h : OneToOne (bound ++ [(label, uri)])) :
    ((tableOf bound).bind label uri).table = tableOf (bound ++ [(label, uri)]) := by
  rw [tableOf, NamespaceTable.bind_ofPairs_table (oneToOne_eraseDups_append.mpr h), tableOf,
    eraseDups_append_singleton]

/-- Pairs are bound one after another when all of them are one-to-one with those that are bound
already, and then the table holds each of them once. -/
theorem bindAll_ok (h : OneToOne bound) {table : NamespaceTable} :
    ((tableOf bound).bindAll more).logged.outcome = .ok table ↔
      OneToOne (bound ++ more) ∧ table = tableOf (bound ++ more) := by
  induction more generalizing bound with
  | nil =>
    rw [List.append_nil]
    exact ⟨fun done => ⟨h, (Except.ok.inj done).symm⟩, fun given => congrArg _ given.2.symm⟩
  | cons b rest ih =>
    obtain ⟨label, uri⟩ := b
    have cut : bound ++ (label, uri) :: rest = bound ++ [(label, uri)] ++ rest := by
      rw [List.append_assoc, List.singleton_append]
    have answer := @bind_tableOf_ok bound label uri h
    rw [cut, NamespaceTable.bindAll, NamespaceTable.Effect.logged]
    by_cases first : OneToOne (bound ++ [(label, uri)])
    · rw [answer.mpr first, bind_tableOf_table first]
      exact ih first
    · have refused : OneToOne (bound ++ [(label, uri)] ++ rest) → False :=
        fun all => first (all.of_subset (List.subset_append_left _ _))
      cases answered : ((tableOf bound).bind label uri).answer with
      | ok _ => exact (first (answer.mp answered)).elim
      | error fault =>
        refine ⟨fun done => ?_, fun given => (refused given.1).elim⟩
        cases done

/-- The table of one-to-one pairs is made by binding them. -/
theorem outcome_ofBindings (h : OneToOne more) :
    (NamespaceTable.ofBindings more).outcome = .ok (tableOf more) :=
  (bindAll_ok OneToOne.nil).mpr ⟨h, rfl⟩

end

/-! ## Documents -/

/-- The bindings that a document in canonical form shows. -/
def shown (catalog : Catalog) (extra : Dictionary) : List (String × String) :=
  (kept catalog ++ extra).eraseDups

theorem mem_shown {catalog : Catalog} {extra : Dictionary} {b : String × String} :
    b ∈ shown catalog extra ↔ b ∈ kept catalog ∨ b ∈ extra := by
  rw [shown, List.mem_eraseDups, List.mem_append]

theorem oneToOne_kept {catalog : Catalog} (h : OneToOne catalog.namespaces.bindings) :
    OneToOne (kept catalog) :=
  h.of_subset (List.filter_subset_self _)

/-- The namespaces of a document and further ones agree when they are one-to-one. -/
theorem namespaces_ok {catalog : Catalog} {extra : Dictionary}
    (h : OneToOne catalog.namespaces.bindings) {table : NamespaceTable} :
    (namespaces catalog extra).outcome = .ok table ↔
      OneToOne (shown catalog extra)
        ∧ table = (NamespaceTable.ofPairs (shown catalog extra)).freeze := by
  have own := oneToOne_kept h
  simp only [namespaces, Logged.outcome_bind_eq_ok, outcome_ofBindings own, Logged.outcome_pure,
    Except.ok.injEq, exists_eq_left']
  rw [shown, oneToOne_eraseDups]
  constructor
  · intro done
    rcases done with ⟨all, united, frozen⟩
    obtain ⟨oneToOne, rfl⟩ := (bindAll_ok own).mp united
    exact ⟨oneToOne, frozen.symm⟩
  · intro given
    rcases given with ⟨oneToOne, same⟩
    exact ⟨_, (bindAll_ok own).mpr ⟨oneToOne, rfl⟩, same.symm⟩

end Formatting

end PrivilegeCatalog
