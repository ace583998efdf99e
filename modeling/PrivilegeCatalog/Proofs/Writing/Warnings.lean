import PrivilegeCatalog.Proofs.Formatting.Namespaces
import PrivilegeCatalog.Proofs.Writing.ReadBack

/-!
# Writing without a warning

The warnings that come with a written document tell of labels that are bound to nothing, of names
that are given twice, and of labels that are not bound (`silent_write_iff`). A document that was
written without any is read back as it was exactly when three further things hold, of which no
warning tells (`Unwarned`): no name ends in a line feed, no two labels are declared for one
namespace, and none of the declared bindings is reserved (`silent_write_reads_back_iff`).
-/

namespace PrivilegeCatalog

namespace Writing

variable {privileges : List Privilege} {namespaces : Dictionary} {layout : Layout}

/-! ## What the warnings tell -/

/-- Privileges and a mapping about which there is nothing to warn of. -/
structure Unremarkable (privileges : List Privilege) (namespaces : Dictionary) : Prop where
  uris : ∀ b ∈ namespaces, b.1 ≠ "" → b.1 ≠ xmlLabel → b.2 ≠ ""
  distinct : (privileges.map (·.name)).Nodup
  labels : ∀ p ∈ privileges, ∀ name ∈ p.names, name.label ≠ "" → namespaces.has name.label = true

theorem emptyUriNotices_eq_nil :
    emptyUriNotices namespaces = [] ↔ ∀ b ∈ namespaces, b.1 ≠ "" → b.1 ≠ xmlLabel → b.2 ≠ "" := by
  rw [emptyUriNotices, List.filterMap_eq_nil_iff]
  refine forall₂_congr fun b _ => ?_
  dsimp only
  rw [ite_eq_right_iff]
  simp only [Bool.and_eq_true, decide_eq_true_iff, reduceCtorEq, imp_false, not_and, ne_eq,
    and_imp]

/-- There is nothing to warn of in a privilege when its name is new and its labels are bound. -/
theorem privilegeNotices_eq_nil {seen : List String} {p : Privilege} :
    privilegeNotices namespaces seen p = [] ↔
      p.name.text ∉ seen
        ∧ ∀ name ∈ p.names, name.label ≠ "" → namespaces.has name.label = true := by
  have labels : (∀ label ∈ p.labels, ¬(label ≠ "" ∧ namespaces.has label = false)) ↔
      ∀ name ∈ p.names, name.label ≠ "" → namespaces.has name.label = true := by
    simp only [Privilege.mem_labels, forall_exists_index, and_imp, forall_apply_eq_imp_iff₂,
      not_and, Bool.not_eq_false]
  rw [privilegeNotices, List.append_eq_nil_iff, List.filterMap_eq_nil_iff, ← labels]
  refine and_congr ?_ (forall₂_congr fun label _ => ?_)
  · simp only [ite_eq_right_iff, List.contains_iff_mem, imp_false, List.cons_ne_self]
  · simp only [ite_eq_right_iff, Bool.and_eq_true, decide_eq_true_iff, Bool.not_eq_true',
      reduceCtorEq, imp_false]

/-- There is nothing to warn of in privileges when all names are new and all labels are bound. -/
theorem privilegesNotices_eq_nil {seen : List String} :
    privilegesNotices namespaces seen privileges = [] ↔
      ((privileges.map (·.name.text)).Nodup ∧ ∀ p ∈ privileges, p.name.text ∉ seen)
        ∧ ∀ p ∈ privileges, ∀ name ∈ p.names,
            name.label ≠ "" → namespaces.has name.label = true := by
  induction privileges generalizing seen with
  | nil => simp [privilegesNotices]
  | cons p rest ih =>
    rw [privilegesNotices, List.append_eq_nil_iff, privilegeNotices_eq_nil, ih, List.map_cons,
      List.nodup_cons, List.forall_mem_cons, List.forall_mem_cons]
    have apart : (∀ q ∈ rest, q.name.text ∉ p.name.text :: seen) ↔
        p.name.text ∉ rest.map (·.name.text) ∧ ∀ q ∈ rest, q.name.text ∉ seen := by
      simp only [List.mem_cons, not_or, List.mem_map, not_exists, not_and]
      exact forall₂_and
    rw [apart]
    constructor
    · intro given
      rcases given with ⟨⟨new, own⟩, ⟨distinct, other, others⟩, labels⟩
      exact ⟨⟨⟨other, distinct⟩, new, others⟩, own, labels⟩
    · intro given
      rcases given with ⟨⟨⟨other, distinct⟩, new, others⟩, own, labels⟩
      exact ⟨⟨new, own⟩, ⟨distinct, other, others⟩, labels⟩

theorem notices_eq_nil :
    notices privileges namespaces = [] ↔ Unremarkable privileges namespaces := by
  have texts : (privileges.map (·.name.text)).Nodup ↔ (privileges.map (·.name)).Nodup := by
    have injective : Function.Injective Name.text := fun _ _ => Name.eq_of_text
    rw [← List.nodup_map_iff injective, List.map_map]
    rfl
  rw [notices, List.append_eq_nil_iff, emptyUriNotices_eq_nil, privilegesNotices_eq_nil, texts]
  constructor
  · intro given
    rcases given with ⟨uris, ⟨distinct, -⟩, labels⟩
    exact ⟨uris, distinct, labels⟩
  · intro given
    exact ⟨given.uris, ⟨given.distinct, fun _ _ => List.not_mem_nil⟩, given.labels⟩

/-- All remarks about a privilege are warnings. -/
theorem isWarning_privilegesNotices {seen : List String} :
    ∀ n ∈ privilegesNotices namespaces seen privileges, n.isWarning = true := by
  induction privileges generalizing seen with
  | nil => exact fun n inside => (List.not_mem_nil inside).elim
  | cons p rest ih =>
    intro n inside
    rw [privilegesNotices, privilegeNotices, List.mem_append, List.mem_append] at inside
    rcases inside with (repeated | unbound) | later
    · split at repeated
      · rw [List.mem_singleton.mp repeated]
        rfl
      · cases repeated
    · obtain ⟨label, -, told⟩ := List.mem_filterMap.mp unbound
      split at told
      · rw [← Option.some.inj told]
        rfl
      · cases told
    · exact ih n later

theorem isWarning_notices : ∀ n ∈ notices privileges namespaces, n.isWarning = true := by
  intro n inside
  rcases List.mem_append.mp inside with empty | named
  · obtain ⟨b, -, told⟩ := List.mem_filterMap.mp empty
    dsimp only at told
    split at told
    · rw [← Option.some.inj told]
      rfl
    · cases told
  · exact isWarning_privilegesNotices n named

/-- Writing is silent when there is nothing to warn of, whether it succeeds or not. -/
theorem silent_write_iff :
    (write layout privileges namespaces).Silent ↔ Unremarkable privileges namespaces := by
  rw [← notices_eq_nil]
  have warnings : (∀ n ∈ notices privileges namespaces, n.isWarning = false) ↔
      notices privileges namespaces = [] := by
    rw [List.eq_nil_iff_forall_not_mem]
    refine forall₂_congr fun n inside => ?_
    simp [isWarning_notices n inside]
  rw [← warnings, Logged.Silent, write]
  split
  · rfl
  · simp only [List.forall_mem_append, List.forall_mem_singleton, Notice.isWarning, and_true]

/-! ## What they leave out -/

/-- What reading back needs and no warning tells of. -/
structure Unwarned (privileges : List Privilege) (namespaces : Dictionary) : Prop where
  feeds : ∀ p ∈ privileges, ∀ name ∈ p.names, name.text.toList.getLast? ≠ some '\n'
  uris : ∀ a b, IsDeclaredIn namespaces a → IsDeclaredIn namespaces b → a.2 = b.2 → a = b
  reserved : ∀ b, IsDeclaredIn namespaces b →
    b.1 ≠ Xml.declarationLabel ∧ b.2 ≠ Xml.reservedUri ∧ b.2 ≠ Xml.declarationUri

/-- Labels that are used are declared when there is nothing to warn of. -/
theorem Unremarkable.declared (unremarkable : Unremarkable privileges namespaces) {p : Privilege}
    (inside : p ∈ privileges) {name : Name} (named : name ∈ p.names) :
    name.label = "" ∨ name.label = xmlLabel
      ∨ ∃ uri, IsDeclaredIn namespaces (name.label, uri) := by
  by_cases empty : name.label = ""
  · exact .inl empty
  by_cases xml : name.label = xmlLabel
  · exact .inr (.inl xml)
  have bound := unremarkable.labels p inside name named empty
  obtain ⟨b, within, same⟩ := List.any_eq_true.mp bound
  have label : b.1 = name.label := by simpa using same
  have uri : b.2 ≠ "" := unremarkable.uris b within (label ▸ empty) (label ▸ xml)
  exact .inr (.inr ⟨b.2, label ▸ ⟨within, ⟨label ▸ empty, label ▸ xml⟩, uri⟩⟩)

/-- Where there is nothing to warn of, reading back needs only what no warning tells of. -/
theorem Unremarkable.readsBack_iff (unremarkable : Unremarkable privileges namespaces)
    (checked : Checked layout.indent privileges namespaces) :
    ReadsBack privileges namespaces ↔ Unwarned privileges namespaces := by
  constructor
  · intro given
    refine ⟨fun p inside name named feed => ?_, given.uris, given.reserved⟩
    have clean := given.blanks p inside name named '\n' (List.mem_of_getLast? feed)
    exact absurd clean (by decide)
  · intro given
    refine ⟨?_, unremarkable.distinct, given.uris, given.reserved, ?_⟩
    · intro p inside name named
      refine name.not_blank_of_no_feed (given.feeds p inside name named) ?_
      rcases unremarkable.declared inside named with empty | xml | ⟨uri, declared⟩
      · rw [empty]
        exact List.not_mem_nil
      · rw [xml]
        decide
      · have noFeed := no_feed_of_bound checked (.inl declared)
        exact noFeed
    · intro p inside name named
      rcases unremarkable.declared inside named with empty | xml | ⟨uri, declared⟩
      · exact .inl empty
      · exact .inr (.inl xml)
      · exact .inr (.inr ⟨uri, .inl declared⟩)

/-- What has been written as UTF-8 without a warning is read back as it was exactly when no name
ends in a line feed, no two declared bindings share a namespace, and none of them is reserved. -/
theorem silent_write_reads_back_iff (source : String) (layout : Layout) (utf8 : IsUtf8 layout)
    (privileges : List Privilege) (namespaces : Dictionary)
    (keys : (namespaces.map Prod.fst).Nodup) (bytes : Bytes)
    (written : (write layout privileges namespaces).outcome = .ok bytes)
    (silent : (write layout privileges namespaces).Silent) :
    (∃ catalog, (Reading.ofContent source (.bytes bytes)).outcome = .ok catalog
        ∧ catalog.privileges = privileges) ↔ Unwarned privileges namespaces := by
  obtain ⟨checked, same⟩ := (write_eq_ok utf8).mp written
  rw [reads_back_iff utf8 keys checked same]
  exact (silent_write_iff.mp silent).readsBack_iff checked

/-- Two privileges that are written without a warning, under a mapping with bindings that are not
declared. -/
theorem two_privileges_are_written_silently :
    let privileges : List Privilege :=
      [⟨⟨"p:a", rfl⟩, true, [⟨"b", rfl⟩, ⟨"xml:c", rfl⟩]⟩, ⟨⟨"b", rfl⟩, false, []⟩]
    let namespaces : Dictionary := [("p", "urn:p"), ("", "x"), ("xml", "")]
    let bytes := (lines {} privileges namespaces).flatMap Encoding.utf8Char
    IsUtf8 {} ∧ (namespaces.map Prod.fst).Nodup
      ∧ (write {} privileges namespaces).outcome = .ok bytes
      ∧ (write {} privileges namespaces).Silent
      ∧ ((∃ catalog, (Reading.ofContent "" (.bytes bytes)).outcome = .ok catalog
            ∧ catalog.privileges = privileges) ↔ Unwarned privileges namespaces) := by
  intro privileges namespaces bytes
  have utf8 : IsUtf8 {} := by decide +kernel
  have keys : (namespaces.map Prod.fst).Nodup := by decide
  have written : (write {} privileges namespaces).outcome = .ok bytes := by decide +kernel
  have silent : (write {} privileges namespaces).Silent := by decide +kernel
  exact ⟨utf8, keys, written, silent,
    silent_write_reads_back_iff "" {} utf8 privileges namespaces keys bytes written silent⟩

/-- The label of declarations is declared without a warning, and what is written is malformed. A
name that ends in a line feed is written without a warning, too, and is read back without it. -/
theorem silent_write_is_not_read_back :
    let p : Privilege := ⟨⟨"xmlns:a", rfl⟩, false, []⟩
    let reserved : Dictionary := [("xmlns", "urn:x")]
    let fed : Privilege := ⟨⟨"a\n", rfl⟩, false, []⟩
    let unfed : Privilege := ⟨⟨"a", rfl⟩, false, []⟩
    ((write {} [p] reserved).Silent ∧ ∃ bytes, (write {} [p] reserved).outcome = .ok bytes
        ∧ (Reading.ofContent "" (.bytes bytes)).outcome = .error (.rejected .malformed))
      ∧ (write {} [fed] []).Silent ∧ ∃ bytes, (write {} [fed] []).outcome = .ok bytes
        ∧ ∃ catalog, (Reading.ofContent "" (.bytes bytes)).outcome = .ok catalog
          ∧ catalog.privileges = [unfed] ∧ unfed ≠ fed := by
  intro p reserved fed unfed
  let read : Catalog := ⟨[unfed], (NamespaceTable.ofPairs wellKnown).freeze⟩
  refine ⟨⟨by decide +kernel, (lines {} [p] reserved).flatMap Encoding.utf8Char, ?_, ?_⟩,
    by decide +kernel, (lines {} [fed] []).flatMap Encoding.utf8Char, ?_, read, ?_, rfl, ?_⟩
  · decide +kernel
  · decide +kernel
  · decide +kernel
  · decide +kernel
  · intro same
    have text : "a" = "a\n" := congrArg (·.name.text) same
    exact absurd text (by decide)

end Writing

end PrivilegeCatalog
