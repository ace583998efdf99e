import Mathlib.Data.List.Forall2
import Mathlib.Data.List.Nodup
import PrivilegeCatalog.Proofs.Names
import PrivilegeCatalog.Proofs.Writing.Bytes

/-!
# The written form is canonical

Two written documents are the same bytes exactly when they hold the same privileges and their
mappings have the same declared bindings (`written_eq_iff`). The tree that is scanned determines
the privileges, whether or not they would be read back. It does not determine the bindings,
because a document may hold some that XML does not let it declare; these are told apart by the
text of the start tag.
-/

namespace PrivilegeCatalog.Writing

open Xml (Content Node TagDraft Writable attributesText declarations escapeValue)

/-! ## Privileges -/

theorem memberNode_leftUnique : Relator.LeftUnique MemberNode := by
  intro name name' node first second
  obtain ⟨line, same⟩ := first
  obtain ⟨line', same'⟩ := second
  rw [same] at same'
  simp only [Node.mk.injEq, Xml.Tag.mk.injEq, List.cons.injEq, Prod.mk.injEq, true_and,
    and_true] at same'
  exact Name.eq_of_text same'.2

/-- The attributes of a privilege tell its name and whether it is abstract. -/
theorem entryAttributes_inj {p q : Privilege} (same : entryAttributes p = entryAttributes q) :
    p.name = q.name ∧ p.isAbstract = q.isAbstract := by
  rw [entryAttributes, entryAttributes] at same
  obtain ⟨marks, names⟩ := List.append_inj' same rfl
  refine ⟨?_, ?_⟩
  · simp only [List.cons.injEq, Prod.mk.injEq, true_and, and_true] at names
    exact Name.eq_of_text names
  · cases first : p.isAbstract <;> cases second : q.isAbstract <;> simp [first, second] at marks ⊢

theorem entryNode_leftUnique : Relator.LeftUnique EntryNode := by
  intro p q node first second
  obtain ⟨line, nodes, same, members⟩ := first
  obtain ⟨line', nodes', same', members'⟩ := second
  rw [same] at same'
  simp only [Node.mk.injEq, Xml.Tag.mk.injEq, true_and] at same'
  obtain ⟨⟨-, attributes⟩, children⟩ := same'
  rw [← children] at members'
  obtain ⟨name, isAbstract⟩ := entryAttributes_inj attributes
  have equal : p.members = q.members :=
    List.left_unique_forall₂' memberNode_leftUnique members members'
  cases p
  cases q
  simp only at name isAbstract equal
  rw [name, isAbstract, equal]

/-- A written tree holds the privileges of one list only. -/
theorem privileges_of_rootNode {privileges privileges' : List Privilege}
    {bindings bindings' : List (String × String)} {node : Node}
    (first : RootNode privileges bindings node) (second : RootNode privileges' bindings' node) :
    privileges = privileges' := by
  obtain ⟨line, nodes, same, entries⟩ := first
  obtain ⟨line', nodes', same', entries'⟩ := second
  rw [same] at same'
  simp only [Node.mk.injEq] at same'
  rw [← same'.2.2] at entries'
  exact List.left_unique_forall₂' entryNode_leftUnique entries entries'

/-! ## Bindings -/

/-- Writable attributes are told apart by their texts. -/
theorem attributesText_inj {first second : List (List Char × List Char)}
    (writable : Writable first) (writable' : Writable second)
    (same : attributesText first = attributesText second) : first = second := by
  have empty : TagDraft.Holds ⟨[], [], .name []⟩ [] [] := ⟨rfl, rfl, trivial⟩
  obtain ⟨d, filled, holds⟩ := TagDraft.fill_attributes empty writable
  obtain ⟨d', filled', holds'⟩ := TagDraft.fill_attributes empty writable'
  rw [same, filled'] at filled
  rw [Option.some.inj filled] at holds'
  exact holds.attributes.symm.trans holds'.attributes

/-- Declarations with escaped namespaces are those of one list of bindings only. -/
theorem declarations_injective : Function.Injective (declarations escapeValue) := by
  have one : Function.Injective fun b : String × String =>
      ("xmlns:".toList ++ b.1.toList, escapeValue b.2.toList) := by
    intro a b same
    obtain ⟨label, uri⟩ := Prod.mk.inj same
    exact Prod.ext (String.toList_inj.mp (List.append_cancel_left label))
      (String.toList_inj.mp (Xml.escapeValue_injective uri))
  exact List.map_injective_iff.mpr one

/-- Declarations are written as attributes with escaped values. -/
theorem attributesText_declarations (bindings : List (String × String)) :
    attributesText (declarations escapeValue bindings) = bindings.flatMap declaration := by
  rw [attributesText, declarations, List.flatMap_map]
  rfl

/-- Bindings are declared in the order of their labels. -/
theorem sorted_declared (namespaces : Dictionary) :
    (declared namespaces).Pairwise fun a b => decide (a.1 ≤ b.1) = true := by
  refine List.pairwise_mergeSort (fun a b c below above => ?_) (fun a b => ?_) _
  · exact decide_eq_true (String.le_trans (of_decide_eq_true below) (of_decide_eq_true above))
  · simpa using String.le_total a.1 b.1

/-- Mappings with the same declared bindings declare them in the same order. -/
theorem declared_eq_iff {namespaces namespaces' : Dictionary}
    (keys : (namespaces.map Prod.fst).Nodup) (keys' : (namespaces'.map Prod.fst).Nodup) :
    declared namespaces = declared namespaces' ↔
      ∀ b, IsDeclaredIn namespaces b ↔ IsDeclaredIn namespaces' b := by
  simp only [← mem_declared_iff]
  constructor
  · intro same b
    rw [same]
  · intro same
    have distinct := nodup_declared keys
    have distinct' := nodup_declared keys'
    have perm : (declared namespaces).Perm (declared namespaces') :=
      (List.perm_ext_iff_of_nodup (.of_map _ distinct) (.of_map _ distinct')).mpr same
    refine perm.eq_of_pairwise ?_ (sorted_declared _) (sorted_declared _)
    intro a b inside inside' below above
    have label : a.1 = b.1 :=
      String.le_antisymm (of_decide_eq_true below) (of_decide_eq_true above)
    exact List.inj_on_of_nodup_map distinct inside ((same b).mpr inside') label

/-! ## Documents -/

/-- Elements that differ in their attributes alone have different texts. -/
theorem element_inj {indent name : String} {depth : Nat} {children : List (List Char)}
    {attributes attributes' : List Char}
    (same : element indent depth name attributes children
      = element indent depth name attributes' children) : attributes = attributes' := by
  rw [element, element] at same
  split at same
  case isTrue => exact List.append_cancel_left (List.cons.inj (List.append_cancel_right same)).2
  case isFalse =>
    simp only [List.append_assoc] at same
    exact List.append_cancel_left (List.cons.inj (List.append_cancel_right same)).2

section

variable {layout : Layout} {privileges privileges' : List Privilege}
  {namespaces namespaces' : Dictionary}

/-- The characters of a written document tell its privileges and its declared bindings. -/
theorem lines_inj (utf8 : IsUtf8 layout) (keys : (namespaces.map Prod.fst).Nodup)
    (keys' : (namespaces'.map Prod.fst).Nodup)
    (checked : Checked layout.indent privileges namespaces)
    (checked' : Checked layout.indent privileges' namespaces')
    (same : lines layout privileges namespaces = lines layout privileges' namespaces') :
    privileges = privileges' ∧ declared namespaces = declared namespaces' := by
  obtain ⟨node, given, told⟩ := document_written utf8 keys checked
  obtain ⟨node', given', told'⟩ := document_written utf8 keys' checked'
  rw [same, told'] at told
  have tree := Node.events_injective (congrArg Xml.Document.events told)
  rw [tree] at given'
  have equal := privileges_of_rootNode given given'
  refine ⟨equal, ?_⟩
  -- The heading, the entries and the end of the documents are the same, so the declarations are.
  rw [lines, lines, document, document] at same
  have roots := List.append_cancel_left (List.append_cancel_right same)
  rw [root, root, ← equal] at roots
  have texts := element_inj roots
  have written := fun namespaces : Dictionary => attributesText_declarations (declared namespaces)
  rw [← written, ← written] at texts
  have isEscape := Xml.isEscape_escapeValue
  exact declarations_injective
    (attributesText_inj (checked.writable isEscape) (checked'.writable isEscape) texts)

/-- Mappings that declare the same bindings are written in the same way. -/
theorem write_congr {bytes : Bytes} (utf8 : IsUtf8 layout)
    (same : declared namespaces' = declared namespaces) :
    (write layout privileges namespaces').outcome = .ok bytes
      ↔ (write layout privileges namespaces).outcome = .ok bytes := by
  have checks : Checked layout.indent privileges namespaces'
      ↔ Checked layout.indent privileges namespaces := by
    constructor
    · exact fun checked =>
        ⟨same ▸ checked.uris, same ▸ checked.labels, checked.names, checked.indent⟩
    · exact fun checked =>
        ⟨same ▸ checked.uris, same ▸ checked.labels, checked.names, checked.indent⟩
  have texts : lines layout privileges namespaces' = lines layout privileges namespaces := by
    rw [lines, lines, document, document, root, root, same]
  rw [write_eq_ok utf8, write_eq_ok utf8, checks, texts]

/-- Mappings under which privileges are written to the same bytes declare the same bindings. -/
theorem declared_of_written {bytes : Bytes} (utf8 : IsUtf8 layout)
    (keys : (namespaces.map Prod.fst).Nodup) (keys' : (namespaces'.map Prod.fst).Nodup)
    (written : (write layout privileges namespaces).outcome = .ok bytes)
    (written' : (write layout privileges' namespaces').outcome = .ok bytes)
    (b : String × String) : IsDeclaredIn namespaces b ↔ IsDeclaredIn namespaces' b := by
  obtain ⟨checked, encoded⟩ := (write_eq_ok utf8).mp written
  obtain ⟨checked', encoded'⟩ := (write_eq_ok utf8).mp written'
  rw [encoded] at encoded'
  have same := lines_inj utf8 keys keys' checked checked' (Encoding.utf8_injective encoded')
  exact (declared_eq_iff keys keys').mp same.2 b

end

/-- Documents that are written as UTF-8 in one layout are the same bytes exactly when they are
written from the same privileges and from mappings with the same declared bindings. -/
theorem written_eq_iff (layout : Layout) (utf8 : IsUtf8 layout)
    (privileges privileges' : List Privilege) (namespaces namespaces' : Dictionary)
    (keys : (namespaces.map Prod.fst).Nodup)
    (keys' : (namespaces'.map Prod.fst).Nodup) (bytes bytes' : Bytes)
    (written : (write layout privileges namespaces).outcome = .ok bytes)
    (written' : (write layout privileges' namespaces').outcome = .ok bytes') :
    bytes = bytes' ↔ privileges = privileges'
      ∧ ∀ b, IsDeclaredIn namespaces b ↔ IsDeclaredIn namespaces' b := by
  obtain ⟨checked, encoded⟩ := (write_eq_ok utf8).mp written
  obtain ⟨checked', encoded'⟩ := (write_eq_ok utf8).mp written'
  rw [← declared_eq_iff keys keys', encoded, encoded']
  constructor
  · exact fun same => lines_inj utf8 keys keys' checked checked' (Encoding.utf8_injective same)
  · intro given
    rcases given with ⟨equal, bindings⟩
    rw [lines, lines, document, document, root, root, equal, bindings]

/-- The order of a mapping and its entries that are not declared do not show. -/
theorem written_eq_of_reordered :
    let privileges : List Privilege :=
      [⟨⟨"p:a\n", rfl⟩, true, [⟨"q:b", rfl⟩]⟩, ⟨⟨"p:a\n", rfl⟩, false, []⟩]
    let namespaces : Dictionary := [("p", "urn:p"), ("", "x")]
    let namespaces' : Dictionary := [("xml", "x"), ("q", ""), ("p", "urn:p")]
    let bytes := (lines {} privileges namespaces).flatMap Encoding.utf8Char
    let bytes' := (lines {} privileges namespaces').flatMap Encoding.utf8Char
    IsUtf8 {} ∧ (namespaces.map Prod.fst).Nodup ∧ (namespaces'.map Prod.fst).Nodup
      ∧ (write {} privileges namespaces).outcome = .ok bytes
      ∧ (write {} privileges namespaces').outcome = .ok bytes'
      ∧ (bytes = bytes' ↔ privileges = privileges
          ∧ ∀ b, IsDeclaredIn namespaces b ↔ IsDeclaredIn namespaces' b) := by
  intro privileges namespaces namespaces' bytes bytes'
  have utf8 : IsUtf8 {} := by decide +kernel
  have keys : (namespaces.map Prod.fst).Nodup := by decide
  have keys' : (namespaces'.map Prod.fst).Nodup := by decide
  have written : (write {} privileges namespaces).outcome = .ok bytes := by decide +kernel
  have written' : (write {} privileges namespaces').outcome = .ok bytes' := by decide +kernel
  exact ⟨utf8, keys, keys', written, written', written_eq_iff {} utf8 privileges privileges
    namespaces namespaces' keys keys' bytes bytes' written written'⟩

end PrivilegeCatalog.Writing
