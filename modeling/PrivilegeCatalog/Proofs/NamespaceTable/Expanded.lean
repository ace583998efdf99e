import PrivilegeCatalog.Proofs.Names.Grammar
import PrivilegeCatalog.Proofs.NamespaceTable.OneToOne

/-!
# Expanded names

An expanded name is a URI in braces and a stem. A URI may hold braces of its own, but no stem
does, so the last closing brace of an expanded name is the one that ends its URI. Under one-to-one
bindings a name is therefore known from its expanded form (`NamespaceTable.expand_inj`).
-/

namespace PrivilegeCatalog

/-! ## The last brace -/

/-- The parts of a text before its last mark and after it, if it has one. -/
def cutAtLast (mark : Char) : List Char → Option (List Char × List Char)
  | [] => none
  | c :: rest =>
    match cutAtLast mark rest with
    | some (front, back) => some (c :: front, back)
    | none => if c = mark then some ([], rest) else none

section Cut

variable {mark : Char} {front back : List Char}

theorem cutAtLast_of_not_mem (none_ : mark ∉ back) : cutAtLast mark back = none := by
  induction back with
  | nil => rfl
  | cons c rest ih =>
    rw [List.mem_cons, not_or] at none_
    rcases none_ with ⟨other, later⟩
    rw [cutAtLast, ih later]
    exact if_neg (Ne.symm other)

/-- The last mark is the one after which there is none. -/
theorem cutAtLast_append (none_ : mark ∉ back) :
    cutAtLast mark (front ++ mark :: back) = some (front, back) := by
  induction front with
  | nil =>
    rw [List.nil_append, cutAtLast, cutAtLast_of_not_mem none_]
    exact if_pos rfl
  | cons c rest ih => rw [List.cons_append, cutAtLast, ih]

/-- What stands before the last mark and after it is told by the whole. -/
theorem around_last_inj {front' back' : List Char} (none_ : mark ∉ back) (none' : mark ∉ back')
    (same : front ++ mark :: back = front' ++ mark :: back') : front = front' ∧ back = back' := by
  have cut := congrArg (cutAtLast mark) same
  rw [cutAtLast_append none_, cutAtLast_append none'] at cut
  exact Prod.mk.inj (Option.some.inj cut)

end Cut

namespace NamespaceTable

variable {t t' : NamespaceTable} {text : String}

theorem uriOf?_eq_some (h : OneToOne t.bindings) {label uri : String} :
    t.uriOf? label = some uri ↔ (label, uri) ∈ t.bindings := Dictionary.find?_eq_some h

/-! ## Expansion -/

/-- A name is expanded when its label is bound. -/
theorem expand_eq_ok {expanded : String} :
    t.expand text = .ok expanded ↔ ∃ parts uri, QualifiedName.ofText text = .ok parts
      ∧ t.uriOf? parts.label = some uri ∧ expanded = "\x7b" ++ uri ++ "\x7d" ++ parts.stem := by
  unfold expand
  cases made : QualifiedName.ofText text with
  | error fault => simp
  | ok parts =>
    unfold resolveLabel
    cases bound : t.uriOf? parts.label with
    | none => simp [bound]
    | some uri => simp [bound, eq_comm]

/-- The expansion of a name whose label is bound. -/
theorem expand_name {name : Name} {uri : String} (bound : t.uriOf? name.label = some uri) :
    t.expand name.text = .ok ("\x7b" ++ uri ++ "\x7d" ++ name.stem) :=
  expand_eq_ok.mpr ⟨name.parts, uri, name.ofText_parts, bound, rfl⟩

theorem toList_expanded (uri stem : String) :
    ("\x7b" ++ uri ++ "\x7d" ++ stem).toList
      = '\x7b' :: (uri.toList ++ '\x7d' :: stem.toList) := by
  simp only [String.toList_append]
  rw [List.append_assoc, List.append_assoc]
  rfl

/-- An expanded name tells its URI and its stem. -/
theorem expanded_inj {uri uri' stem stem' : String} (none : '\x7d' ∉ stem.toList)
    (none' : '\x7d' ∉ stem'.toList)
    (same : "\x7b" ++ uri ++ "\x7d" ++ stem = "\x7b" ++ uri' ++ "\x7d" ++ stem') :
    uri = uri' ∧ stem = stem' := by
  have chars := congrArg String.toList same
  rw [toList_expanded, toList_expanded] at chars
  obtain ⟨uris, stems⟩ := around_last_inj none none' (List.cons.inj chars).2
  exact ⟨String.toList_inj.mp uris, String.toList_inj.mp stems⟩

/-- Under one-to-one bindings no two names have the same expanded form. -/
theorem expand_inj (h : OneToOne t.bindings) {text' expanded : String}
    (first : t.expand text = .ok expanded) (second : t.expand text' = .ok expanded) :
    text = text' := by
  obtain ⟨parts, uri, made, bound, same⟩ := expand_eq_ok.mp first
  obtain ⟨parts', uri', made', bound', same'⟩ := expand_eq_ok.mp second
  have brace : '\x7d' ∈ QualifiedName.stemMarks := by decide
  have none := QualifiedName.not_mem_stem made brace
  have none' := QualifiedName.not_mem_stem made' brace
  obtain ⟨uris, stems⟩ := expanded_inj none none' (same.symm.trans same')
  have labels : parts.label = parts'.label :=
    (h _ ((uriOf?_eq_some h).mp bound) _ ((uriOf?_eq_some h).mp bound')).mpr uris
  have equal : parts = parts' := by
    cases parts
    cases parts'
    simp only at labels stems
    rw [labels, stems]
  rw [equal] at made
  exact QualifiedName.text_inj made made'

/-- Two tables expand a name to the same form exactly when they bind its label to the same URI. -/
theorem expand_eq_iff {name : Name} {uri : String} (bound : t.uriOf? name.label = some uri) :
    t'.expand name.text = t.expand name.text ↔ t'.uriOf? name.label = some uri := by
  rw [expand_name bound]
  constructor
  · intro same
    obtain ⟨parts, uri', made, bound', equal⟩ := expand_eq_ok.mp same
    rw [name.ofText_parts] at made
    cases made
    have brace : '\x7d' ∈ QualifiedName.stemMarks := by decide
    have none := QualifiedName.not_mem_stem name.ofText_parts brace
    obtain ⟨uris, -⟩ := expanded_inj none none equal
    rw [uris]
    exact bound'
  · exact expand_name

end NamespaceTable

end PrivilegeCatalog
