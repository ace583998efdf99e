import PrivilegeCatalog.Proofs.NamespaceTable.Expanded
import PrivilegeCatalog.Proofs.NamespaceTable.Reachable

/-!
# Names from their expanded forms

An expanded name is turned back by a cut at its last closing brace: what stands before it is the
URI, which a table resolves to a label, and what stands after it is the stem. In every state that
can be reached this gives back each name that was expanded, whatever its URI holds, so that two
names have the same expanded form only if they are the same (`expanded_names_are_unambiguous`).
-/

namespace PrivilegeCatalog

namespace NamespaceTable

variable {t : NamespaceTable} {name expanded : String}

/-- A name from its expanded form. After the leading brace the form is cut at its last closing
brace into a URI and a stem, and the URI is replaced by its label. -/
def contract (t : NamespaceTable) (expanded : String) : Option String :=
  match expanded.toList with
  | '\x7b' :: rest =>
    match cutAtLast '\x7d' rest with
    | some (uri, stem) =>
      match t.resolveUri (String.ofList uri) with
      | .ok label => some (QualifiedName.written ⟨label, String.ofList stem⟩)
      | .error _ => none
    | none => none
  | _ => none

/-- A name is known from its expanded form when labels and URIs are tied one to one. -/
theorem contract_expand (h : t.Bijective) (done : t.expand name = .ok expanded) :
    t.contract expanded = some name := by
  obtain ⟨parts, uri, made, bound, rfl⟩ := expand_eq_ok.mp done
  have brace : '\x7d' ∈ QualifiedName.stemMarks := by decide
  have stem := QualifiedName.not_mem_stem made brace
  have label : t.resolveUri uri = .ok parts.label :=
    h.resolveUri_iff.mpr ((uriOf?_eq_some h.apart.oneToOne).mp bound)
  rw [contract, toList_expanded]
  simp only [cutAtLast_append stem, String.ofList_toList, label]
  rw [QualifiedName.written_of_ofText made]

/-- In every state that can be reached two names have the same expanded form exactly when they are
the same, and the name is recovered from its form. -/
theorem expanded_names_are_unambiguous (reachable : t.Reachable) :
    (∀ name name' expanded expanded', t.expand name = .ok expanded →
        t.expand name' = .ok expanded' → (expanded = expanded' ↔ name = name'))
      ∧ ∀ name expanded, t.expand name = .ok expanded → t.contract expanded = some name := by
  have h := reachable.bijective
  refine ⟨fun name name' expanded expanded' done done' => ?_, fun _ _ => contract_expand h⟩
  constructor
  · intro same
    rw [← same] at done'
    exact expand_inj h.apart.oneToOne done done'
  · intro same
    rw [← same, done] at done'
    exact Except.ok.inj done'

/-- One URI ends in what looks like the end of another one and a stem, and names of the empty
label and of a label that ends in a line feed have forms of their own. -/
theorem braces_in_uris_are_recovered :
    let t : NamespaceTable :=
      { uris := [("", "u"), ("p", "u\x7da\x7bv"), ("q\n", "")],
        labels := [("u", ""), ("u\x7da\x7bv", "p"), ("", "q\n")] }
    t.Reachable ∧ t.expand "a" = .ok "\x7bu\x7da" ∧ t.expand "p:a" = .ok "\x7bu\x7da\x7bv\x7da"
      ∧ t.contract "\x7bu\x7da" = some "a" ∧ t.contract "\x7bu\x7da\x7bv\x7da" = some "p:a"
      ∧ t.contract "\x7b\x7da\n" = some "q\n:a\n"
      ∧ ("\x7bu\x7da" = "\x7bu\x7da\x7bv\x7da" ↔ "a" = "p:a") := by
  intro t
  have made : (ofBindings [("", "u"), ("p", "u\x7da\x7bv"), ("q\n", "")]).outcome
      = .ok t := by decide
  have reachable : t.Reachable := ⟨t, .ofBindings _ made, [], rfl⟩
  obtain ⟨unambiguous, recovered⟩ := expanded_names_are_unambiguous reachable
  have bare : t.expand "a" = .ok "\x7bu\x7da" := by decide
  have braced : t.expand "p:a" = .ok "\x7bu\x7da\x7bv\x7da" := by decide +kernel
  have feeds : t.expand "q\n:a\n" = .ok "\x7b\x7da\n" := by decide +kernel
  exact ⟨reachable, bare, braced, recovered _ _ bare, recovered _ _ braced, recovered _ _ feeds,
    unambiguous _ _ _ _ bare braced⟩

end NamespaceTable

end PrivilegeCatalog
