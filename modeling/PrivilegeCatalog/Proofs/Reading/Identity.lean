import PrivilegeCatalog.Proofs.NamespaceTable.Expanded
import PrivilegeCatalog.Proofs.Reading.Accepted
import PrivilegeCatalog.Proofs.Xml.Doctype.Keys

/-!
# The names of a catalog that was read

Each name in a catalog that was read holds no blank and has an expanded form, and no two
privileges have the same one (`read_names_are_global`). A name may be written with a line feed at
the end of its label, but no document binds such a label, so that the look-up of labels is what
keeps it out.
-/

namespace PrivilegeCatalog.Reading

open Xml (Content)

variable {source : String} {content : Content} {catalog : Catalog}

/-- Only characters of names stand in the labels of a catalog that was read. -/
theorem wordChars_of_bound (read : (ofContent source content).outcome = .ok catalog)
    {b : String × String} (bound : b ∈ catalog.namespaces.bindings) :
    Xml.WordChars b.1.toList := by
  have whole := (Bool.and_eq_true_iff.mp (wellFormed_of_read read)).1
  obtain ⟨root, events, -, denotes⟩ := exists_root_of_read read
  rw [bindings_of_denotes denotes] at bound
  rcases mem_completed.mp bound with declared | ⟨known, -⟩
  · have told := (declares_of_namespaces declared).1
    rw [← events] at told
    exact Xml.Scan.wordChars_of_declares whole told
  · have words : ∀ a ∈ wellKnown, a.1.toList.all Xml.isWordChar = true := by decide
    exact List.all_eq_true.mp (words b known)

/-- No name in a catalog that was read holds a blank. -/
theorem not_blank_of_read (read : (ofContent source content).outcome = .ok catalog)
    {p : Privilege} (inside : p ∈ catalog.privileges) {name : Name} (named : name ∈ p.names) :
    ∀ c ∈ name.text.toList, Text.isBlank c = false := by
  have accepted := accepted_of_read read
  obtain ⟨uri, bound⟩ := accepted.labels p inside name named
  refine name.not_blank (accepted.texts p inside name named).2 ?_
  intro feed
  have word : Xml.isWordChar '\n' = true := wordChars_of_bound read bound '\n' feed
  exact absurd word (by decide)

/-- Every name in a catalog that was read is free of blanks and can be expanded, and no two
privileges are the same under their expanded names. -/
theorem read_names_are_global (source : String) (content : Content) (catalog : Catalog)
    (read : (ofContent source content).outcome = .ok catalog) :
    (∀ p ∈ catalog.privileges, ∀ name ∈ p.names,
        (∀ c ∈ name.text.toList, Text.isBlank c = false)
          ∧ ∃ expanded, catalog.namespaces.expand name.text = .ok expanded)
      ∧ catalog.privileges.Pairwise fun p q => ∀ expanded,
          catalog.namespaces.expand p.name.text = .ok expanded →
            catalog.namespaces.expand q.name.text ≠ .ok expanded := by
  have accepted := accepted_of_read read
  refine ⟨fun p inside name named => ⟨not_blank_of_read read inside named, ?_⟩, ?_⟩
  · obtain ⟨uri, bound⟩ := accepted.labels p inside name named
    exact ⟨_, NamespaceTable.expand_name (accepted.uriOf?_iff.mpr bound)⟩
  · have distinct := List.pairwise_map.mp accepted.distinct
    refine distinct.imp fun {p q} other expanded first second => other ?_
    exact Name.eq_of_text (NamespaceTable.expand_inj accepted.oneToOne first second)

/-- A document whose type declares a label by default, with a brace in its URI. -/
theorem names_with_braces_are_global :
    let content := Content.text ("<!DOCTYPE privileges [<!ATTLIST privileges xmlns:p CDATA "
      ++ "'http://[\x7d]/'>]><privileges>"
      ++ "<privilege name=' p:a '><contains name='jcr:a'/></privilege>"
      ++ "<privilege name='a'/></privileges>")
    let catalog : Catalog := ⟨[⟨⟨"p:a", rfl⟩, false, [⟨"jcr:a", rfl⟩]⟩, ⟨⟨"a", rfl⟩, false, []⟩],
      (NamespaceTable.ofPairs (("p", "http://[\x7d]/") :: wellKnown)).freeze⟩
    (ofContent "" content).outcome = .ok catalog
      ∧ (∀ p ∈ catalog.privileges, ∀ name ∈ p.names,
          (∀ c ∈ name.text.toList, Text.isBlank c = false)
            ∧ ∃ expanded, catalog.namespaces.expand name.text = .ok expanded)
        ∧ catalog.privileges.Pairwise fun p q => ∀ expanded,
            catalog.namespaces.expand p.name.text = .ok expanded →
              catalog.namespaces.expand q.name.text ≠ .ok expanded := by
  intro content catalog
  have read : (ofContent "" content).outcome = .ok catalog := by decide +kernel
  exact ⟨read, read_names_are_global "" content catalog read⟩

end PrivilegeCatalog.Reading
