import PrivilegeCatalog.Proofs.Reader.Session
import PrivilegeCatalog.Proofs.Reading.Remarks

/-!
# What a reader warns of

The warnings about a document that is read are given at the first question to its reader, and
never again: neither later questions nor commands to the table repeat them (`warnings_of_uses`).
So over any session each child of the root and of an entry is in the catalog or in one warning
(`skipped_elements_are_told_once`).
-/

namespace PrivilegeCatalog.Reader

open Xml (Node)

variable {r : Reader} {catalog : Catalog}

/-- The remarks that a use gives. -/
def remarksOf (r : Reader) : Use → List Notice
  | .ask q => (r.ask q).notices
  | .command c =>
    match r.memory with
    | .read catalog => (catalog.namespaces.run c).notices
    | _ => []

/-- The remarks that some uses give, one after another. -/
def remarked (r : Reader) : List Use → List Notice
  | [] => []
  | u :: rest => r.remarksOf u ++ (r.next u).remarked rest

/-- Whether a use is a question. -/
def Use.isQuestion : Use → Bool
  | .ask _ => true
  | .command _ => false

theorem ask_notices (r : Reader) (q : Question) : (r.ask q).notices = r.catalog.notices := by
  cases q <;> rfl

/-- A reader that has kept nothing reads its source and gives the remarks about it. -/
theorem catalog_notices_of_nothing (nothing : r.memory = .nothing) :
    r.catalog.notices = (Reading.ofContent r.source r.content).notices := by
  rw [Reader.catalog, nothing]

theorem catalog_notices_of_read (known : r.memory = .read catalog) : r.catalog.notices = [] := by
  simp [Reader.catalog, known]

/-- A reader that keeps a catalog keeps one after each use, and gives no warning. -/
theorem keeps_silent (known : r.memory = .read catalog) (u : Use) :
    (∃ later, (r.next u).memory = .read later) ∧ ∀ n ∈ r.remarksOf u, n.isWarning = false := by
  cases u with
  | ask q =>
    have same := (ask_reader r q).trans (catalog_of_read known).1
    refine ⟨⟨catalog, by rw [next, same, known]⟩, ?_⟩
    rw [remarksOf, ask_notices, catalog_notices_of_read known]
    exact List.forall_mem_nil _
  | command c =>
    constructor
    · simp [next, withTable, known]
    · rw [remarksOf, known]
      exact NamespaceTable.run_silent c

/-- What is done after a document has been read gives no warning. -/
theorem silent_after_reading (known : r.memory = .read catalog) (uses : List Use) :
    ∀ n ∈ r.remarked uses, n.isWarning = false := by
  induction uses generalizing r catalog with
  | nil => nofun
  | cons u rest ih =>
    obtain ⟨⟨later, kept⟩, silent⟩ := keeps_silent known u
    exact List.forall_mem_append.mpr ⟨silent, ih kept⟩

/-- The warnings about a document are given at the first question, and at no other use. -/
theorem warnings_of_uses (nothing : r.memory = .nothing) (read : r.outcome = .ok catalog)
    (uses : List Use) :
    (r.remarked uses).filter Notice.isWarning
      = if uses.any Use.isQuestion then (Reading.ofContent r.source r.content).warnings
        else [] := by
  induction uses with
  | nil => rfl
  | cons u rest ih =>
    rw [remarked, List.filter_append]
    cases u with
    | ask q =>
      have known : (r.next (.ask q)).memory = .read catalog := by
        rw [next, ask_reader, (catalog_of_nothing nothing).2, read]
        rfl
      have later := List.filter_eq_nil_iff.mpr fun n told =>
        Bool.not_eq_true _ ▸ silent_after_reading known rest n told
      rw [later, List.append_nil, remarksOf, ask_notices, catalog_notices_of_nothing nothing]
      rfl
    | command c =>
      have idle : r.next (.command c) = r := by rw [next, nothing]
      have none : r.remarksOf (.command c) = [] := by rw [remarksOf, nothing]
      rw [idle, none, ih]
      rfl

/-- The warnings of a session with a reader whose document is read are one for each child of the
root that is no entry and one for each child of an entry that is no member, in the order of the
document and each once, as soon as there is a question. All other such children are in the
catalog, in the same order. -/
theorem skipped_elements_are_told_once (r : Reader) (nothing : r.memory = .nothing)
    (catalog : Catalog) (read : r.outcome = .ok catalog) :
    (∃ root : Node, r.content.document.events = root.events)
      ∧ ∀ root : Node, r.content.document.events = root.events →
        (∀ uses, (r.remarked uses).filter Notice.isWarning
            = if uses.any Use.isQuestion then root.remarks r.source else [])
          ∧ catalog.privileges.map Privilege.texts = root.privilegeTexts
          ∧ catalog.privileges.length + (catalog.privileges.flatMap Privilege.members).length
              + (root.remarks r.source).length
            = root.children.length + (root.entries.flatMap Node.children).length := by
  obtain ⟨root, events, -, denotes⟩ := Reading.exists_root_of_read read
  refine ⟨⟨root, events⟩, fun root' told => ?_⟩
  have same : root' = root := Node.events_injective (told.symm.trans events)
  subst same
  refine ⟨fun uses => ?_, denotes.privileges, ?_⟩
  · rw [warnings_of_uses nothing read, Reading.ofContent_warns read told]
  · have entries : catalog.privileges.length = root'.entries.length := by
      have lengths := congrArg List.length denotes.privileges
      rwa [Node.privilegeTexts, List.length_map, List.length_map] at lengths
    have members : (catalog.privileges.flatMap Privilege.members).length
        = (root'.entries.flatMap Node.members).length := by
      have names := congrArg (fun texts => (texts.flatMap (·.2.2)).length) denotes.privileges
      simpa [Node.privilegeTexts, Privilege.texts, List.flatMap_map,
        List.length_flatMap] using names
    rw [entries, members]
    exact root'.count_disposed r.source

/-- A document with children of all kinds that is asked for twice. -/
theorem notes_are_told_once :
    let r : Reader :=
      { format := .xml, source := "a.xml",
        content := .text ("<privileges>\n<n:note xmlns:n='urn:n'><privilege/></n:note>"
          ++ "<privilege name=' a '><contains name='jcr:b'/>\n<more/></privilege>"
          ++ "<contains/></privileges>") }
    r.memory = .nothing
      ∧ (∃ catalog, r.outcome = .ok catalog)
      ∧ (r.remarked [.ask .privileges, .ask .namespaces]).filter Notice.isWarning
          = [.entrySkipped "note" "a.xml" 2, .memberSkipped "more" "a",
              .entrySkipped "contains" "a.xml" 3] := by
  intro r
  let root : Node := .mk [] ⟨"", "privileges", 1, []⟩
    [.mk [("n", "urn:n")] ⟨"urn:n", "note", 2, []⟩ [.mk [] ⟨"", "privilege", 2, []⟩ []],
      .mk [] ⟨"", "privilege", 2, [("name", " a ")]⟩
        [.mk [] ⟨"", "contains", 2, [("name", "jcr:b")]⟩ [], .mk [] ⟨"", "more", 3, []⟩ []],
      .mk [] ⟨"", "contains", 3, []⟩ []]
  have told : r.content.document = ⟨root.events, true⟩ := by decide +kernel
  have filled : r.content.isEmpty = false := by decide +kernel
  have read : r.outcome = .ok ⟨[⟨⟨"a", rfl⟩, false, [⟨"jcr:b", rfl⟩]⟩],
      (NamespaceTable.ofPairs (("n", "urn:n") :: wellKnown)).freeze⟩ := by
    rw [outcome, Reading.ofContent, filled, if_neg Bool.false_ne_true, told]
    decide +kernel
  refine ⟨rfl, ⟨_, read⟩, ?_⟩
  have remarks := (skipped_elements_are_told_once r rfl _ read).2 root (by rw [told])
  rw [remarks.1]
  decide +kernel

end PrivilegeCatalog.Reader
