import PrivilegeCatalog.Proofs.Reading.Success
import PrivilegeCatalog.Proofs.Xml.Blanks
import PrivilegeCatalog.Proofs.Xml.Names

/-!
# Reading is exact

A document that keeps the rules of XML tells of one tree, and reading it computes what the tree
means: it succeeds when the tree is a list of privileges and the local names in it can be told,
and then gives the privileges and the namespaces of the tree.

The second condition is not one on privileges. The local name of an element is looked for after
the first closing brace of its full name, and a URI may hold such a brace in the address of its
host (`bracketed_host_is_not_read`).
-/

namespace PrivilegeCatalog.Reading

open Xml (Content Node)

variable {source : String}

/-- A document that keeps the rules of XML tells of a tree whose tags have plain names. -/
theorem exists_plain_root {content : Content} (whole : content.document.wellFormed = true) :
    ∃ root : Node, content.document.events = root.events ∧ PlainTree root := by
  have sound : (Xml.Document.ofChars content.decoded.chars).wellFormed = true :=
    (Bool.and_eq_true_iff.mp whole).1
  obtain ⟨root, told⟩ := Xml.Scan.exists_root sound
  refine ⟨root, told, fun tag inside => ?_⟩
  exact Xml.Scan.isPlainName_of_whole sound (told ▸ inside)

/-- The tags of a document that keeps the rules of XML have plain names. -/
theorem plainTree_of_told {content : Content} (whole : content.document.wellFormed = true)
    {root : Node} (told : content.document.events = root.events) : PlainTree root := by
  obtain ⟨root', told', plain⟩ := exists_plain_root whole
  exact fun tag inside => plain tag (told' ▸ told ▸ inside)

/-- A document that tells of a tree with plain names is read as the tree is, when it keeps the
rules of XML. -/
theorem ofContent_ok_of_plain {content : Content} {root : Node} (plain : PlainTree root)
    (told : content.document.events = root.events) {catalog : Catalog} :
    (ofContent source content).outcome = .ok catalog ↔
      content.document.wellFormed = true ∧ root.Legible ∧ root.Readable
        ∧ catalog.Denotes root := by
  have document : content.document = ⟨root.events, content.document.wellFormed⟩ := by
    rw [← told]
  unfold ofContent
  cases empty : content.isEmpty with
  | true =>
    have unsound : content.document.wellFormed = false := by
      rw [← Bool.not_eq_true]
      intro whole
      exact absurd (Content.not_isEmpty_of_wellFormed whole) (by simp [empty])
    simp [unsound, reject, Logged.fail]
  | false => rw [if_neg Bool.false_ne_true, document, ofDocument_ok plain]

/-- A document that keeps the rules of XML is read as its tree is. -/
theorem ofContent_ok {content : Content} (whole : content.document.wellFormed = true)
    {root : Node} (told : content.document.events = root.events) {catalog : Catalog} :
    (ofContent source content).outcome = .ok catalog ↔
      root.Legible ∧ root.Readable ∧ catalog.Denotes root := by
  rw [ofContent_ok_of_plain (plainTree_of_told whole told) told, whole]
  simp only [true_and]

/-- Reading computes what the tree of a document means. It succeeds exactly when the tree is a
list of privileges and no URI is in the way of a local name that is asked for. -/
theorem ofContent_computes_meaning (source : String) (content : Content)
    (whole : content.document.wellFormed = true) :
    (∃ root : Node, content.document.events = root.events) ∧
      ∀ root : Node, content.document.events = root.events →
        ((∃ catalog, (ofContent source content).outcome = .ok catalog)
            ↔ root.Legible ∧ root.Readable)
          ∧ ∀ catalog, (ofContent source content).outcome = .ok catalog →
            catalog.Denotes root := by
  obtain ⟨root, told, -⟩ := exists_plain_root whole
  refine ⟨⟨root, told⟩, fun root told => ⟨⟨?_, ?_⟩, ?_⟩⟩
  · intro accepted
    rcases accepted with ⟨catalog, read⟩
    obtain ⟨legible, readable, -⟩ := (ofContent_ok whole told).mp read
    exact ⟨legible, readable⟩
  · intro means
    rcases means with ⟨legible, readable⟩
    obtain ⟨catalog, denotes⟩ := exists_denotes legible readable
    exact ⟨catalog, (ofContent_ok whole told).mpr ⟨legible, readable, denotes⟩⟩
  · intro catalog read
    exact ((ofContent_ok whole told).mp read).2.2

/-- A document with one privilege is read as its tree is. -/
theorem computes_meaning_of_one_privilege :
    let content := Content.text "<privileges><privilege name='a'/></privileges>"
    content.document.wellFormed = true ∧
      (∃ root : Node, content.document.events = root.events) ∧
        ∀ root : Node, content.document.events = root.events →
          ((∃ catalog, (ofContent "" content).outcome = .ok catalog)
            ↔ root.Legible ∧ root.Readable)
            ∧ ∀ catalog, (ofContent "" content).outcome = .ok catalog → catalog.Denotes root := by
  have whole : (Content.text "<privileges><privilege name='a'/></privileges>").document.wellFormed
      = true := by
    decide +kernel
  exact ⟨whole, ofContent_computes_meaning "" _ whole⟩

/-- A document that is a list of privileges and is not read: the address of the host in a
namespace that is only passed over holds a closing brace. -/
theorem bracketed_host_is_not_read :
    ∃ (content : Content) (root : Node), content.document.wellFormed = true
      ∧ content.document.events = root.events ∧ root.Readable
      ∧ ¬ ∃ catalog, (ofContent "" content).outcome = .ok catalog := by
  let root : Node := .mk [] ⟨"", "privileges", 1, []⟩
    [.mk [("p", "http://[\x7d]/")] ⟨"http://[\x7d]/", "note", 1, []⟩ []]
  have told : (Content.text
      "<privileges><p:note xmlns:p=\"http://[\x7d]/\"/></privileges>").document
        = ⟨root.events, true⟩ := by
    decide +kernel
  have noEntries : root.entries = [] := rfl
  have noNames : root.named = [] := rfl
  refine ⟨_, root, by rw [told], by rw [told], ?_, ?_⟩
  · refine ⟨rfl, ?_, ?_, ?_, ?_, ?_⟩
    · exact OneToOne.nil.append_singleton.mpr nofun
    · rw [noNames]
      exact nofun
    · rw [noEntries]
      exact nofun
    · rw [noEntries]
      exact .nil
    · rw [noNames]
      exact nofun
  · intro accepted
    rcases accepted with ⟨catalog, read⟩
    obtain ⟨legible, -, -⟩ := (ofContent_ok (by rw [told]) (by rw [told])).mp read
    have brace := legible (root.children.map Node.tag)[0] (by decide)
    exact brace (by decide)

end PrivilegeCatalog.Reading
