import PrivilegeCatalog.Proofs.Reading.Accepted
import PrivilegeCatalog.Proofs.Writing.Lacking
import PrivilegeCatalog.Proofs.Writing.ReadBack

/-!
# Documents in other encodings

In every encoding with a declaration, as bytes and as text, a document is read as what it is read
as in UTF-8, when the encoding spells it (`encoded_reads_alike_iff`). An encoding that lacks a
character of a declared label does not, since it breaks the label off with a reference; and UTF-16
does not, since it sets a byte order mark between the root and the end of line.
-/

namespace PrivilegeCatalog.Writing

open Xml (Content Node spelled)

/-! ## Trees with one meaning -/

namespace RootMeaning

variable {privileges : List Privilege} {bindings : List (String × String)} {root root' : Node}

theorem namespaces_congr (meaning : RootMeaning privileges bindings root)
    (meaning' : RootMeaning privileges bindings root') : root'.namespaces = root.namespaces := by
  rw [Node.namespaces, Node.namespaces, meaning.declarations, meaning'.declarations]

theorem bindings_congr (meaning : RootMeaning privileges bindings root)
    (meaning' : RootMeaning privileges bindings root') : root'.bindings = root.bindings := by
  rw [Node.bindings, Node.bindings, meaning.namespaces_congr meaning']

/-- The names of a written document are those of any other with its meaning. -/
theorem exists_named (meaning : RootMeaning privileges bindings root)
    (meaning' : RootMeaning privileges bindings root') {tag : Xml.Tag}
    (inside : tag ∈ root'.named) : ∃ tag₀ ∈ root.named, tag₀.givenName = tag.givenName := by
  have told : tag.givenName ∈ root'.named.map Xml.Tag.givenName := List.mem_map_of_mem inside
  rw [meaning'.givenNames, ← meaning.givenNames] at told
  exact List.mem_map.mp told

theorem readable_congr (meaning : RootMeaning privileges bindings root)
    (meaning' : RootMeaning privileges bindings root') (readable : root.Readable) :
    root'.Readable := by
  refine ⟨meaning'.bare.text, ?_, fun tag inside => ?_, fun node inside => ?_, ?_,
    fun tag inside => ?_⟩
  · rw [meaning.namespaces_congr meaning']
    exact readable.namespaces
  · obtain ⟨tag₀, inside₀, same⟩ := meaning.exists_named meaning' inside
    rw [← same]
    exact readable.names tag₀ inside₀
  · rw [meaning'.entries] at inside
    obtain ⟨p, -, entry⟩ := meaning'.exists_privilege inside
    rw [entry.isAbstract]
    rfl
  · rw [meaning'.entryNames, ← meaning.entryNames]
    exact readable.distinct
  · obtain ⟨tag₀, inside₀, same⟩ := meaning.exists_named meaning' inside
    rw [← same, meaning.bindings_congr meaning']
    exact readable.labels tag₀ inside₀

theorem denotes_congr (meaning : RootMeaning privileges bindings root)
    (meaning' : RootMeaning privileges bindings root') {catalog : Catalog}
    (denotes : catalog.Denotes root) : catalog.Denotes root' where
  privileges := by
    rw [denotes.privileges, meaning.privilegeTexts, meaning'.privilegeTexts]
  namespaces := by
    rw [denotes.namespaces, meaning.bindings_congr meaning']

end RootMeaning

/-! ## Encodings that spell a document -/

/-- An encoding spells a document with the given mapping: it has no byte order mark, and it has
all characters of the labels that are declared. -/
structure Spells (e : Encoding) (namespaces : Dictionary) : Prop where
  unmarked : e ≠ .utf16
  labels : ∀ b, IsDeclaredIn namespaces b → ∀ c ∈ b.1.toList, (e.encodeChar? c).isSome = true

section

variable {layout : Layout} {e : Encoding} {privileges : List Privilege} {namespaces : Dictionary}
  {source : String}

theorem labelsIn_iff : LabelsIn e.has (declared namespaces) ↔
    ∀ b, IsDeclaredIn namespaces b → ∀ c ∈ b.1.toList, (e.encodeChar? c).isSome = true :=
  forall_congr' fun b => by rw [mem_declared_iff]; rfl

/-- What an encoding spells tells of a tree with the meaning of what was written. -/
theorem document_of_spells (known : Encoding.ofName? layout.encoding = some e)
    (keys : (namespaces.map Prod.fst).Nodup)
    (checked : Checked layout.indent privileges namespaces) (spells : Spells e namespaces) :
    ∃ node : Node, RootMeaning privileges (openBindings namespaces) node ∧
      Xml.Document.ofChars (spelledLines e layout privileges namespaces)
        = ⟨node.events, (declared namespaces).all Xml.isOpen⟩ := by
  obtain ⟨node, given, told⟩ :=
    document_spelled known (hasAscii e) keys checked (labelsIn_iff.mpr spells.labels)
  have ended : ending e = ['\n'] := if_neg spells.unmarked
  refine ⟨node, RootNode.meaning given, ?_⟩
  rw [spelledLines, ended, told]

/-- What an encoding does not spell is malformed. -/
theorem malformed_of_not_spells (known : Encoding.ofName? layout.encoding = some e)
    (keys : (namespaces.map Prod.fst).Nodup)
    (checked : Checked layout.indent privileges namespaces) (fails : ¬ Spells e namespaces) :
    (Xml.Document.ofChars (spelledLines e layout privileges namespaces)).wellFormed = false := by
  have ascii := hasAscii e
  by_cases labels : LabelsIn e.has (declared namespaces)
  · have marked : e = .utf16 := by
      by_contra unmarked
      exact fails ⟨unmarked, labelsIn_iff.mp labels⟩
    have ended : ending e = ['\ufeff'] ++ ['\n'] := if_pos marked
    have broken := broken_of_mark ascii known keys checked labels
    rw [spelledLines, ended, ← List.append_assoc]
    exact Xml.Scan.not_wellFormed_of_broken broken _
  · obtain ⟨lead, rest, shape, broken⟩ := broken_of_lacking ascii known checked labels
    rw [spelledLines, shape, List.append_assoc]
    exact Xml.Scan.not_wellFormed_of_broken broken _

/-- However the characters that were encoded are given, they are read as the document in UTF-8
when the encoding spells it, and not at all otherwise. -/
theorem read_spelled_iff (known : Encoding.ofName? layout.encoding = some e)
    (keys : (namespaces.map Prod.fst).Nodup)
    (checked : Checked layout.indent privileges namespaces) {root : Node}
    (meaning : RootMeaning privileges (openBindings namespaces) root) {content : Content}
    (decoded : content.decoded = ⟨spelledLines e layout privileges namespaces, true⟩)
    (catalog : Catalog) :
    (Reading.ofContent source content).outcome = .ok catalog ↔
      Spells e namespaces
        ∧ (declared namespaces).all Xml.isOpen = true ∧ root.Readable ∧ catalog.Denotes root := by
  have document : content.document
      = Xml.Document.ofChars (spelledLines e layout privileges namespaces) := by
    rw [Content.document, decoded]
    dsimp only
    rw [Bool.and_true]
  by_cases spells : Spells e namespaces
  · obtain ⟨root', meaning', told⟩ := document_of_spells known keys checked spells
    rw [told] at document
    rw [Reading.ofContent_ok_of_plain meaning'.plainTree (congrArg Xml.Document.events document),
      document]
    constructor
    · intro read
      rcases read with ⟨all, -, readable, denotes⟩
      exact ⟨spells, all, meaning'.readable_congr meaning readable,
        meaning'.denotes_congr meaning denotes⟩
    · intro read
      rcases read with ⟨-, all, readable, denotes⟩
      exact ⟨all, meaning'.legible, meaning.readable_congr meaning' readable,
        meaning.denotes_congr meaning' denotes⟩
  · have malformed := malformed_of_not_spells known keys checked spells
    constructor
    · intro read
      have whole := Reading.wellFormed_of_read read
      rw [document, malformed] at whole
      cases whole
    · exact fun read => (spells read.1).elim

end

/-- In every encoding that is known a document with a declaration is written when it is in UTF-8,
as bytes and as text, and both are read as the document in UTF-8 is exactly when the encoding
spells it. -/
theorem encoded_reads_alike_iff (source : String) (layout : Layout)
    (declaration : layout.declaration = true) (privileges : List Privilege)
    (namespaces : Dictionary) (keys : (namespaces.map Prod.fst).Nodup) (bytes : Bytes)
    (written : (write layout privileges namespaces).outcome = .ok bytes) :
    ∃ e text plain, Encoding.ofName? layout.encoding = some e
      ∧ (writeText layout privileges namespaces).outcome = .ok text
      ∧ (write { layout with encoding := "UTF-8" } privileges namespaces).outcome = .ok plain
      ∧ ∀ catalog,
        ((Reading.ofContent source (.bytes bytes)).outcome = .ok catalog ↔
            Spells e namespaces
              ∧ (Reading.ofContent source (.bytes plain)).outcome = .ok catalog)
          ∧ ((Reading.ofContent source (.text text)).outcome = .ok catalog ↔
            Spells e namespaces
              ∧ (Reading.ofContent source (.bytes plain)).outcome = .ok catalog) := by
  obtain ⟨e, known⟩ := known_of_write written
  obtain ⟨checked, encoded⟩ := (write_eq_ok_of_known known).mp written
  have named : Encoding.ofName? "UTF-8" = some .utf8 := by decide +kernel
  have utf8 : IsUtf8 { layout with encoding := "UTF-8" } := named
  have plain := (write_eq_ok utf8).mpr ⟨checked, rfl⟩
  obtain ⟨root, meaning, read⟩ := exists_written_root utf8 keys checked rfl
  have bytesDecoded := @decoded_encoded layout e privileges namespaces known declaration
  have textDecoded := @decoded_text layout e privileges namespaces known declaration
  refine ⟨e, _, _, known, (writeText_eq_ok_of_known known).mpr ⟨checked, rfl⟩, plain,
    fun catalog => ⟨?_, ?_⟩⟩
  · rw [read source catalog, encoded]
    exact read_spelled_iff known keys checked meaning bytesDecoded catalog
  · rw [read source catalog]
    exact read_spelled_iff known keys checked meaning textDecoded catalog

/-- A name with an accent in an encoding of ASCII alone. -/
theorem accent_is_read_alike :
    let layout : Layout := { encoding := "us-ascii" }
    let privileges : List Privilege := [⟨⟨"p:é", rfl⟩, false, []⟩]
    let namespaces : Dictionary := [("p", "urn:p")]
    let bytes := encodeDocument .ascii (document layout privileges namespaces)
    layout.declaration = true ∧ (namespaces.map Prod.fst).Nodup
      ∧ (write layout privileges namespaces).outcome = .ok bytes
      ∧ ∃ e text plain, Encoding.ofName? layout.encoding = some e
        ∧ (writeText layout privileges namespaces).outcome = .ok text
        ∧ (write { layout with encoding := "UTF-8" } privileges namespaces).outcome = .ok plain
        ∧ ∀ catalog,
          ((Reading.ofContent "" (.bytes bytes)).outcome = .ok catalog ↔
              Spells e namespaces
                ∧ (Reading.ofContent "" (.bytes plain)).outcome = .ok catalog)
            ∧ ((Reading.ofContent "" (.text text)).outcome = .ok catalog ↔
              Spells e namespaces
                ∧ (Reading.ofContent "" (.bytes plain)).outcome = .ok catalog) := by
  intro layout privileges namespaces bytes
  have keys : (namespaces.map Prod.fst).Nodup := by decide
  have written : (write layout privileges namespaces).outcome = .ok bytes := by decide +kernel
  exact ⟨rfl, keys, written,
    encoded_reads_alike_iff "" layout rfl privileges namespaces keys bytes written⟩

/-- No privileges, which are read in UTF-8 and not in UTF-16; and a label with an accent, which is
read in UTF-8 and not in ASCII. -/
theorem other_encodings_are_malformed :
    let fails := fun (layout : Layout) (namespaces : Dictionary) (catalog : Catalog) =>
      ∃ plain bytes text, (write {} [] namespaces).outcome = .ok plain
        ∧ (Reading.ofContent "" (.bytes plain)).outcome = .ok catalog
        ∧ (write layout [] namespaces).outcome = .ok bytes
        ∧ (Reading.ofContent "" (.bytes bytes)).outcome = .error (.rejected .malformed)
        ∧ (writeText layout [] namespaces).outcome = .ok text
        ∧ (Reading.ofContent "" (.text text)).outcome = .error (.rejected .malformed)
    fails { encoding := "UTF-16" } [] ⟨[], (NamespaceTable.ofPairs wellKnown).freeze⟩
      ∧ fails { encoding := "us-ascii" } [("é", "urn:x")]
        ⟨[], (NamespaceTable.ofPairs (("é", "urn:x") :: wellKnown)).freeze⟩ := by
  refine ⟨⟨encodeDocument .utf8 (document {} [] []),
      encodeDocument .utf16 (document { encoding := "UTF-16" } [] []),
      String.ofList (spelledLines .utf16 { encoding := "UTF-16" } [] []),
      ?_, ?_, ?_, ?_, ?_, ?_⟩,
    ⟨encodeDocument .utf8 (document {} [] [("é", "urn:x")]),
      encodeDocument .ascii (document { encoding := "us-ascii" } [] [("é", "urn:x")]),
      String.ofList (spelledLines .ascii { encoding := "us-ascii" } [] [("é", "urn:x")]),
      ?_, ?_, ?_, ?_, ?_, ?_⟩⟩ <;>
    decide +kernel

end PrivilegeCatalog.Writing
