import PrivilegeCatalog.Proofs.Writing.Encoded
import PrivilegeCatalog.Proofs.Xml.Blanks

/-!
# The bytes of a written document

Written as UTF-8 under any of its names, a document is decoded to the characters that were written
(`decoded_written`), and these are scanned as the tree of what was written (`document_written`).
No character is lacking in UTF-8, and what is not told by a heading is told by the start of the
root.
-/

namespace PrivilegeCatalog.Writing

open Xml (Content Node spelled)

/-! ## The names of UTF-8 -/

/-- The layout names UTF-8. -/
def IsUtf8 (layout : Layout) : Prop := Encoding.ofName? layout.encoding = some .utf8

instance (layout : Layout) : Decidable (IsUtf8 layout) :=
  inferInstanceAs (Decidable (Encoding.ofName? layout.encoding = some .utf8))

/-- UTF-8 spells all characters as they are. -/
theorem spelled_utf8 (cs : List Char) : spelled Encoding.utf8.has cs = cs :=
  Xml.spelled_of_has fun _ _ => rfl

/-! ## Decoding -/

/-- Without a heading a document starts with its root, and no encoding is declared. -/
theorem declaredEncoding?_root (more : Bytes) :
    Xml.declaredEncoding? (0x3C :: 0x70 :: more) = none := by
  have other : Xml.after? "<?xml" (((0x3C :: 0x70 :: more).takeWhile (· < 0x80)).map
      fun b => Char.ofNat b.toNat) = none := by
    rw [Xml.after?, if_neg]
    rw [List.takeWhile_cons_of_pos (by decide), List.takeWhile_cons_of_pos (by decide)]
    exact Bool.false_ne_true
  rw [Xml.declaredEncoding?, other]
  rfl

/-- A root without a heading is decoded as UTF-8. -/
theorem decodeDocument_root (more : Bytes) :
    Xml.decodeDocument (0x3C :: 0x70 :: more) = Encoding.decodeUtf8 (0x3C :: 0x70 :: more) := by
  rw [Xml.decodeDocument.eq_def]
  split
  case h_1 same => cases same
  case h_2 same => cases same
  case h_3 same => cases same
  case h_4 same => cases same
  case h_5 same => cases same
  case h_6 =>
    rw [declaredEncoding?_root]
    rfl

/-! ## Documents -/

section

variable {layout : Layout} {privileges : List Privilege} {namespaces : Dictionary}

/-- All characters that are written, the end of line included. -/
def lines (layout : Layout) (privileges : List Privilege) (namespaces : Dictionary) : List Char :=
  document layout privileges namespaces ++ ['\n']

theorem spelledLines_utf8 :
    spelledLines .utf8 layout privileges namespaces = lines layout privileges namespaces := by
  rw [spelledLines, spelled_utf8]
  rfl

/-- Writing as UTF-8 succeeds when the checks are passed. -/
theorem write_eq_ok (utf8 : IsUtf8 layout) {bytes : Bytes} :
    (write layout privileges namespaces).outcome = .ok bytes ↔
      Checked layout.indent privileges namespaces
        ∧ bytes = (lines layout privileges namespaces).flatMap Encoding.utf8Char := by
  rw [write_eq_ok_of_known utf8, spelledLines_utf8]
  rfl

/-- As text a document is written when it is as bytes, and the text is stored as those. -/
theorem writeText_eq_ok (utf8 : IsUtf8 layout) {text : String} :
    (writeText layout privileges namespaces).outcome = .ok text
      ↔ (write layout privileges namespaces).outcome
        = .ok (Encoding.utf8.encode text.toList) := by
  rw [writeText_eq_ok_of_known utf8, write_eq_ok utf8, spelledLines_utf8]
  refine and_congr_right fun _ => ?_
  constructor
  · intro same
    rw [same, String.toList_ofList]
    rfl
  · intro same
    have chars : text.toList = lines layout privileges namespaces := Encoding.utf8_injective same
    rw [← chars, String.ofList_toList]

/-- A root starts with its tag. -/
theorem root_start (indent : String) (privileges : List Privilege) (namespaces : Dictionary) :
    ∃ rest, root indent privileges namespaces = '<' :: 'p' :: rest := by
  rw [root, element]
  split
  · exact ⟨_, rfl⟩
  · exact ⟨_, rfl⟩

/-- What was written as UTF-8 is decoded. -/
theorem decoded_written (utf8 : IsUtf8 layout) :
    (Content.bytes ((lines layout privileges namespaces).flatMap Encoding.utf8Char)).decoded
      = ⟨lines layout privileges namespaces, true⟩ := by
  cases declaration : layout.declaration with
  | true =>
    have decoded := @decoded_encoded layout .utf8 privileges namespaces utf8 declaration
    rwa [spelledLines_utf8] at decoded
  | false =>
    have decoded := Encoding.decodeUtf8_encode (lines layout privileges namespaces)
    obtain ⟨rest, start⟩ := root_start layout.indent privileges namespaces
    rw [Content.decoded]
    rw [lines, document, heading_eq_nil declaration, start] at decoded ⊢
    rw [← decoded]
    exact decodeDocument_root _

/-- What was written tells of its tree, and is well formed when XML leaves the declared bindings
to documents. -/
theorem document_written (utf8 : IsUtf8 layout) (keys : (namespaces.map Prod.fst).Nodup)
    (checked : Checked layout.indent privileges namespaces) :
    ∃ node : Node, RootNode privileges (openBindings namespaces) node ∧
      (Content.bytes ((lines layout privileges namespaces).flatMap Encoding.utf8Char)).document
        = ⟨node.events, (declared namespaces).all Xml.isOpen⟩ := by
  obtain ⟨node, holds, told⟩ := document_spelled utf8 (hasAscii .utf8) keys checked
    fun _ _ _ _ => rfl
  rw [spelled_utf8] at told
  refine ⟨node, holds, ?_⟩
  rw [Content.document, decoded_written utf8]
  dsimp only
  rw [lines, told, Bool.and_true]

end

end PrivilegeCatalog.Writing
