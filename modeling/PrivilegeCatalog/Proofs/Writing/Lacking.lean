import PrivilegeCatalog.Proofs.Writing.Encoded
import PrivilegeCatalog.Proofs.Xml.Transition

/-!
# Documents that an encoding breaks

No reference may stand in a key, so a document is broken at the first character of a declared
label that its encoding lacks (`broken_of_lacking`). And only blanks may follow the root, so a
document is broken in UTF-16 at the byte order mark of its end of line (`broken_of_mark`). What is
broken stays so.
-/

namespace PrivilegeCatalog.Xml.Scan

variable {resolve : Refer} {s : Scan}

/-- What is broken stays so. -/
theorem run_of_broken (broken : s.mode = .broken) (cs : List Char) :
    (s.run resolve cs).mode = .broken := by
  induction cs generalizing s with
  | nil => exact broken
  | cons c rest ih =>
    rw [run_cons]
    exact ih (step_of_broken broken)

/-- A document is broken when it starts with something that is. -/
theorem not_wellFormed_of_broken {lead : List Char} (broken : (ofChars lead).mode = .broken)
    (rest : List Char) : (Document.ofChars (lead ++ rest)).wellFormed = false := by
  have whole : ofChars (lead ++ rest)
      = (ofChars lead).run (fun doctype => referTo (doctype.entities.length + 1) doctype) rest :=
    run_append _ _
  rw [Document.ofChars]
  dsimp only
  rw [whole, isWhole, isAtRest, run_of_broken broken]
  rfl

/-- A reference in a key breaks the tag. -/
theorem broken_of_key {d : TagDraft} (mode : s.mode = .startTag d)
    (before : TagDraft.BeforeAttribute d.place) (begun : s.stage ≠ .start) {key : List Char}
    (word : isWord key = true) : (s.run resolve ((' ' :: key) ++ ['&'])).mode = .broken := by
  have chars : ∀ c ∈ ' ' :: key, TagChar c :=
    List.forall_mem_cons.mpr ⟨by decide, fun c inside =>
      tagChar_of_isWordChar (TagDraft.isWordChar_of_isWord word c inside)⟩
  have held := @run_startTag resolve s _ _ _ mode (TagDraft.fill_spaceKey before word) chars begun
  have refused : TagDraft.step ⟨d.word, d.attributes, .key key.reverse⟩ '&' = none := rfl
  rw [run_append, held, run_cons, run_nil, step_eq (by decide), stepMode]
  dsimp only
  have open_ :
      ('&' == '>' && TagDraft.canClose ⟨d.word, d.attributes, .key key.reverse⟩) = false := rfl
  rw [stepStartTag, open_, if_neg Bool.false_ne_true, refused]
  rfl

end PrivilegeCatalog.Xml.Scan

namespace PrivilegeCatalog.Writing

open Vocabulary
open Xml (Node Scan HasAscii attributesText declarations spelled spelledValue)

/-- What does not hold of all elements fails at a first one. -/
theorem exists_first {α : Type} {p : α → Bool} {xs : List α} (fails : ¬ ∀ x ∈ xs, p x = true) :
    ∃ before x after, xs = before ++ x :: after ∧ (∀ y ∈ before, p y = true) ∧ p x = false := by
  cases found : xs.find? (!p ·) with
  | none =>
    refine (fails fun x inside => ?_).elim
    simpa using List.find?_eq_none.mp found x inside
  | some x =>
    obtain ⟨refused, before, after, same, earlier⟩ := List.find?_eq_some_iff_append.mp found
    refine ⟨before, x, after, same, fun y inside => ?_, by simpa using refused⟩
    simpa using earlier y inside

section

variable {has : Char → Bool} {layout : Layout} {e : Encoding} {privileges : List Privilege}
  {namespaces : Dictionary}

/-- Declarations are spelled as such up to a reference in the first label of which a character is
lacking. -/
theorem exists_lacking (ascii : HasAscii has) {bindings : List (String × String)}
    (words : ∀ b ∈ bindings, Xml.WordChars b.1.toList) (lacks : ¬ LabelsIn has bindings) :
    ∃ before key more, before ⊆ bindings ∧ Xml.isWord key = true ∧
      spelled has (bindings.flatMap declaration)
        = attributesText (declarations (spelledValue has) before)
          ++ ((' ' :: key) ++ ['&'] ++ more) := by
  have fails : ¬ ∀ b ∈ bindings, (b.1.toList.all has) = true := by
    intro all
    exact lacks fun b inside => List.all_eq_true.mp (all b inside)
  obtain ⟨before, b, after, same, earlier, partial_⟩ := exists_first fails
  obtain ⟨label, c, others, chars, there, lacking⟩ := exists_first
    (fun all => Bool.false_ne_true (partial_.symm.trans (List.all_eq_true.mpr all)))
  have full : LabelsIn has before := fun b inside => List.all_eq_true.mp (earlier b inside)
  have lead : Xml.IsAscii "xmlns:".toList := by decide
  have key : spelled has (word "xmlns:" ++ word b.1) = ("xmlns:".toList ++ label)
      ++ ('&' :: ('#' :: Nat.toDigits 10 c.toNat ++ [';']) ++ spelled has others) := by
    rw [word, word, chars, Xml.spelled_append, Xml.spelled_append, Xml.spelled_cons, lacking,
      Xml.spelled_of_ascii ascii lead, Xml.spelled_of_has there, if_neg Bool.false_ne_true,
      Xml.numericReference_eq, List.append_assoc]
  have labelled : Xml.WordChars label := by
    intro d inside
    refine words b (same ▸ List.mem_append_right _ (List.mem_cons_self ..)) d ?_
    rw [chars]
    exact List.mem_append_left _ inside
  refine ⟨before, "xmlns:".toList ++ label,
    (('#' :: Nat.toDigits 10 c.toNat ++ [';']) ++ spelled has others)
      ++ '=' :: '"' :: (spelledValue has b.2.toList ++ ['"'])
      ++ spelled has (after.flatMap declaration), ?_, Xml.isWord_xmlns labelled, ?_⟩
  · rw [same]
    exact List.subset_append_left _ _
  · rw [same, List.flatMap_append, List.flatMap_cons, Xml.spelled_append, Xml.spelled_append,
      spelled_declarations ascii full, declaration, spelled_attributeText ascii, key,
      Xml.attributeWritten]
    simp only [List.append_assoc, List.cons_append, List.nil_append]

/-- A root is spelled as its start tag and what follows. -/
theorem exists_startTag (ascii : HasAscii has) (indent : String) (privileges : List Privilege)
    (namespaces : Dictionary) :
    ∃ tail, spelled has (root indent privileges namespaces)
      = '<' :: (rootElement.toList ++ spelled has ((declared namespaces).flatMap declaration))
        ++ tail := by
  have named : spelled has (word rootElement) = rootElement.toList :=
    Xml.spelled_of_ascii ascii (by decide)
  obtain ⟨tail, shape⟩ : ∃ tail, root indent privileges namespaces
      = '<' :: (word rootElement ++ (declared namespaces).flatMap declaration) ++ tail := by
    rw [root, element]
    split
    · exact ⟨_, rfl⟩
    · rw [List.append_assoc, List.append_assoc]
      exact ⟨_, rfl⟩
  refine ⟨spelled has tail, ?_⟩
  rw [shape, Xml.spelled_append, spelled_ascii_cons ascii (by decide), Xml.spelled_append, named]

/-- A document breaks at a label of which a character is lacking. -/
theorem broken_of_lacking (ascii : HasAscii has)
    (known : Encoding.ofName? layout.encoding = some e)
    (checked : Checked layout.indent privileges namespaces)
    (lacks : ¬ LabelsIn has (declared namespaces)) :
    ∃ lead rest, spelled has (document layout privileges namespaces) = lead ++ rest
      ∧ (Scan.ofChars lead).mode = .broken := by
  let resolve : Xml.Refer := fun doctype => Xml.referTo (doctype.entities.length + 1) doctype
  have words : ∀ b ∈ declared namespaces, Xml.WordChars b.1.toList :=
    fun b inside => Xml.wordChars_of_isPlainName (checked.labels b inside)
  obtain ⟨before, key, more, sub, word_, text⟩ := exists_lacking ascii words lacks
  have writable : Xml.Writable (declarations (spelledValue has) before) := by
    intro a held
    obtain ⟨b, inside, same⟩ := List.mem_map.mp held
    refine checked.writable (Xml.isEscape_spelledValue ascii) a ?_
    rw [← same]
    exact List.mem_map_of_mem (sub inside)
  obtain ⟨tail, tag⟩ := exists_startTag ascii layout.indent privileges namespaces
  obtain ⟨ready, -, -⟩ := ready_heading known
  obtain ⟨d, holds, went⟩ := Scan.run_opening resolve ready
    (Xml.isWord_of_isPlainName isPlainName_root) writable
  have broken := @Scan.broken_of_key resolve
    { (Scan.ofChars (heading layout)).count '<' with mode := .startTag d } d rfl holds.place
    (Scan.count_ne_start ready) key word_
  refine ⟨heading layout ++ ('<' :: (rootElement.toList
    ++ attributesText (declarations (spelledValue has) before))) ++ ((' ' :: key) ++ ['&']),
    more ++ tail, ?_, ?_⟩
  · rw [document, Xml.spelled_append, Xml.spelled_of_ascii ascii (ascii_heading known), tag, text]
    simp only [List.append_assoc, List.cons_append]
  · have whole : ∀ first second, Scan.ofChars (heading layout ++ first ++ second)
        = ((Scan.ofChars (heading layout)).run resolve first).run resolve second :=
      fun first second => (Scan.run_append _ _).trans
        (congrArg (Scan.run resolve · second) (Scan.run_append _ _))
    rw [whole, went]
    exact broken

/-- A document breaks at a byte order mark after its root. -/
theorem broken_of_mark (ascii : HasAscii has) (known : Encoding.ofName? layout.encoding = some e)
    (keys : (namespaces.map Prod.fst).Nodup)
    (checked : Checked layout.indent privileges namespaces)
    (labels : LabelsIn has (declared namespaces)) :
    (Scan.ofChars (spelled has (document layout privileges namespaces) ++ ['\ufeff'])).mode
      = .broken := by
  obtain ⟨ready, -, -⟩ := ready_heading known
  let resolve : Xml.Refer := fun doctype => Xml.referTo (doctype.entities.length + 1) doctype
  obtain ⟨node, line, -, told⟩ := scan_spelled known ascii keys checked labels
  obtain ⟨epilog, -⟩ :=
    step_after_root ready resolve node line ((declared namespaces).all Xml.isOpen)
  have whole : Scan.ofChars (spelled has (document layout privileges namespaces) ++ ['\ufeff'])
      = (Scan.ofChars (spelled has (document layout privileges namespaces))).step resolve
        '\ufeff' :=
    Scan.run_append _ _
  have place : (if (Scan.ofChars (heading layout)).stage == .content then Xml.Stage.content
      else .epilog) = .epilog := epilog
  rw [whole, told, Scan.step_eq (by decide), Scan.after, place]
  rfl

end

end PrivilegeCatalog.Writing
