import PrivilegeCatalog.Proofs.Decoding
import PrivilegeCatalog.Proofs.Logged
import PrivilegeCatalog.Proofs.Writing.Document
import PrivilegeCatalog.Proofs.Writing.Heading

/-!
# Encoded documents

What is written in an encoding are the characters of the document as that encoding spells them,
and an end of line (`encodeDocument_eq`); in UTF-16 the end of line has a byte order mark of its
own. With an XML declaration these are the characters that are decoded (`decoded_encoded`).
-/

namespace PrivilegeCatalog.Writing

open Xml (Content Node Scan spelled)

/-! ## Encoding -/

/-- What is encoded after a document: its end of line, in UTF-16 after a mark. -/
def ending (e : Encoding) : List Char := if e = .utf16 then ['\ufeff', '\n'] else ['\n']

theorem encodeChar_eq (e : Encoding) (c : Char) :
    encodeChar e c = e.encode (if e.has c then [c] else Xml.numericReference c) := by
  rw [encodeChar]
  cases encoded : e.encodeChar? c with
  | none =>
    have lacks : e.has c = false := by rw [Encoding.has, encoded, Option.isSome_none]
    rw [lacks, if_neg Bool.false_ne_true, Option.getD_none]
  | some bytes =>
    have has : e.has c = true := by rw [Encoding.has, encoded, Option.isSome_some]
    rw [has, if_pos rfl, Encoding.encode_cons, encoded, Option.getD_some, Option.getD_some,
      Encoding.encode, List.flatMap_nil, List.append_nil]

/-- A document is encoded as it is spelled, with its ending. -/
theorem encodeDocument_eq (e : Encoding) (cs : List Char) :
    encodeDocument e cs = e.mark ++ e.encode (spelled e.has cs ++ ending e) := by
  have ended : e.mark ++ e.encode ['\n'] = e.encode (ending e) := by
    cases e <;> rfl
  have whole : cs.flatMap (encodeChar e) = e.encode (spelled e.has cs) := by
    rw [spelled, Encoding.encode, List.flatMap_assoc]
    exact List.flatMap_congr fun c _ => encodeChar_eq e c
  rw [encodeDocument, ended, whole, Encoding.encode_append, List.append_assoc]

/-- An encoding has all characters of the spelling that it gives. -/
theorem has_of_spelled {e : Encoding} {cs : List Char} :
    ∀ c ∈ spelled e.has cs, e.has c = true := by
  intro c inside
  obtain ⟨d, -, inside⟩ := List.mem_flatMap.mp inside
  split at inside
  case isTrue has =>
    rw [List.mem_singleton.mp inside]
    exact has
  case isFalse => exact e.has_of_low (Xml.ascii_numericReference d c inside)

theorem has_of_ending {e : Encoding} : ∀ c ∈ ending e, e.has c = true :=
  List.all_eq_true.mp (by cases e <;> rfl)

theorem hasAscii (e : Encoding) : Xml.HasAscii e.has := fun _ low => e.has_of_low low

/-! ## Decoding -/

theorem firstInstruction_append {cs : List Char} (noMark : '?' ∉ cs) (rest : List Char) :
    Xml.firstInstruction (cs ++ '?' :: '>' :: rest) = cs := by
  induction cs with
  | nil => rfl
  | cons c others ih =>
    have first : c ≠ '?' := fun same => noMark (same ▸ List.mem_cons_self ..)
    have later := ih fun inside => noMark (List.mem_cons_of_mem _ inside)
    rw [List.cons_append, Xml.firstInstruction.eq_def]
    split
    case h_1 same => exact (first (List.cons.inj same).1).elim
    case h_2 same =>
      rw [← (List.cons.inj same).1, ← (List.cons.inj same).2, later]
    case h_3 same => cases same

/-- Octets of ASCII at the start of a document are read before its encoding is known. -/
theorem takeWhile_octets {cs : List Char} (ascii : ∀ c ∈ cs, c.toNat < 0x80) (more : Bytes) :
    ((cs.map (fun c => UInt8.ofNat c.toNat) ++ more).takeWhile (· < 0x80)).map
        (fun b => Char.ofNat b.toNat)
      = cs ++ (more.takeWhile (· < 0x80)).map fun b => Char.ofNat b.toNat := by
  induction cs with
  | nil => rfl
  | cons c rest ih =>
    obtain ⟨low, others⟩ := List.forall_mem_cons.mp ascii
    have octet : c.toNat < 256 := by omega
    have small : UInt8.ofNat c.toNat < 0x80 := (Encoding.ofNat_lt octet).mpr low
    have back : Char.ofNat (UInt8.ofNat c.toNat).toNat = c := by
      rw [UInt8.toNat_ofNat_of_lt' octet, Char.ofNat_toNat]
    rw [List.map_cons, List.cons_append, List.takeWhile_cons_of_pos (by simpa using small),
      List.map_cons, back, ih others, List.cons_append]

section

variable {layout : Layout} {e : Encoding}

/-- The octets of a heading declare the encoding that it names. -/
theorem declaredEncoding?_heading (known : Encoding.ofName? layout.encoding = some e)
    (declaration : layout.declaration = true) (more : Bytes) :
    Xml.declaredEncoding? ((heading layout).map (fun c => UInt8.ofNat c.toNat) ++ more)
      = some layout.encoding := by
  have noMark : '?' ∉ stated layout.encoding.toList := by
    intro inside
    rcases isNaming_or_quote_of_stated known _ inside with naming | quote
    · exact naming.apart.2.1 rfl
    · cases quote
  rw [Xml.declaredEncoding?, takeWhile_octets (ascii_heading known), heading_eq declaration,
    List.append_assoc, List.append_assoc, after?_append, Option.bind_eq_bind, Option.bind_some,
    List.cons_append, List.cons_append, firstInstruction_append noMark, declaration_read known]
  rfl

theorem decodeAs_eq {bytes : Bytes} {cs : List Char} (decoded : e.decode bytes = ⟨cs, true⟩) :
    Xml.decodeAs e bytes = ⟨cs, true⟩ := by
  unfold Xml.decodeAs
  dsimp only
  rw [decoded]
  cases e <;> rfl

/-- Octets that start like a heading are decoded in the encoding that they declare. -/
theorem decodeDocument_declared (narrow : e.IsNarrow) {name : String} {more : Bytes}
    (known : Encoding.ofName? name = some e)
    (declared : Xml.declaredEncoding? (0x3C :: 0x3F :: more) = some name) :
    Xml.decodeDocument (0x3C :: 0x3F :: more) = Xml.decodeAs e (0x3C :: 0x3F :: more) := by
  rw [Xml.decodeDocument.eq_def]
  split
  case h_1 same => cases same
  case h_2 same => cases same
  case h_3 same => cases same
  case h_4 same => cases same
  case h_5 same => cases same
  case h_6 =>
    rw [declared]
    dsimp only
    rw [known]
    rcases narrow with same | same | same <;> subst same <;> rfl

/-- What starts with a heading is decoded in the encoding that the heading names. -/
theorem decodeDocument_heading (known : Encoding.ofName? layout.encoding = some e)
    (declaration : layout.declaration = true) {rest : List Char}
    (all : ∀ c ∈ rest, e.has c = true) :
    Xml.decodeDocument (e.mark ++ e.encode (heading layout ++ rest))
      = ⟨heading layout ++ rest, true⟩ := by
  have ascii := ascii_heading known
  have decoded : e.decode (e.mark ++ e.encode (heading layout ++ rest))
      = ⟨heading layout ++ rest, true⟩ := by
    refine e.decode_encode (List.forall_mem_append.mpr ⟨fun c inside => ?_, all⟩)
    exact e.has_of_low (ascii c inside)
  have start : ∃ more, heading layout = '<' :: '?' :: more := by
    rw [heading_eq declaration]
    exact ⟨_, rfl⟩
  obtain ⟨more, start⟩ := start
  have octets : e.IsNarrow → Xml.decodeDocument (e.encode (heading layout ++ rest))
      = Xml.decodeAs e (e.encode (heading layout ++ rest)) := by
    intro narrow
    have declares := declaredEncoding?_heading known declaration (e.encode rest)
    rw [Encoding.encode_append, Encoding.encode_ascii narrow ascii]
    rw [start] at declares ⊢
    exact decodeDocument_declared narrow known declares
  cases e with
  | utf8 => exact (octets (.inl rfl)).trans (decodeAs_eq decoded)
  | latin1 => exact (octets (.inr (.inl rfl))).trans (decodeAs_eq decoded)
  | ascii => exact (octets (.inr (.inr rfl))).trans (decodeAs_eq decoded)
  | utf16 => exact decodeAs_eq (e := .utf16le) decoded
  | utf16le =>
    rw [start] at decoded ⊢
    exact decodeAs_eq (e := .utf16le) decoded
  | utf16be =>
    rw [start] at decoded ⊢
    exact decodeAs_eq (e := .utf16be) decoded

/-! ## Writing -/

variable {privileges : List Privilege} {namespaces : Dictionary}

/-- All characters that are encoded. -/
def spelledLines (e : Encoding) (layout : Layout) (privileges : List Privilege)
    (namespaces : Dictionary) : List Char :=
  spelled e.has (document layout privileges namespaces) ++ ending e

theorem has_of_spelledLines :
    ∀ c ∈ spelledLines e layout privileges namespaces, e.has c = true :=
  List.forall_mem_append.mpr ⟨has_of_spelled, has_of_ending⟩

/-- Writing in an encoding that is known succeeds when the checks are passed. -/
theorem write_eq_ok_of_known (known : Encoding.ofName? layout.encoding = some e) {bytes : Bytes} :
    (write layout privileges namespaces).outcome = .ok bytes ↔
      Checked layout.indent privileges namespaces
        ∧ bytes = e.mark ++ e.encode (spelledLines e layout privileges namespaces) := by
  have encoding := checkEncoding_eq_ok.mpr known
  have checks := @check_eq_ok layout privileges namespaces
  unfold write
  cases checked : check layout privileges namespaces with
  | error fault =>
    rw [checked] at checks
    simp only [reduceCtorEq, false_iff, not_and]
    exact fun passed => absurd encoding (by simpa [passed] using @checks e)
  | ok e' =>
    obtain ⟨passed, same⟩ := check_eq_ok.mp checked
    rw [encoding] at same
    cases same
    simp only [Except.ok.injEq, encodeDocument_eq, passed, true_and]
    exact eq_comm

/-- A document is written in encodings that are known only. -/
theorem known_of_write {bytes : Bytes}
    (written : (write layout privileges namespaces).outcome = .ok bytes) :
    ∃ e, Encoding.ofName? layout.encoding = some e := by
  unfold write at written
  cases checked : check layout privileges namespaces with
  | error fault =>
    rw [checked] at written
    cases written
  | ok e => exact ⟨e, checkEncoding_eq_ok.mp (check_eq_ok.mp checked).2⟩

/-- As text a document is written when it is as bytes, and then it is what they were encoded
from. -/
theorem writeText_eq_ok_of_known (known : Encoding.ofName? layout.encoding = some e)
    {text : String} :
    (writeText layout privileges namespaces).outcome = .ok text ↔
      Checked layout.indent privileges namespaces
        ∧ text = String.ofList (spelledLines e layout privileges namespaces) := by
  have decoded := e.decode_encode (@has_of_spelledLines layout e privileges namespaces)
  rw [writeText, Logged.outcome_bind_eq_ok, known]
  simp only [Logged.outcome_pure, Except.ok.injEq, write_eq_ok_of_known known]
  constructor
  · intro done
    rcases done with ⟨bytes, ⟨checked, encoded⟩, same⟩
    rw [encoded, decoded] at same
    exact ⟨checked, same.symm⟩
  · intro given
    rcases given with ⟨checked, same⟩
    refine ⟨_, ⟨checked, rfl⟩, ?_⟩
    rw [decoded, same]

/-- A heading is spelled as it is. -/
theorem spelledLines_eq (known : Encoding.ofName? layout.encoding = some e) :
    spelledLines e layout privileges namespaces = heading layout
      ++ (spelled e.has (root layout.indent privileges namespaces) ++ ending e) := by
  rw [spelledLines, document, Xml.spelled_append,
    Xml.spelled_of_ascii (hasAscii e) (ascii_heading known), List.append_assoc]

/-- With a declaration, what was encoded is decoded. -/
theorem decoded_encoded (known : Encoding.ofName? layout.encoding = some e)
    (declaration : layout.declaration = true) :
    (Content.bytes (e.mark ++ e.encode (spelledLines e layout privileges namespaces))).decoded
      = ⟨spelledLines e layout privileges namespaces, true⟩ := by
  have all := @has_of_spelledLines layout e privileges namespaces
  rw [spelledLines_eq known] at all ⊢
  exact decodeDocument_heading known declaration (List.forall_mem_append.mp all).2

/-- A text that starts with a declaration is taken as it is. -/
theorem decoded_text (known : Encoding.ofName? layout.encoding = some e)
    (declaration : layout.declaration = true) :
    (Content.text (String.ofList (spelledLines e layout privileges namespaces))).decoded
      = ⟨spelledLines e layout privileges namespaces, true⟩ := by
  rw [Content.decoded, String.toList_ofList, spelledLines_eq known, heading_eq declaration]
  rfl

/-! ## Scanning -/

/-- The end of line after the root is only counted. -/
theorem step_after_root {s : Scan} (ready : Scan.Ready 0 s) (resolve : Xml.Refer) (node : Node)
    (line : Nat) (sound : Bool) :
    (s.after node line sound).stage = .epilog ∧
      (s.after node line sound).step resolve '\n'
        = { s.after node line sound with line := line + 1 } := by
  have epilog : (if s.stage == .content then Xml.Stage.content else .epilog) = .epilog := by
    rcases ready.stage with ⟨inside, -⟩ | ⟨-, stage | stage⟩
    · exact absurd inside (Nat.lt_irrefl 0)
    · rw [stage]
      rfl
    · rw [stage]
      rfl
  refine ⟨epilog, ?_⟩
  rw [Scan.step_eq (by decide), Scan.after, epilog]
  rfl

/-- A document is scanned as its tree after its heading, when the labels that it declares are
there in full. -/
theorem scan_spelled (known : Encoding.ofName? layout.encoding = some e) {has : Char → Bool}
    (ascii : Xml.HasAscii has) (keys : (namespaces.map Prod.fst).Nodup)
    (checked : Checked layout.indent privileges namespaces)
    (labels : LabelsIn has (declared namespaces)) :
    ∃ node line, RootNode privileges (openBindings namespaces) node ∧
      Scan.ofChars (spelled has (document layout privileges namespaces))
        = (Scan.ofChars (heading layout)).after node line
          ((declared namespaces).all Xml.isOpen) := by
  obtain ⟨ready, -, -⟩ := ready_heading known
  let resolve : Xml.Refer := fun doctype => Xml.referTo (doctype.entities.length + 1) doctype
  obtain ⟨node, line, holds, told⟩ := reads_root ascii keys checked labels resolve ready
  refine ⟨node, line, holds, ?_⟩
  rw [document, Xml.spelled_append, Xml.spelled_of_ascii ascii (ascii_heading known), ← told]
  exact Scan.run_append _ _

/-- A document with its end of line tells of its tree, and is well formed when XML leaves the
declared bindings to documents. -/
theorem document_spelled (known : Encoding.ofName? layout.encoding = some e) {has : Char → Bool}
    (ascii : Xml.HasAscii has) (keys : (namespaces.map Prod.fst).Nodup)
    (checked : Checked layout.indent privileges namespaces)
    (labels : LabelsIn has (declared namespaces)) :
    ∃ node : Node, RootNode privileges (openBindings namespaces) node ∧
      Xml.Document.ofChars (spelled has (document layout privileges namespaces) ++ ['\n'])
        = ⟨node.events, (declared namespaces).all Xml.isOpen⟩ := by
  obtain ⟨ready, events, sound⟩ := ready_heading known
  let resolve : Xml.Refer := fun doctype => Xml.referTo (doctype.entities.length + 1) doctype
  obtain ⟨node, line, holds, told⟩ := scan_spelled known ascii keys checked labels
  obtain ⟨epilog, ended⟩ := step_after_root ready resolve node line
    ((declared namespaces).all Xml.isOpen)
  have scanned : Scan.ofChars (spelled has (document layout privileges namespaces) ++ ['\n'])
      = { (Scan.ofChars (heading layout)).after node line
            ((declared namespaces).all Xml.isOpen) with
          line := line + 1 } := by
    rw [← ended, ← told]
    exact Scan.run_append _ _
  refine ⟨node, holds, ?_⟩
  rw [Xml.Document.ofChars, scanned, Scan.isWhole]
  dsimp only
  rw [epilog, Scan.after, sound, events, Bool.true_and, List.append_nil, List.reverse_reverse]
  rfl

end

end PrivilegeCatalog.Writing
