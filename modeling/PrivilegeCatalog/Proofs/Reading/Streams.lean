import PrivilegeCatalog.Proofs.Xml.Instructions
import PrivilegeCatalog.Proofs.Xml.Utf8Documents
import PrivilegeCatalog.Reading

/-!
# Text and octets are read alike

What a text says about its encoding does not count. So a text is read as the octets in UTF-8 of
the text that names UTF-8 in its declaration, if it names an encoding there, and as its own octets
otherwise; and texts that differ only in the name of their encoding are read alike
(`text_and_octets_read_alike`). Only null characters are set apart, since they look like another
encoding in the octets.
-/

namespace PrivilegeCatalog.Reading

open Xml (Content Declaration Document IsEnding LeadsToName NamesEncoding)

variable {source : String} {front name back : List Char}

/-- What is read depends on whether a document is empty and on what it tells. -/
theorem ofContent_congr {content content' : Content} (empty : content.isEmpty = content'.isEmpty)
    (document : content.document = content'.document) :
    ofContent source content = ofContent source content' := by
  rw [ofContent, ofContent, empty, document]

/-- A declaration that is read is a text of ASCII. -/
theorem ascii_of_ofText {text : List Char} {d : Declaration}
    (read : Declaration.ofText text = some d) : Xml.IsAscii ("<?xml".toList ++ text) := by
  have lead : Xml.IsAscii "<?xml".toList := by decide
  exact List.forall_mem_append.mpr
    ⟨lead, fun c inside => (Xml.isDeclaring_of_ofText read c inside).low⟩

/-! ## Declarations that name an encoding -/

section

variable {lead ending rest : List Char} {quote : Char}

/-- A document after its byte order mark, with the given name in its declaration. -/
def declaring (lead ending rest : List Char) (quote : Char) (name : List Char) : List Char :=
  "<?xml".toList ++ ((lead ++ (name ++ quote :: ending)) ++ '?' :: '>' :: rest)

theorem declaring_eq : declaring lead ending rest quote name
    = "<?xml".toList ++ ((lead ++ (name ++ quote :: ending)) ++ '?' :: '>' :: rest) := rfl

/-- The name of an encoding is on one line. -/
theorem lines_of_name (isName : Declaration.isEncodingName name = true) :
    (lead ++ (name ++ quote :: ending)).count '\n' = (lead ++ quote :: ending).count '\n' := by
  have none : name.count '\n' = 0 := List.count_eq_zero.mpr fun inside =>
    (Writing.isNaming_of_isEncodingChar
      (Writing.isEncodingChar_of_mem isName _ inside)).apart.2.2.2 rfl
  rw [List.count_append, List.count_append, none, Nat.zero_add, List.count_append]

/-- A document tells the same under each name of an encoding. -/
theorem document_declaring (leads : LeadsToName quote lead) (ends : IsEnding ending)
    {name' : List Char} (isName : Declaration.isEncodingName name = true)
    (isName' : Declaration.isEncodingName name' = true) :
    Document.ofChars (declaring lead ending rest quote name)
      = Document.ofChars (declaring lead ending rest quote name') := by
  obtain ⟨standalone, read⟩ := Xml.exists_ofText_named leads ends
  have scanned : Xml.Scan.ofChars (declaring lead ending rest quote name)
      = Xml.Scan.ofChars (declaring lead ending rest quote name') := by
    rw [declaring_eq, declaring_eq, Xml.ofChars_declaration (read name isName),
      Xml.ofChars_declaration (read name' isName'), lines_of_name isName, lines_of_name isName']
  rw [Document.ofChars, Document.ofChars, scanned]

/-- Octets that name UTF-8 are decoded as such. -/
theorem decodeDocument_declaring (leads : LeadsToName quote lead) (ends : IsEnding ending) :
    Xml.decodeDocument
      ((declaring lead ending rest quote "UTF-8".toList).flatMap Encoding.utf8Char)
      = ⟨declaring lead ending rest quote "UTF-8".toList, true⟩ := by
  let stated := lead ++ ("UTF-8".toList ++ quote :: ending)
  have isName : Declaration.isEncodingName "UTF-8".toList = true := by decide
  have known : Encoding.ofName? "UTF-8" = some .utf8 := by decide
  obtain ⟨standalone, named⟩ := Xml.exists_ofText_named leads ends
  have read : Declaration.ofText stated = some ⟨some "UTF-8", standalone⟩ := named _ isName
  have noMark : '?' ∉ stated :=
    fun inside => (Xml.isDeclaring_of_ofText read _ inside).apart.1 rfl
  -- The ASCII characters that the document begins with reach beyond the declaration.
  have lows : ∀ c ∈ "<?xml".toList ++ stated, decide (c.toNat < 0x80) = true :=
    fun c inside => decide_eq_true (ascii_of_ofText read c inside)
  have cut : declaring lead ending rest quote "UTF-8".toList
      = ("<?xml".toList ++ stated) ++ '?' :: '>' :: rest :=
    (List.append_assoc ..).symm
  have head : (declaring lead ending rest quote "UTF-8".toList).takeWhile (·.toNat < 0x80)
      = "<?xml".toList ++ (stated ++ '?' :: '>' :: rest.takeWhile (·.toNat < 0x80)) := by
    rw [cut, List.takeWhile_append_of_pos lows, List.takeWhile_cons_of_pos (by decide),
      List.takeWhile_cons_of_pos (by decide), List.append_assoc]
  have declared : Xml.declaredEncoding?
      ((declaring lead ending rest quote "UTF-8".toList).flatMap Encoding.utf8Char)
        = some "UTF-8" := by
    rw [Xml.declaredEncoding?_encode, head, Writing.after?_append, Option.bind_some,
      Writing.firstInstruction_append noMark, read]
    rfl
  have decoded := Encoding.decodeUtf8_encode (declaring lead ending rest quote "UTF-8".toList)
  exact (Writing.decodeDocument_declared (.inl rfl) known declared).trans decoded

end

/-- A text that names an encoding is read as the octets of the text that names UTF-8 instead. -/
theorem ofContent_of_namesEncoding (names : NamesEncoding front name back) :
    ofContent source (.text (String.ofList (front ++ (name ++ back))))
      = ofContent source (.bytes (Encoding.utf8.encode (front ++ ("UTF-8".toList ++ back)))) := by
  cases names with
  | @intro mark lead name ending rest quote isMark leads isName ends =>
    have isName' : Declaration.isEncodingName "UTF-8".toList = true := by decide
    have shape : ∀ name : List Char, mark ++ ("<?xml".toList ++ lead) ++ (name ++
        quote :: (ending ++ "?>".toList ++ rest))
          = mark ++ declaring lead ending rest quote name := by
      intro name
      simp [declaring_eq]
    have opens : ∀ name, '<' ∈ mark ++ declaring lead ending rest quote name :=
      fun name => List.mem_append_right _ (List.mem_cons_self ..)
    have given : ∀ name,
        (Content.text (String.ofList (mark ++ declaring lead ending rest quote name))).isEmpty
          = false := by
      intro name
      rw [Content.isEmpty, String.toList_ofList, List.all_eq_false]
      exact ⟨'<', opens name, by decide⟩
    have given' : (Content.bytes (Encoding.utf8.encode
        (mark ++ declaring lead ending rest quote "UTF-8".toList))).isEmpty = false := by
      have same := Content.isEmpty_encode
        (String.ofList (mark ++ declaring lead ending rest quote "UTF-8".toList))
      rw [String.toList_ofList, given] at same
      exact same
    have text :
      (Content.text (String.ofList (mark ++ declaring lead ending rest quote name))).decoded
        = ⟨declaring lead ending rest quote name, true⟩ := by
      rw [Content.decoded, String.toList_ofList]
      rcases isMark with rfl | rfl <;> rfl
    have octets : (Content.bytes (Encoding.utf8.encode
        (mark ++ declaring lead ending rest quote "UTF-8".toList))).decoded
          = ⟨declaring lead ending rest quote "UTF-8".toList, true⟩ := by
      rcases isMark with rfl | rfl
      · exact decodeDocument_declaring leads ends
      · exact Xml.decodeDocument_mark _
    rw [shape, shape]
    refine ofContent_congr ((given name).trans given'.symm) ?_
    rw [Content.document, Content.document, text, octets]
    dsimp only
    rw [document_declaring leads ends isName isName']

/-! ## Other documents -/

/-- Neither as a text nor as octets does a document tell anything when its declaration does not
end before the first character that is not of ASCII. -/
theorem document_of_unended {cs text after : List Char} {d : Declaration}
    (read : Declaration.ofText text = some d) (cut : cs = "<?xml".toList ++ (text ++ after))
    (high : ∀ c ∈ after.head?, 0x80 ≤ c.toNat) :
    Document.ofChars cs = ⟨[], false⟩
      ∧ Document.ofChars (Xml.decodeDeclared (cs.flatMap Encoding.utf8Char)).chars
        = ⟨[], false⟩ := by
  have told : Document.ofChars cs = ⟨[], false⟩ := cut ▸ Xml.ofChars_unclosed read high
  refine ⟨told, ?_⟩
  rcases Xml.decodeDeclared_cases (cs.flatMap Encoding.utf8Char) with utf8 | single | none
  · rw [utf8, Encoding.decodeUtf8_encode]
    exact told
  · rw [single, cut, ← List.append_assoc, List.flatMap_append, Xml.octetChars_append,
      Xml.octetChars_encode (ascii_of_ofText read), List.append_assoc]
    exact Xml.ofChars_unclosed read (Xml.high_octetChars high)
  · rw [none]
    rfl

/-- Octets that declare an encoding are those of a document that names one, or those of one whose
declaration does not end before the first character that is not of ASCII. -/
theorem declared_cases {cs : List Char} {name : String}
    (declared : Xml.declaredEncoding? (cs.flatMap Encoding.utf8Char) = some name) :
    (∃ text d after, Declaration.ofText text = some d ∧ cs = "<?xml".toList ++ (text ++ after)
        ∧ ∀ c ∈ after.head?, 0x80 ≤ c.toNat)
      ∨ ∃ front name back, NamesEncoding front name back ∧ cs = front ++ (name ++ back) := by
  rw [Xml.declaredEncoding?_encode] at declared
  obtain ⟨text, opened, declared⟩ := Option.bind_eq_some_iff.mp declared
  obtain ⟨d, read, encoding⟩ := Option.bind_eq_some_iff.mp declared
  have cut : cs = "<?xml".toList ++ (text ++ cs.dropWhile (·.toNat < 0x80)) := by
    rw [← List.append_assoc, ← Xml.after?_eq_some.mp opened, List.takeWhile_append_dropWhile]
  -- A declaration is read up to the first character that is not of ASCII: it ends there, or
  -- before.
  rcases Xml.firstInstruction_cases text with whole | ⟨rest, ended⟩
  · refine .inl ⟨text, d, cs.dropWhile (·.toNat < 0x80), whole ▸ read, cut, fun c first => ?_⟩
    have last := List.head?_dropWhile_not (fun c : Char => decide (c.toNat < 0x80)) cs
    rw [Option.mem_def.mp first] at last
    simpa using last
  · have named : d.encoding ≠ none := encoding ▸ Option.some_ne_none name
    obtain ⟨quote, lead, name, ending, leads, isName, ends, stated⟩ :=
      Xml.exists_leadsToName read named
    refine .inr ⟨[] ++ ("<?xml".toList ++ lead), name, quote :: (ending ++ "?>".toList
      ++ (rest ++ cs.dropWhile (·.toNat < 0x80))), .intro (.inl rfl) leads isName ends, ?_⟩
    rw [stated] at ended
    rw [ended] at cut
    exact cut.trans (by simp)

/-- The octets of a text that names no encoding tell what the text tells. -/
theorem document_of_no_name {s : String} (noNull : '\x00' ∉ s.toList)
    (noName : ∀ front name back, NamesEncoding front name back →
      s.toList ≠ front ++ (name ++ back)) :
    (Content.text s).document = (Content.bytes (Encoding.utf8.encode s.toList)).document := by
  have octets : Encoding.utf8.encode s.toList = s.toList.flatMap Encoding.utf8Char := rfl
  rw [Content.document, Content.document, Content.decoded, Content.decoded, octets]
  by_cases mark : ∃ rest, s.toList = '\ufeff' :: rest
  · obtain ⟨rest, chars⟩ := mark
    rw [chars, Xml.decodeDocument_mark]
    rfl
  have noMark : ∀ rest, s.toList ≠ '\ufeff' :: rest := not_exists.mp mark
  have same : Xml.dropMark s.toList = s.toList := by
    unfold Xml.dropMark
    split
    case h_1 rest chars => exact absurd chars (noMark rest)
    case h_2 => rfl
  rw [Xml.decodeDocument_of_no_mark noNull noMark, same]
  cases declared : Xml.declaredEncoding? (s.toList.flatMap Encoding.utf8Char) with
  | none =>
    have decoded : Xml.decodeDeclared (s.toList.flatMap Encoding.utf8Char)
        = ⟨s.toList, true⟩ := by
      rw [Xml.decodeDeclared, declared]
      exact Encoding.decodeUtf8_encode s.toList
    rw [decoded]
  | some name =>
    rcases declared_cases declared with ⟨text, d, after, read, cut, high⟩ |
        ⟨front, name, back, names, chars⟩
    · obtain ⟨told, told'⟩ := document_of_unended read cut high
      rw [told, told']
      rfl
    · exact absurd chars (noName front name back names)

/-- A text is read as octets in UTF-8: those of the text with the name of UTF-8 in its declaration
if it names an encoding there, its own otherwise. So the name of an encoding does not count in a
text. -/
theorem text_and_octets_read_alike (source : String) (s : String) (noNull : '\x00' ∉ s.toList) :
    (∀ front name back, NamesEncoding front name back → s.toList = front ++ (name ++ back) →
      ofContent source (.text s)
        = ofContent source (.bytes (Encoding.utf8.encode (front ++ ("UTF-8".toList ++ back)))))
    ∧ ((∀ front name back, NamesEncoding front name back → s.toList ≠ front ++ (name ++ back)) →
      ofContent source (.text s) = ofContent source (.bytes (Encoding.utf8.encode s.toList)))
    ∧ (∀ front name back name', NamesEncoding front name back →
      s.toList = front ++ (name ++ back) → Declaration.isEncodingName name' = true →
      ofContent source (.text s)
        = ofContent source (.text (String.ofList (front ++ (name' ++ back))))) := by
  have named : ∀ front name back, NamesEncoding front name back →
      s.toList = front ++ (name ++ back) →
      ofContent source (.text s)
        = ofContent source
          (.bytes (Encoding.utf8.encode (front ++ ("UTF-8".toList ++ back)))) := by
    intro front name back names chars
    have alike := @ofContent_of_namesEncoding source front name back names
    rwa [← chars, String.ofList_toList] at alike
  refine ⟨named, fun noName => ?_, fun front name back name' names chars isName' => ?_⟩
  · exact ofContent_congr (Content.isEmpty_encode s).symm (document_of_no_name noNull noName)
  · have names' : NamesEncoding front name' back := by
      cases names with
      | intro isMark leads isName ends => exact .intro isMark leads isName' ends
    rw [named front name back names chars, ofContent_of_namesEncoding names']

/-- A text that names Latin-1 is read as its octets in UTF-8, which name UTF-8, and as the text
that names UTF-16. -/
theorem latin1_text_read_alike :
    let front := "<?xml version='1.0' encoding='".toList
    let back := "'?>\n<privileges><privilege name='é'/></privileges>".toList
    let text := String.ofList (front ++ ("ISO-8859-1".toList ++ back))
    '\x00' ∉ text.toList ∧ NamesEncoding front "ISO-8859-1".toList back
      ∧ ofContent "" (.text text)
        = ofContent "" (.bytes (Encoding.utf8.encode (front ++ ("UTF-8".toList ++ back))))
      ∧ ofContent "" (.text text)
        = ofContent "" (.text (String.ofList (front ++ ("UTF-16".toList ++ back)))) := by
  intro front back text
  have chars : text.toList = front ++ ("ISO-8859-1".toList ++ back) := String.toList_ofList
  have noNull : '\x00' ∉ text.toList := by
    rw [chars]
    decide +kernel
  have blank : Xml.AreBlanks [' '] := by
    intro c inside
    rw [List.mem_singleton.mp inside]
    rfl
  have none : Xml.AreBlanks [] := fun c inside => absurd inside List.not_mem_nil
  have version : Xml.LeadsTo "version" '\'' " version='".toList :=
    .intro blank none none (.inr rfl)
  have encoding : Xml.LeadsTo "encoding" '\'' " encoding='".toList :=
    .intro blank none none (.inr rfl)
  have leads : LeadsToName '\'' " version='1.0' encoding='".toList :=
    @LeadsToName.intro _ _ "1.0".toList _ _ version (by decide) encoding
  have atFront : front = [] ++ ("<?xml".toList ++ " version='1.0' encoding='".toList) := by
    decide +kernel
  have atBack : back = '\'' :: ([] ++ "?>".toList
      ++ "\n<privileges><privilege name='é'/></privileges>".toList) := by
    decide +kernel
  have names : NamesEncoding front "ISO-8859-1".toList back := by
    rw [atFront, atBack]
    exact .intro (.inl rfl) leads (by decide) (.blank none)
  have alike := text_and_octets_read_alike "" text noNull
  exact ⟨noNull, names, alike.1 _ _ _ names chars,
    alike.2.2 _ _ _ "UTF-16".toList names chars (by decide)⟩

end PrivilegeCatalog.Reading
