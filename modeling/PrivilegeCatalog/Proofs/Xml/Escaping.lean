import Mathlib.Data.Bool.AllAny
import PrivilegeCatalog.Proofs.Xml.Values
import PrivilegeCatalog.Xml.Escape

/-!
# Escapes are read back

An escaped character is the character itself or a reference to it (`Escaped`). So a value whose
characters are all escaped holds none that ends a tag, an attribute or a line
(`valueChar_of_escaped`), and it is read as the value that was escaped
(`attributeValue_of_escaped`). The escapes of text are of the same two kinds.
-/

namespace PrivilegeCatalog.Xml

/-- A character that may stand in a tag and ends neither the tag nor a line. -/
def TagChar (c : Char) : Prop := isXmlChar c = true ∧ c ≠ '>' ∧ c ≠ '\n'

/-- A character that may stand in a value between double quotes. -/
def ValueChar (c : Char) : Prop := TagChar c ∧ c ≠ '<' ∧ c ≠ '"'

instance (c : Char) : Decidable (TagChar c) := inferInstanceAs (Decidable (_ ∧ _))

instance (c : Char) : Decidable (ValueChar c) := inferInstanceAs (Decidable (_ ∧ _))

/-- The body of a reference, which holds neither its end nor the end of a value or of a line. -/
structure IsBody (body : List Char) : Prop where
  chars : ∀ d ∈ body, ValueChar d ∧ d ≠ '\r'
  closed : ';' ∉ body

instance (body : List Char) : Decidable (IsBody body) :=
  decidable_of_iff ((body.all fun d => ValueChar d ∧ d ≠ '\r') = true ∧ ';' ∉ body)
    ⟨fun given => ⟨List.all_iff_forall_prop.mp given.1, given.2⟩,
      fun given => ⟨List.all_iff_forall_prop.mpr given.chars, given.closed⟩⟩

/-- A reference that is known in every document to stand for a character. -/
def RefersTo (body : List Char) (c : Char) : Prop :=
  Reference.ofText body = some (.character c)
    ∨ ∃ name, Reference.ofText body = some (.entity name)
      ∧ predefinedEntities.lookup name = some c

/-- A text stands for a character: it is that character, where it may stand bare, or a reference
to it. -/
inductive Escaped (bare : Char → Prop) (c : Char) : List Char → Prop
  | itself (free : bare c) : Escaped bare c [c]
  | reference {body : List Char} (isBody : IsBody body) (means : RefersTo body c) :
      Escaped bare c ('&' :: (body ++ [';']))

/-- A character that may stand in a value as it is. -/
def BareInValue (c : Char) : Prop :=
  c ≠ '&' ∧ c ≠ '<' ∧ c ≠ '>' ∧ c ≠ '"' ∧ c ≠ '\t' ∧ c ≠ '\n' ∧ c ≠ '\r'

/-- A character that may stand in text as it is. -/
def BareInText (c : Char) : Prop := c ≠ '&' ∧ c ≠ '<' ∧ c ≠ '>' ∧ c ≠ '\r'

theorem refersTo_amp : RefersTo "amp".toList '&' := .inr ⟨"amp", by decide, by decide⟩

theorem refersTo_lt : RefersTo "lt".toList '<' := .inr ⟨"lt", by decide, by decide⟩

theorem refersTo_gt : RefersTo "gt".toList '>' := .inr ⟨"gt", by decide, by decide⟩

theorem refersTo_quot : RefersTo "quot".toList '"' := .inr ⟨"quot", by decide, by decide⟩

theorem refersTo_tab : RefersTo "#9".toList '\t' := .inl (by decide)

theorem refersTo_feed : RefersTo "#10".toList '\n' := .inl (by decide)

theorem refersTo_return : RefersTo "#13".toList '\r' := .inl (by decide)

/-- Each character of a value is escaped. -/
theorem escaped_value (c : Char) : Escaped BareInValue c (escapeValueChar c) := by
  unfold escapeValueChar
  split_ifs with amp lt gt quot blank
  · subst amp
    exact .reference (by decide) refersTo_amp
  · subst lt
    exact .reference (by decide) refersTo_lt
  · subst gt
    exact .reference (by decide) refersTo_gt
  · subst quot
    exact .reference (by decide) refersTo_quot
  · rcases blank with tab | feed | ret
    · subst tab
      exact .reference (by decide) refersTo_tab
    · subst feed
      exact .reference (by decide) refersTo_feed
    · subst ret
      exact .reference (by decide) refersTo_return
  · rw [not_or, not_or] at blank
    exact .itself ⟨amp, lt, gt, quot, blank⟩

/-- Each character of text is escaped. -/
theorem escaped_text (c : Char) : Escaped BareInText c (escapeTextChar c) := by
  unfold escapeTextChar
  split_ifs with amp lt gt ret
  · subst amp
    exact .reference (by decide) refersTo_amp
  · subst lt
    exact .reference (by decide) refersTo_lt
  · subst gt
    exact .reference (by decide) refersTo_gt
  · subst ret
    exact .reference (by decide) refersTo_return
  · exact .itself ⟨amp, lt, gt, ret⟩

/-! ## Characters of escapes -/

/-- The characters of a reference may stand in a value, and none of them ends a line. -/
theorem valueChar_of_reference {body : List Char} (isBody : IsBody body) :
    ∀ d ∈ '&' :: (body ++ [';']), ValueChar d ∧ d ≠ '\r' := by
  intro d inside
  rcases List.mem_cons.mp inside with same | inside
  · rw [same]
    decide
  · rcases List.mem_append.mp inside with inside | last
    · exact isBody.chars d inside
    · rw [List.mem_singleton.mp last]
      decide

/-- The characters of an escaped value may stand in it. -/
theorem valueChar_of_escaped {escape : Char → List Char} {cs : List Char} (text : XmlChars cs)
    (escaped : ∀ c ∈ cs, Escaped BareInValue c (escape c)) :
    ∀ d ∈ cs.flatMap escape, ValueChar d := by
  intro d inside
  obtain ⟨c, inText, inside⟩ := List.mem_flatMap.mp inside
  have character := text c inText
  have escaped := escaped c inText
  generalize escape c = written at escaped inside
  cases escaped with
  | itself free =>
    obtain ⟨-, lt, gt, quot, -, feed, -⟩ := free
    rw [List.mem_singleton.mp inside]
    exact ⟨⟨character, gt, feed⟩, lt, quot⟩
  | reference isBody means => exact (valueChar_of_reference isBody d inside).1

theorem valueChar_of_escapeValue {cs : List Char} (text : XmlChars cs) :
    ∀ d ∈ escapeValue cs, ValueChar d :=
  valueChar_of_escaped text fun c _ => escaped_value c

/-! ## Reading values -/

section

variable {standalone : Bool} {nested : Expand} {allowance : Nat} {soFar : List Char} {c : Char}

/-- A reference is read as the character that it stands for. -/
theorem refer_of_refersTo {doctype : Doctype} {body : List Char} (means : RefersTo body c)
    (d : ValueDraft) :
    d.refer doctype standalone nested body
      = some { d with soFar := c :: d.soFar, reference := none } := by
  rcases means with character | ⟨name, entity, known⟩
  · rw [ValueDraft.refer, character]
  · rw [ValueDraft.refer, entity]
    dsimp only
    rw [known]

/-- A value is read on after a reference whose ampersand and first characters have been read. -/
theorem foldlM_reference {body read : List Char} (means : RefersTo (read.reverse ++ body) c)
    (closed : ';' ∉ body) :
    (body ++ [';']).foldlM (ValueDraft.step {} standalone nested) ⟨soFar, some read, allowance⟩
      = some ⟨c :: soFar, none, allowance⟩ := by
  induction body generalizing read with
  | nil =>
    rw [List.append_nil] at means
    rw [List.nil_append, List.foldlM_cons, ValueDraft.step]
    dsimp only
    rw [if_pos (beq_self_eq_true ';'), refer_of_refersTo means]
    rfl
  | cons d rest ih =>
    have other : (d == ';') = false := by
      rw [beq_eq_false_iff_ne]
      intro same
      exact closed (same ▸ List.mem_cons_self ..)
    rw [List.cons_append, List.foldlM_cons, ValueDraft.step]
    dsimp only
    rw [other, if_neg Bool.false_ne_true]
    refine ih ?_ fun inside => closed (List.mem_cons_of_mem _ inside)
    rwa [List.reverse_cons, List.append_assoc]

/-- An escaped character is read as that character. -/
theorem foldlM_escaped {written : List Char} (escaped : Escaped BareInValue c written) :
    written.foldlM (ValueDraft.step {} standalone nested) ⟨soFar, none, allowance⟩
      = some ⟨c :: soFar, none, allowance⟩ := by
  cases escaped with
  | itself free =>
    obtain ⟨amp, lt, -, -, tab, feed, ret⟩ := free
    rw [List.foldlM_cons, ValueDraft.step]
    dsimp only
    rw [if_neg (by simpa using amp), if_neg (by simpa using lt)]
    split
    case isTrue blank =>
      have space : c = ' ' := by simpa [Text.isXmlBlank, tab, feed, ret] using blank
      rw [space]
      rfl
    case isFalse => rfl
  | reference isBody means =>
    rw [List.foldlM_cons, ValueDraft.step]
    dsimp only
    rw [if_pos (beq_self_eq_true '&')]
    exact foldlM_reference means isBody.closed

theorem foldlM_flatMap_escaped {escape : Char → List Char} {cs : List Char}
    (escaped : ∀ c ∈ cs, Escaped BareInValue c (escape c)) :
    (cs.flatMap escape).foldlM (ValueDraft.step {} standalone nested) ⟨soFar, none, allowance⟩
      = some ⟨cs.reverse ++ soFar, none, allowance⟩ := by
  induction cs generalizing soFar with
  | nil => rfl
  | cons c rest ih =>
    obtain ⟨first, others⟩ := List.forall_mem_cons.mp escaped
    rw [List.flatMap_cons, List.foldlM_append, foldlM_escaped first]
    refine (ih others).trans ?_
    rw [List.reverse_cons, List.append_assoc, List.singleton_append]

end

theorem joinLineEnds_of_notMem {cs : List Char} (none : '\r' ∉ cs) : joinLineEnds cs = cs := by
  induction cs with
  | nil => rfl
  | cons c rest ih =>
    have later := ih fun inside => none (List.mem_cons_of_mem _ inside)
    rw [joinLineEnds.eq_def]
    split
    case h_1 same => exact (none (same ▸ List.mem_cons_self ..)).elim
    case h_2 same => exact (none (same ▸ List.mem_cons_self ..)).elim
    case h_3 same =>
      cases same
      rw [later]
    case h_4 same => cases same

/-- No line ends with a carriage return in an escaped value. -/
theorem return_notMem_of_escaped {escape : Char → List Char} {cs : List Char}
    (escaped : ∀ c ∈ cs, Escaped BareInValue c (escape c)) : '\r' ∉ cs.flatMap escape := by
  intro inside
  obtain ⟨c, inText, inside⟩ := List.mem_flatMap.mp inside
  have escaped := escaped c inText
  generalize escape c = written at escaped inside
  cases escaped with
  | itself free => exact free.2.2.2.2.2.2 (List.mem_singleton.mp inside).symm
  | reference isBody means => exact (valueChar_of_reference isBody _ inside).2 rfl

/-- A value whose characters are all escaped is read as the value that was escaped, and costs
nothing. -/
theorem attributeValue_of_escaped {escape : Char → List Char} {cs : List Char}
    (escaped : ∀ c ∈ cs, Escaped BareInValue c (escape c)) (standalone : Bool) (allowance : Nat) :
    attributeValue {} standalone (cs.flatMap escape) allowance = some (cs, allowance) := by
  rw [attributeValue, joinLineEnds_of_notMem (return_notMem_of_escaped escaped), entityDepth,
    expandValue_succ, expandWith, foldlM_flatMap_escaped escaped]
  simp only [List.append_nil, List.reverse_reverse]

theorem attributeValue_escapeValue (standalone : Bool) (cs : List Char) (allowance : Nat) :
    attributeValue {} standalone (escapeValue cs) allowance = some (cs, allowance) :=
  attributeValue_of_escaped (fun c _ => escaped_value c) standalone allowance

/-- Values that are escaped in the same way are the same. -/
theorem escapeValue_injective {first second : List Char}
    (same : escapeValue first = escapeValue second) : first = second := by
  have read := attributeValue_escapeValue false first 0
  rw [same, attributeValue_escapeValue] at read
  exact (Prod.mk.inj (Option.some.inj read)).1.symm

end PrivilegeCatalog.Xml
