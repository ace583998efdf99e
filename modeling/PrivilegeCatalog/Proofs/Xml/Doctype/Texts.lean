import PrivilegeCatalog.Proofs.Xml.Doctype.Rest
import PrivilegeCatalog.Proofs.Xml.Values

/-!
# Document types hold texts

A document type declaration whose characters may stand in a document gives a document type all of
whose texts may (`Doctype.textual_ofText`). Each declaration in it keeps this, and leaves the end
of what was there to be read (`Goes`).
-/

namespace PrivilegeCatalog.Xml

theorem XmlChars.of_suffix {cs rest : List Char} (text : XmlChars cs) (left : rest <:+ cs) :
    XmlChars rest := text.of_subset left.subset

namespace Doctype

theorem textual_addRule {d : Doctype} {rule : AttributeRule} (textual : d.Textual)
    (text : ∀ value, rule.fallback = some value → XmlChars value) : (d.addRule rule).Textual := by
  unfold addRule
  split
  · exact textual
  · refine ⟨textual.entities, textual.parameterEntities, fun other inside => ?_⟩
    rcases List.mem_append.mp inside with old | new
    · exact textual.rules other old
    · rw [List.mem_singleton.mp new]
      exact text

theorem textual_addEntity {entities : List (String × Entity)} {key : String} {e : Entity}
    (textual : TextualEntities entities) (text : ∀ inner, e = .within inner → XmlChars inner) :
    TextualEntities (addEntity key e entities) := by
  unfold addEntity
  split
  · exact textual
  · intro name inner inside
    rcases List.mem_append.mp inside with old | new
    · exact textual name inner old
    · obtain ⟨-, same⟩ := Prod.mk.inj (List.mem_singleton.mp new)
      exact text inner same.symm

end Doctype

namespace DoctypeParser

variable {standalone : Bool} {d d' : Doctype} {cs rest : List Char}

/-- Something has been read that leaves a textual document type and the end of the text. -/
structure Goes (cs : List Char) (d' : Doctype) (rest : List Char) : Prop where
  textual : d'.Textual
  rest : rest <:+ cs

theorem Goes.trans {between : List Char} (goes : Goes between d' rest) (left : between <:+ cs) :
    Goes cs d' rest := ⟨goes.textual, goes.rest.trans left⟩

/-! ## Attributes -/

theorem quotedFallback?_text {fallback : Option (List Char)} (textual : d.Textual)
    (chars : XmlChars cs)
    (read : quotedFallback? d standalone cs = some (fallback, rest)) :
    (∀ value, fallback = some value → XmlChars value) ∧ rest <:+ cs := by
  simp only [quotedFallback?, Option.bind_eq_bind, Option.bind_eq_some_iff, Prod.exists,
    Option.pure_def, Option.some.injEq, Prod.mk.injEq] at read
  obtain ⟨text, left, quoted, value, allowance, valued, same, same'⟩ := read
  obtain ⟨inside, ends⟩ := quoted?_suffix quoted
  refine ⟨fun v given => ?_, same' ▸ ends⟩
  rw [← same] at given
  cases given
  exact xmlChars_attributeValue textual.entities (chars.of_subset inside) valued

theorem fallback?_text {fallback : Option (List Char)} (textual : d.Textual) (chars : XmlChars cs)
    (read : fallback? d standalone cs = some (fallback, rest)) :
    (∀ value, fallback = some value → XmlChars value) ∧ rest <:+ cs := by
  unfold fallback? at read
  split at read
  case h_1 required =>
    cases read
    exact ⟨nofun, after?_suffix required⟩
  case h_2 implied _ =>
    cases read
    exact ⟨nofun, after?_suffix implied⟩
  case h_3 =>
    split at read
    case h_1 left fixed =>
      obtain ⟨more, blanks, read⟩ := Option.bind_eq_some_iff.mp read
      have sub := (needBlanks_suffix blanks).trans (after?_suffix fixed)
      obtain ⟨text, ends⟩ := quotedFallback?_text textual (chars.of_suffix sub) read
      exact ⟨text, ends.trans sub⟩
    case h_2 => exact quotedFallback?_text textual chars read

theorem rules?_goes {element : List Char} {fuel : Nat} (textual : d.Textual) (chars : XmlChars cs)
    (read : rules? standalone element fuel d cs = some (d', rest)) : Goes cs d' rest := by
  induction fuel generalizing d cs with
  | zero => cases read
  | succ fuel ih =>
    rw [rules?.eq_def] at read
    dsimp only at read
    split at read
    case h_1 =>
      cases read
      exact ⟨textual, List.suffix_cons _ _⟩
    case h_2 =>
      simp only [Option.bind_eq_bind, Option.bind_eq_some_iff, Prod.exists] at read
      obtain ⟨key, a, named, b, blanks, isTokens, c, typed, e, blanks', fallback, f, given,
        read⟩ := read
      have sub := (needBlanks_suffix blanks').trans ((attributeType?_suffix typed).trans
        ((needBlanks_suffix blanks).trans (word?_suffix named)))
      obtain ⟨text, left⟩ := fallback?_text textual (chars.of_suffix sub) given
      have left := left.trans sub
      have values : ∀ value, (if isTokens then fallback.map tokens else fallback) = some value
          → XmlChars value := by
        intro value same
        split at same
        · obtain ⟨inner, held, equal⟩ := Option.map_eq_some_iff.mp same
          rw [← equal]
          exact xmlChars_tokens (text inner held)
        · exact text value same
      have more : (d.addRule
          ⟨element, key, isTokens, if isTokens then fallback.map tokens else fallback⟩).Textual :=
        Doctype.textual_addRule textual values
      split at read
      case h_1 =>
        cases read
        exact ⟨more, (List.suffix_cons _ _).trans left⟩
      case h_2 =>
        obtain ⟨g, blanks'', others⟩ := Option.bind_eq_some_iff.mp read
        have sub' := (needBlanks_suffix blanks'').trans left
        exact (ih more (chars.of_suffix sub') others).trans sub'

theorem attributes?_goes (textual : d.Textual) (chars : XmlChars cs)
    (read : attributes? standalone d cs = some (d', rest)) : Goes cs d' rest := by
  simp only [attributes?, Option.bind_eq_bind, Option.bind_eq_some_iff, Prod.exists] at read
  obtain ⟨a, blanks, element, b, named, rules⟩ := read
  have sub := (skipBlanks_suffix b).trans ((word?_suffix named).trans (needBlanks_suffix blanks))
  exact (rules?_goes textual (chars.of_suffix sub) rules).trans sub

/-! ## Entities and notations -/

/-- A text of an entity in the making holds texts. -/
def TextualDraft (draft : EntityDraft) : Prop :=
  XmlChars draft.1 ∧ ∀ body, draft.2 = some body → XmlChars body

theorem textual_entityStep {draft draft' : EntityDraft} {c : Char} (textual : TextualDraft draft)
    (character : isXmlChar c = true) (next : entityStep draft c = some draft') :
    TextualDraft draft' := by
  obtain ⟨soFar, reference⟩ := draft
  obtain ⟨text, referenceText⟩ := textual
  cases reference with
  | some body =>
    have bodyText := referenceText body rfl
    rw [entityStep] at next
    split at next
    case isTrue =>
      split at next
      case h_1 c' means =>
        cases next
        exact ⟨.cons (isXmlChar_of_reference means) text, nofun⟩
      case h_2 =>
        cases next
        exact ⟨.cons (by decide) (bodyText.append (.cons (by decide) text)), nofun⟩
      case h_3 => cases next
    case isFalse =>
      cases next
      refine ⟨text, fun body' same => ?_⟩
      cases same
      exact .cons character bodyText
  | none =>
    rw [entityStep] at next
    split_ifs at next
    · cases next
      refine ⟨text, fun body' same => ?_⟩
      cases same
      exact .nil
    · cases next
      exact ⟨.cons character text, nofun⟩

theorem xmlChars_entityText? {text value : List Char} (chars : XmlChars text)
    (read : entityText? text = some value) : XmlChars value := by
  have lines := xmlChars_joinLineEnds chars
  unfold entityText? at read
  split at read
  case h_1 soFar folded =>
    cases read
    have start : TextualDraft ([], none) := ⟨.nil, nofun⟩
    have textual := foldlM_keeps (P := TextualDraft)
      (fun _ held c inside _ next => textual_entityStep held (lines c inside) next) start folded
    exact textual.1.reverse
  case h_2 => cases read

/-- What stands elsewhere has no text here. -/
theorem data?_ne_within {e : Entity} (read : data? cs = some (e, rest)) (inner : List Char) :
    e ≠ .within inner := by
  intro same
  subst same
  rw [data?.eq_def] at read
  split at read
  case h_1 => cases read
  case h_2 =>
    simp only [Option.bind_eq_bind, Option.bind_eq_some_iff] at read
    obtain ⟨a, blanks, read⟩ := read
    split at read
    case h_1 =>
      obtain ⟨b, blanks', read⟩ := Option.bind_eq_some_iff.mp read
      obtain ⟨named, word, read⟩ := Option.bind_eq_some_iff.mp read
      cases read
    case h_2 => cases read

theorem entityValue?_text {parameter : Bool} {e : Entity} (chars : XmlChars cs)
    (read : entityValue? parameter cs = some (e, rest)) :
    (∀ inner, e = .within inner → XmlChars inner) ∧ rest <:+ cs := by
  unfold entityValue? at read
  split at read
  case h_1 text more quoted =>
    obtain ⟨inside, left⟩ := quoted?_suffix quoted
    obtain ⟨value, valued, same⟩ := Option.map_eq_some_iff.mp read
    cases same
    refine ⟨fun inner given => ?_, left⟩
    cases given
    exact xmlChars_entityText? (chars.of_subset inside) valued
  case h_2 =>
    obtain ⟨left, found, read⟩ := Option.bind_eq_some_iff.mp read
    have sub := elsewhere?_suffix found
    split at read
    case isTrue =>
      cases read
      exact ⟨nofun, sub⟩
    case isFalse =>
      refine ⟨fun inner given => ?_, (data?_suffix read).trans sub⟩
      exact absurd given (data?_ne_within read inner)

theorem textual_withEntity {parameter : Bool} {name : List Char} {e : Entity}
    (textual : d.Textual) (text : ∀ inner, e = .within inner → XmlChars inner) :
    (withEntity d parameter name e).Textual := by
  obtain ⟨entities, parameterEntities, rules⟩ := textual
  unfold withEntity
  cases parameter with
  | true => exact ⟨entities, Doctype.textual_addEntity parameterEntities text, rules⟩
  | false => exact ⟨Doctype.textual_addEntity entities text, parameterEntities, rules⟩

theorem entity?_goes (textual : d.Textual) (chars : XmlChars cs)
    (read : entity? d cs = some (d', rest)) : Goes cs d' rest := by
  simp only [entity?, Option.bind_eq_bind, Option.bind_eq_some_iff, Prod.exists, Option.pure_def,
    Option.some.injEq, Prod.mk.injEq] at read
  obtain ⟨a, blanks, parameter, name, b, named, c, blanks', e, f, valued, more, closed, same,
    same'⟩ := read
  have sub := (needBlanks_suffix blanks').trans
    ((entityName?_suffix named).trans (needBlanks_suffix blanks))
  obtain ⟨text, left⟩ := entityValue?_text (chars.of_suffix sub) valued
  have ends := (after?_suffix closed).trans (skipBlanks_suffix _)
  rw [← same, ← same']
  exact ⟨textual_withEntity textual text, ends.trans (left.trans sub)⟩

theorem notation?_goes (textual : d.Textual) (read : notation? d cs = some (d', rest)) :
    Goes cs d' rest := by
  simp only [notation?, Option.bind_eq_bind, Option.bind_eq_some_iff, Prod.exists,
    Option.pure_def, Option.some.injEq, Prod.mk.injEq] at read
  obtain ⟨a, blanks, name, b, named, c, blanks', e, id, more, closed, same, same'⟩ := read
  have sub := (needBlanks_suffix blanks').trans
    ((word?_suffix named).trans (needBlanks_suffix blanks))
  have ends := (after?_suffix closed).trans (skipBlanks_suffix _)
  rw [← same, ← same']
  refine ⟨⟨textual.entities, textual.parameterEntities, textual.rules⟩, ?_⟩
  exact ends.trans ((notationId?_suffix id).trans sub)

/-! ## The list of declarations -/

theorem declaration?_goes (textual : d.Textual) (chars : XmlChars cs)
    (read : declaration? standalone d cs = some (d', rest)) : Goes cs d' rest := by
  rw [declaration?.eq_def] at read
  split at read
  case h_1 inner comment =>
    obtain ⟨left, found, same⟩ := Option.map_eq_some_iff.mp read
    cases same
    exact ⟨textual, (comment?_suffix found).trans (after?_suffix comment)⟩
  case h_2 inner opened _ =>
    simp only [Option.bind_eq_bind, Option.bind_eq_some_iff, Prod.exists] at read
    obtain ⟨text, left, found, instruction, -, read⟩ := read
    split at read
    · cases read
      refine ⟨⟨textual.entities, textual.parameterEntities, textual.rules⟩, ?_⟩
      exact (instruction?_suffix found).trans (after?_suffix opened)
    · cases read
  case h_3 =>
    split at read
    case h_1 inner opened =>
      obtain ⟨left, found, same⟩ := Option.map_eq_some_iff.mp read
      cases same
      exact ⟨textual, (element?_suffix found).trans (after?_suffix opened)⟩
    case h_2 inner opened _ =>
      have sub := after?_suffix opened
      exact (attributes?_goes textual (chars.of_suffix sub) read).trans sub
    case h_3 inner opened _ _ =>
      have sub := after?_suffix opened
      exact (entity?_goes textual (chars.of_suffix sub) read).trans sub
    case h_4 inner opened _ _ _ =>
      exact (notation?_goes textual read).trans (after?_suffix opened)
    case h_5 => cases read

section

variable {nested : Doctype → List Char → Option (Doctype × List Char)}

/-- The declarations in a parameter entity keep a document type textual. -/
def TextualNested (nested : Doctype → List Char → Option (Doctype × List Char)) : Prop :=
  ∀ d cs d' rest, d.Textual → XmlChars cs → nested d cs = some (d', rest) → Goes cs d' rest

theorem parameter?_goes (inner : TextualNested nested) (textual : d.Textual)
    (read : parameter? standalone nested d cs = some (d', rest)) : Goes cs d' rest := by
  have marked : Doctype.Textual { d with parameters := true } :=
    ⟨textual.entities, textual.parameterEntities, textual.rules⟩
  simp only [parameter?, Option.bind_eq_bind, Option.bind_eq_some_iff, Prod.exists] at read
  obtain ⟨name, a, named, b, closed, read⟩ := read
  have sub := (after?_suffix closed).trans (word?_suffix named)
  split at read
  case h_1 =>
    split at read
    · cases read
      exact ⟨marked, sub⟩
    · cases read
  case h_2 text found =>
    simp only [Option.bind_eq_some_iff, Prod.exists] at read
    obtain ⟨d'', left, followed, read⟩ := read
    split at read
    · cases read
      have chars := textual.parameterEntities _ text (mem_of_lookup found)
      exact ⟨(inner _ _ _ _ marked chars followed).textual, sub⟩
    · cases read
  case h_3 =>
    cases read
    exact ⟨marked, sub⟩

theorem declarations?_goes (inner : TextualNested nested) {fuel : Nat} (textual : d.Textual)
    (chars : XmlChars cs) (read : declarations? standalone nested fuel d cs = some (d', rest)) :
    Goes cs d' rest := by
  induction fuel generalizing d cs with
  | zero => cases read
  | succ fuel ih =>
    have blanks := skipBlanks_suffix cs
    have skipped := chars.of_suffix blanks
    unfold declarations? at read
    split at read
    case h_1 =>
      cases read
      exact ⟨textual, List.nil_suffix⟩
    case h_2 more same =>
      cases read
      exact ⟨textual, same ▸ blanks⟩
    case h_3 more same =>
      rw [same] at blanks
      simp only [Option.bind_eq_bind, Option.bind_eq_some_iff, Prod.exists] at read
      obtain ⟨d'', left, first, others⟩ := read
      have sub := (List.suffix_cons _ _).trans blanks
      have goes := (parameter?_goes inner textual first).trans sub
      exact (ih goes.textual (chars.of_suffix goes.rest) others).trans goes.rest
    case h_4 =>
      simp only [Option.bind_eq_bind, Option.bind_eq_some_iff, Prod.exists] at read
      obtain ⟨d'', left, first, others⟩ := read
      have goes := (declaration?_goes textual skipped first).trans blanks
      exact (ih goes.textual (chars.of_suffix goes.rest) others).trans goes.rest

end

/-- Declarations keep a document type textual, however deep parameter entities stand in
another. -/
theorem textual_subset? (standalone : Bool) (depth : Nat) :
    TextualNested (subset? standalone depth) := by
  induction depth with
  | zero =>
    intro d cs d' rest _ _ read
    cases read
  | succ depth ih =>
    intro d cs d' rest textual chars read
    exact declarations?_goes ih textual chars read

theorem externalSubset?_suffix {external : Bool}
    (read : externalSubset? cs = some (external, rest)) : rest <:+ cs := by
  unfold externalSubset? at read
  split at read
  · cases read
    exact List.suffix_rfl
  · obtain ⟨⟨text, more⟩, found, same⟩ := Option.map_eq_some_iff.mp read
    cases same
    exact (skipBlanks_suffix more).trans (externalId?_suffix found).2

theorem textual_internalSubset? (textual : d.Textual) (chars : XmlChars cs)
    (read : internalSubset? standalone d cs = some d') : d'.Textual := by
  rw [internalSubset?.eq_def] at read
  split at read
  case h_1 =>
    cases read
    exact textual
  case h_2 inner =>
    simp only [Option.bind_eq_bind, Option.bind_eq_some_iff, Prod.exists] at read
    obtain ⟨d', rest, followed, read⟩ := read
    have inside := chars.of_suffix (List.suffix_cons _ inner)
    have goes := textual_subset? standalone parameterDepth _ _ _ _ textual inside followed
    split at read
    case h_1 =>
      split at read
      · cases read
        exact goes.textual
      · cases read
    case h_2 => cases read
  case h_3 => cases read

end DoctypeParser

open DoctypeParser

/-- A declaration of texts gives a document type of texts. -/
theorem Doctype.textual_ofText {standalone : Bool} {cs : List Char} {d : Doctype}
    (chars : XmlChars cs) (made : ofText standalone cs = some d) : d.Textual := by
  simp only [ofText, Option.bind_eq_bind, Option.bind_eq_some_iff, Prod.exists] at made
  obtain ⟨a, blanks, name, b, named, external, c, subset_, made⟩ := made
  have sub := (skipBlanks_suffix b).trans ((word?_suffix named).trans (needBlanks_suffix blanks))
  have inside := chars.of_suffix ((externalSubset?_suffix subset_).trans sub)
  have bare : Doctype.Textual { external } := ⟨nofun, nofun, nofun⟩
  exact textual_internalSubset? bare inside made

end PrivilegeCatalog.Xml
