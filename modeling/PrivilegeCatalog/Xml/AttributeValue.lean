import PrivilegeCatalog.Encoding
import PrivilegeCatalog.Text.Blank
import PrivilegeCatalog.Xml.Doctype
import PrivilegeCatalog.Xml.Reference

/-!
# Attribute values

The value that is meant by a text between quotes: each line end and tab is a space, and references
are replaced, those to entities by the text of the entity read in the same way. An allowance
bounds what entities may add to a document, so that a few of them cannot stand for an immense
text.
-/

namespace PrivilegeCatalog.Xml

/-- What the entities of a document may add to it, in octets. -/
def expansionLimit : Nat := 1000000

/-- What a reference to an entity costs besides the octets of its text. -/
def referenceCost : Nat := 20

/-- How deep entities may stand in one another inside an attribute. -/
def entityDepth : Nat := 20

/-- The allowance after a reference to an entity, if it suffices. -/
def charge (allowance : Nat) (text : List Char) : Option Nat :=
  let cost := (Encoding.utf8.encode text).length + referenceCost
  if cost ≤ allowance then some (allowance - cost) else none

/-- Every line end as one line feed. -/
def joinLineEnds : List Char → List Char
  | '\r' :: '\n' :: rest => '\n' :: joinLineEnds rest
  | '\r' :: rest => '\n' :: joinLineEnds rest
  | c :: rest => c :: joinLineEnds rest
  | [] => []

/-- A value in the making: the characters in reverse, and the reference that is being read, in
reverse. -/
structure ValueDraft where
  soFar : List Char
  reference : Option (List Char)
  allowance : Nat

/-- What an entity adds to a value, and the allowance that is left. -/
abbrev Expand := List Char → Nat → Option (List Char × Nat)

/-- The draft after a reference. -/
def ValueDraft.refer (doctype : Doctype) (standalone : Bool) (nested : Expand) (d : ValueDraft)
    (body : List Char) : Option ValueDraft :=
  match Reference.ofText body with
  | none => none
  | some (.character c) => some { d with soFar := c :: d.soFar, reference := none }
  | some (.entity name) =>
    match predefinedEntities.lookup name with
    | some c => some { d with soFar := c :: d.soFar, reference := none }
    | none =>
      match doctype.entities.lookup name with
      | some (.within text) => do
        let allowance ← charge d.allowance text
        let (added, allowance) ← nested text allowance
        return ⟨added.reverse ++ d.soFar, none, allowance⟩
      | some _ => none
      | none => if doctype.mayHide standalone then some { d with reference := none } else none

/-- The draft with the next character. -/
def ValueDraft.step (doctype : Doctype) (standalone : Bool) (nested : Expand) (d : ValueDraft)
    (c : Char) : Option ValueDraft :=
  match d.reference with
  | some soFar =>
    if c == ';' then d.refer doctype standalone nested soFar.reverse
    else some { d with reference := some (c :: soFar) }
  | none =>
    if c == '&' then some { d with reference := some [] }
    else if c == '<' then none
    else if Text.isXmlBlank c then some { d with soFar := ' ' :: d.soFar }
    else some { d with soFar := c :: d.soFar }

/-- The value of a text, with entities in it down to some depth. -/
def expandValue (doctype : Doctype) (standalone : Bool) : (depth : Nat) → Expand
  | depth, text, allowance =>
    let nested : Expand :=
      match depth with
      | 0 => fun _ _ => none
      | below + 1 => expandValue doctype standalone below
    match text.foldlM (ValueDraft.step doctype standalone nested) ⟨[], none, allowance⟩ with
    | some ⟨soFar, none, left⟩ => some (soFar.reverse, left)
    | _ => none

/-- The value without outer spaces, and with one space between tokens. -/
def tokens (value : List Char) : List Char :=
  let step := fun (soFar : List Char) (c : Char) =>
    if c == ' ' && (soFar.isEmpty || soFar.head? == some ' ') then soFar else c :: soFar
  ((value.foldl step []).dropWhile (· == ' ')).reverse

/-- The value of an attribute as written between its quotes. -/
def attributeValue (doctype : Doctype) (standalone : Bool) : Expand :=
  fun text allowance => expandValue doctype standalone entityDepth (joinLineEnds text) allowance

end PrivilegeCatalog.Xml
