import PrivilegeCatalog.Text.Blank
import PrivilegeCatalog.Xml.Character

/-!
# Tags in the making

A tag is read one character at a time. A draft holds what has been read of it: its name, the
attributes that are complete, and the place in the tag. `TagDraft.step` takes the next character,
and refuses one that cannot stand there; `TagDraft.canClose` tells whether the tag may end.
-/

namespace PrivilegeCatalog.Xml

open Text (isXmlBlank)

/-- A place in a start tag. Texts are held in reverse. -/
inductive TagPlace
  | name (soFar : List Char)
  | gap
  | key (soFar : List Char)
  | beforeSign (key : List Char)
  | beforeValue (key : List Char)
  | value (key : List Char) (quote : Char) (soFar : List Char)
  | afterValue
  | slash
  deriving DecidableEq, Repr

/-- A start tag up to some place. The attributes are held in reverse, each with its value as
written. -/
structure TagDraft where
  name : List Char
  attributes : List (List Char × List Char)
  place : TagPlace
  deriving DecidableEq, Repr

namespace TagDraft

/-- A tag of which only the first character of its name has been read. -/
def start? (c : Char) : Option TagDraft :=
  if c == ':' || isNameStart c then some ⟨[], [], .name [c]⟩ else none

/-- The draft with the next character. -/
def step (d : TagDraft) (c : Char) : Option TagDraft :=
  match d.place with
  | .name soFar =>
    if isWordChar c then some { d with place := .name (c :: soFar) }
    else if isXmlBlank c then some { d with name := soFar.reverse, place := .gap }
    else if c == '/' then some { d with name := soFar.reverse, place := .slash }
    else none
  | .gap =>
    if isXmlBlank c then some d
    else if c == '/' then some { d with place := .slash }
    else if c == ':' || isNameStart c then some { d with place := .key [c] }
    else none
  | .key soFar =>
    if isWordChar c then some { d with place := .key (c :: soFar) }
    else if c == '=' then some { d with place := .beforeValue soFar.reverse }
    else if isXmlBlank c then some { d with place := .beforeSign soFar.reverse }
    else none
  | .beforeSign key =>
    if isXmlBlank c then some d
    else if c == '=' then some { d with place := .beforeValue key }
    else none
  | .beforeValue key =>
    if isXmlBlank c then some d
    else if c == '"' || c == '\'' then some { d with place := .value key c [] }
    else none
  | .value key quote soFar =>
    if c == quote then
      some { d with attributes := (key, soFar.reverse) :: d.attributes, place := .afterValue }
    else if c == '<' then none
    else some { d with place := .value key quote (c :: soFar) }
  | .afterValue =>
    if isXmlBlank c then some { d with place := .gap }
    else if c == '/' then some { d with place := .slash }
    else none
  | .slash => none

/-- The tag may end here. -/
def canClose (d : TagDraft) : Bool :=
  match d.place with
  | .name _ | .gap | .afterValue | .slash => true
  | _ => false

/-- The tag is that of an element without content. -/
def isEmptyElement (d : TagDraft) : Bool := d.place == .slash

/-- The name of the element. -/
def word (d : TagDraft) : List Char :=
  match d.place with
  | .name soFar => soFar.reverse
  | _ => d.name

end TagDraft

/-- An end tag up to some place: the name, in reverse, and whether a blank has ended it. -/
structure EndDraft where
  name : List Char
  ended : Bool
  deriving DecidableEq, Repr

/-- The draft with the next character. -/
def EndDraft.step (d : EndDraft) (c : Char) : Option EndDraft :=
  if isXmlBlank c then (if d.name.isEmpty then none else some { d with ended := true })
  else if isWordChar c && !d.ended then some { d with name := c :: d.name }
  else none

/-- The name of the element. -/
def EndDraft.word (d : EndDraft) : List Char := d.name.reverse

end PrivilegeCatalog.Xml
