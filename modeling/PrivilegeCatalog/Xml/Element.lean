import PrivilegeCatalog.Xml.AttributeValue
import PrivilegeCatalog.Xml.Event
import PrivilegeCatalog.Xml.RawName
import PrivilegeCatalog.Xml.TagDraft
import PrivilegeCatalog.Xml.UriReference

/-!
# Start tags in their namespaces

A start tag as it is written becomes the declarations that it makes and a tag with names in
namespaces. Faults of two kinds are met on the way: a value that cannot be read or an attribute
that is given twice stops the reading, and a use of namespaces against their rules makes the
document unsound.
-/

namespace PrivilegeCatalog.Xml

/-- The label that XML binds by itself. -/
def reservedLabel : String := "xml"

/-- The namespace of that label. -/
def reservedUri : String := "http://www.w3.org/XML/1998/namespace"

/-- The label of declarations. -/
def declarationLabel : String := "xmlns"

/-- The namespace of that label, which is never declared. -/
def declarationUri : String := "http://www.w3.org/2000/xmlns/"

/-- The namespaces that are declared around a place, the nearest first. -/
abbrev Scope := List (String × String)

/-- The namespace of a label. -/
def Scope.uri? (scope : Scope) (label : String) : Option String :=
  if label = reservedLabel then some reservedUri else scope.lookup label

/-- An attribute with its value. -/
structure Attribute where
  name : RawName
  value : String
  deriving DecidableEq, Repr

/-- The label that an attribute declares; empty for the default namespace. -/
def Attribute.declares? (a : Attribute) : Option String :=
  match a.name.label with
  | none => if a.name.stem = declarationLabel then some "" else none
  | some label => if label = declarationLabel then some a.name.stem else none

/-- Declarations in the making, in reverse, and whether all keep the rules. -/
structure Declared where
  bindings : List (String × String)
  sound : Bool
  deriving DecidableEq, Repr

/-- What the rules say about a declaration: whether it counts, and whether it is sound. -/
def judgeDeclaration (label uri : String) : Bool × Bool :=
  if label = "" then
    if uri = reservedUri ∨ uri = declarationUri then (false, false)
    else (true, uri = "" ∨ isUriReference uri)
  else if label = reservedLabel then (false, uri = reservedUri)
  else if uri = reservedUri ∨ label = declarationLabel ∨ uri = declarationUri ∨ uri = "" then
    (false, false)
  else (true, isUriReference uri)

/-- One more declaration; a label that is declared twice stops the reading. -/
def Declared.add (d : Declared) (label uri : String) : Option Declared :=
  let (counts, sound) := judgeDeclaration label uri
  if counts then
    if d.bindings.any (·.1 == label) then none
    else some ⟨(label, uri) :: d.bindings, d.sound && sound⟩
  else some { d with sound := d.sound && sound }

/-- The declarations among some attributes. -/
def declaredBy (attributes : List Attribute) : Option Declared :=
  attributes.foldlM (fun d a =>
    match a.declares? with
    | some label => d.add label a.value
    | none => some d) ⟨[], true⟩

/-- The declarations with those that an element has by default. -/
def Declared.withDefaults (d : Declared) (defaults : List Attribute) : Declared :=
  defaults.foldl (fun d a =>
    match a.declares? with
    | some label =>
      if d.bindings.any (·.1 == label) then d
      else { d with bindings := (label, a.value) :: d.bindings }
    | none => d) d

/-- A name in its namespace: the URI, empty for none, the text, and whether the label is known. -/
structure ExpandedName where
  uri : String
  text : String
  known : Bool
  deriving DecidableEq, Repr

/-- The name of a label that stands for no namespace is kept whole. -/
def expandLabelled (scope : Scope) (label stem : String) : ExpandedName :=
  match scope.uri? label with
  | some uri => ⟨uri, stem, true⟩
  | none => ⟨"", label ++ ":" ++ stem, false⟩

/-- The name of an element: without a label it is in the default namespace. -/
def expandElement (scope : Scope) (name : RawName) : ExpandedName :=
  match name.label with
  | some label => expandLabelled scope label name.stem
  | none => ⟨(scope.lookup "").getD "", name.stem, true⟩

/-- The name of an attribute: without a label it is in no namespace. -/
def expandAttribute (scope : Scope) (name : RawName) : ExpandedName :=
  match name.label with
  | some label => expandLabelled scope label name.stem
  | none => ⟨"", name.stem, true⟩

/-- An attribute is the same as an earlier one when both the namespace and the stem agree. -/
def sameAttribute (scope : Scope) (a b : Attribute) : Bool :=
  (expandAttribute scope a.name).uri == (expandAttribute scope b.name).uri
    && a.name.stem == b.name.stem

/-- Checks each attribute against the earlier ones: given twice under one label it stops the
reading, and under two labels it is unsound. -/
def checkAttributes (scope : Scope) : (earlier : List Attribute) → List Attribute → Option Bool
  | _, [] => some true
  | earlier, a :: rest =>
    match earlier.find? (sameAttribute scope a) with
    | some b => if a.name.label == b.name.label then none
      else (checkAttributes scope earlier rest).map fun _ => false
    | none => checkAttributes scope (earlier ++ [a]) rest

/-- A start tag in its namespaces. -/
structure Element where
  declarations : List (String × String)
  tag : Tag
  scope : Scope
  sound : Bool
  allowance : Nat
  deriving DecidableEq, Repr

/-- The attributes of a draft with their values, and the allowance that is left. -/
def readAttributes (doctype : Doctype) (standalone : Bool) (element : List Char) :
    List (List Char × List Char) → Nat → Option (List Attribute × Nat)
  | [], allowance => some ([], allowance)
  | (key, text) :: rest, allowance => do
    let name ← RawName.ofWord key
    let (value, allowance) ← attributeValue doctype standalone text allowance
    let value := if doctype.isTokens element key then tokens value else value
    let (others, allowance) ← readAttributes doctype standalone element rest allowance
    return (⟨name, String.ofList value⟩ :: others, allowance)

/-- The attributes that an element has by default. -/
def defaultAttributes (doctype : Doctype) (element : List Char) : List Attribute :=
  (doctype.rulesFor element).filterMap fun rule =>
    match rule.fallback, RawName.ofWord rule.key with
    | some value, some name => some ⟨name, String.ofList value⟩
    | _, _ => none

/-- A complete draft in the scope around it. -/
def Element.ofDraft (doctype : Doctype) (standalone : Bool) (scope : Scope) (line allowance : Nat)
    (draft : TagDraft) : Option Element := do
  let name ← RawName.ofWord draft.word
  let (attributes, allowance) ←
    readAttributes doctype standalone draft.word draft.attributes.reverse allowance
  let defaults := defaultAttributes doctype draft.word
  let declared ← declaredBy attributes
  let declared := declared.withDefaults defaults
  let inner : Scope := declared.bindings ++ scope
  let given := attributes.filter (·.declares?.isNone)
  let added := (defaults.filter (·.declares?.isNone)).filter fun a =>
    !given.any (sameAttribute inner a)
  let apart ← checkAttributes inner [] given
  let all := given ++ added
  let expanded := expandElement inner name
  let sound := declared.sound && apart && name.sound && expanded.known
    && attributes.all (·.name.sound) && all.all fun a => (expandAttribute inner a.name).known
  let plain := (all.filter (·.name.label.isNone)).map fun a => (a.name.stem, a.value)
  let tag : Tag := ⟨expanded.uri, expanded.text, line, plain⟩
  return ⟨declared.bindings.reverse, tag, inner, sound, allowance⟩

end PrivilegeCatalog.Xml
