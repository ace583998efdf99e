import PrivilegeCatalog.NamespaceTable
import PrivilegeCatalog.Privilege
import PrivilegeCatalog.Vocabulary
import PrivilegeCatalog.Xml.Source

/-!
# Reading a document

The events of a document are followed one by one. Declarations are bound into a single table,
wherever they stand. A child of the root is scanned when it ends, with the children that it has;
labels are looked up only after the whole document, in the table with the well-known bindings
filled in. The first check that fails ends the reading, so what a document tells before a fault of
form is checked before the fault is seen.
-/

namespace PrivilegeCatalog

open Vocabulary

/-- Why a document is rejected. -/
inductive Rejection
  | empty
  | malformed
  | conflict (fault : TableFault)
  | wrongRoot (found : String) (line : Nat)
  | nameMissing (element : String) (line : Nat)
  | nameInvalid (fault : NameFault) (line : Nat)
  | abstractInvalid (value : String) (line : Nat)
  | nameRepeated (name : String) (first line : Nat)
  | labelUnknown (label name : String) (line : Nat)
  deriving DecidableEq, Repr

namespace Rejection

/-- The wording of a rejection. -/
def message : Rejection → String
  | empty => "Empty privilege document"
  | malformed => "Malformed XML"
  | conflict fault => fault.message
  | wrongRoot found _ =>
    "Expected root element '" ++ rootElement ++ "', got '" ++ found ++ "'"
  | nameMissing element _ =>
    "Element '" ++ element ++ "' is missing the required '" ++ nameAttribute ++ "' attribute"
  | nameInvalid fault _ => fault.message
  | abstractInvalid value _ =>
    "Invalid value for '" ++ abstractAttribute ++ "': " ++ Text.quoted value
      ++ " (expected 'true' or 'false')"
  | nameRepeated name first _ =>
    "Duplicate privilege definition " ++ Text.quoted name ++ " (first declared on line "
      ++ toString first ++ ")"
  | labelUnknown label name _ =>
    "Unknown namespace prefix " ++ Text.quoted label ++ " in name " ++ Text.quoted name

/-- The line that a rejection is about, if it is about one. -/
def line? : Rejection → Option Nat
  | empty | malformed | conflict _ => none
  | wrongRoot _ line | nameMissing _ line | nameInvalid _ line | abstractInvalid _ line
  | nameRepeated _ _ line | labelUnknown _ _ line => some line

/-- A rejection as it is reported about a document of the given name. A repeated name breaks a
rule about content; everything else means that the document cannot be read. -/
def failure (source : String) (r : Rejection) : Failure :=
  let line : Option Int := r.line?.map Int.ofNat
  match r with
  | nameRepeated .. => Failure.validation r.message source line
  | _ => Failure.parse r.message source line none

end Rejection

/-- Why reading stops: the document is rejected, or an element is asked for a name that it has
not. -/
inductive ReadFault
  | rejected (r : Rejection)
  | badTagName (text : String)
  deriving DecidableEq, Repr

/-- The wording of a fault, without a place. -/
def ReadFault.message : ReadFault → String
  | rejected r => r.message
  | badTagName text => "Invalid tag name " ++ Text.quoted text

/-- What a document holds: privileges in the order of the document, and its namespaces. -/
structure Catalog where
  privileges : List Privilege
  namespaces : NamespaceTable
  deriving DecidableEq

namespace Reading

/-- A privilege as it is scanned, before its labels are looked up. -/
structure Entry where
  name : Name
  isAbstract : Bool
  line : Nat
  members : List (Name × Nat)
  deriving DecidableEq

/-- The privilege that an entry stands for. -/
def Entry.privilege (e : Entry) : Privilege := ⟨e.name, e.isAbstract, e.members.map (·.1)⟩

/-- What is known after some events: the bindings, how many elements are open, the child of the
root that is open with its own children, and the entries of those that have ended. Both lists are
in reverse. -/
structure Progress where
  table : NamespaceTable := NamespaceTable.empty
  depth : Nat := 0
  child : Option Xml.Tag := none
  members : List Xml.Tag := []
  entries : List Entry := []
  deriving DecidableEq

/-- Work on a document. -/
abbrev Step (α : Type) := Logged ReadFault α

/-- Ends the reading. -/
def reject {α : Type} (r : Rejection) : Step α := Logged.fail (.rejected r)

/-- The local name of an element, which it has to have. -/
def localName (tag : Xml.Tag) : Step String :=
  match tag.localName with
  | .ok name => pure name
  | .error text => Logged.fail (.badTagName text)

/-! ## Elements -/

/-- The name that an element of the given kind carries. -/
def nameOf (element : String) (tag : Xml.Tag) : Step Name :=
  let text := Text.trim ((tag.attribute? nameAttribute).getD "")
  if text = "" then reject (.nameMissing element tag.line)
  else
    match Name.ofText text with
    | .ok name => pure name
    | .error fault => reject (.nameInvalid fault tag.line)

/-- A truth value as it is written in a document: one of two words, in any case and between
blanks. -/
def truth? (value : String) : Option Bool :=
  let word := Text.lower (Text.trim value)
  if word = "true" then some true else if word = "false" then some false else none

/-- Whether an element is marked as abstract. -/
def abstractOf (tag : Xml.Tag) : Step Bool :=
  match tag.attribute? abstractAttribute with
  | none => pure false
  | some value =>
    match truth? value with
    | some b => pure b
    | none => reject (.abstractInvalid value tag.line)

/-- The members of a privilege from its children; a child of another kind is passed over. -/
def membersOf (owner : String) : List Xml.Tag → Step (List (Name × Nat))
  | [] => pure []
  | tag :: rest => do
    let kind ← localName tag
    if kind = memberElement then
      let name ← nameOf kind tag
      let others ← membersOf owner rest
      return (name, tag.line) :: others
    else
      Logged.note (.memberSkipped kind owner)
      membersOf owner rest

/-- The entry of a child of the root with its children; a child of another kind is passed over. -/
def entryOf (source : String) (tag : Xml.Tag) (members : List Xml.Tag) : Step (Option Entry) := do
  let kind ← localName tag
  if kind = entryElement then
    let name ← nameOf kind tag
    let isAbstract ← abstractOf tag
    let members ← membersOf name.text members
    return some ⟨name, isAbstract, tag.line, members⟩
  else
    Logged.note (.entrySkipped kind source tag.line)
    return none

/-- The line of the entry that has the name already. -/
def firstLine? (entries : List Entry) (name : Name) : Option Nat :=
  (entries.find? (·.name == name)).map (·.line)

/-! ## Events -/

/-- A declaration: the default namespace plays no part, all others are bound. -/
def declare (source : String) (p : Progress) (label uri : String) : Step Progress :=
  if label = "" then do
    Logged.note (.defaultNamespaceIgnored uri source)
    return p
  else do
    let table ← (p.table.bind label uri).logged.mapError fun fault => .rejected (.conflict fault)
    return { p with table }

/-- The start of an element. -/
def start (p : Progress) (tag : Xml.Tag) : Step Progress :=
  match p.depth with
  | 0 => do
    let kind ← localName tag
    if kind = rootElement then return { p with depth := 1 }
    else reject (.wrongRoot kind tag.line)
  | 1 => pure { p with depth := 2, child := some tag, members := [] }
  | 2 => pure { p with depth := 3, members := tag :: p.members }
  | depth => pure { p with depth := depth + 1 }

/-- The end of an element. -/
def finish (source : String) (p : Progress) : Step Progress :=
  match p.depth, p.child with
  | 2, some tag => do
    let p' : Progress := { p with depth := 1, child := none, members := [] }
    match ← entryOf source tag p.members.reverse with
    | none => return p'
    | some entry =>
      match firstLine? p.entries entry.name with
      | some first => reject (.nameRepeated entry.name.text first entry.line)
      | none => return { p' with entries := entry :: p.entries }
  | depth, _ => pure { p with depth := depth - 1 }

/-- One event. -/
def step (source : String) (p : Progress) : Xml.Event → Step Progress
  | .declares label uri => declare source p label uri
  | .starts tag => start p tag
  | .ends => finish source p

/-- Events one after another. -/
def follow (source : String) : Progress → List Xml.Event → Step Progress
  | p, [] => pure p
  | p, event :: rest => do
    let p ← step source p event
    follow source p rest

/-! ## Labels -/

/-- The first of some names whose label is not bound. -/
def unknownLabel? (table : NamespaceTable) (names : List (Name × Nat)) : Option Rejection :=
  (names.find? fun (name, _) => !table.hasLabel name.label).map fun (name, line) =>
    .labelUnknown name.label name.text line

/-- The names of an entry, its own first, with their lines. -/
def Entry.names (e : Entry) : List (Name × Nat) := (e.name, e.line) :: e.members

/-- Entries as privileges, all of whose labels are bound. -/
def resolve (table : NamespaceTable) (entries : List Entry) : Except Rejection (List Privilege) :=
  match unknownLabel? table (entries.flatMap (·.names)) with
  | some r => .error r
  | none => .ok (entries.map (·.privilege))

/-- The outcome after all events. -/
def conclude (source : String) (wellFormed : Bool) (p : Progress) : Step Catalog := do
  unless wellFormed do reject .malformed
  let table ← (p.table.addDefaults wellKnown).logged.mapError fun fault =>
    .rejected (.conflict fault)
  let privileges ← Logged.ofExcept ((resolve table p.entries.reverse).mapError .rejected)
  Logged.note (.documentRead privileges.length table.bindings.length source)
  return ⟨privileges, table.freeze⟩

/-- Reads what a document tells. -/
def ofDocument (source : String) (document : Xml.Document) : Step Catalog := do
  let p ← follow source {} document.events
  conclude source document.wellFormed p

/-- Reads a document as it is given. -/
def ofContent (source : String) (content : Xml.Content) : Step Catalog :=
  if content.isEmpty then reject .empty else ofDocument source content.document

end Reading

end PrivilegeCatalog
