import PrivilegeCatalog.Dictionary
import PrivilegeCatalog.Failure
import PrivilegeCatalog.Notice
import PrivilegeCatalog.QualifiedName

/-!
# Namespace tables

A namespace table ties labels to URIs, each label to one URI and each URI to one label, and is
kept in the order in which the pairs were bound. It is looked up in both directions. A frozen
table takes no further binding.

An operation is a function on tables that answers with an `Effect`: the table that it leaves,
whether or not it failed, its remarks, and its answer.
-/

namespace PrivilegeCatalog

open Text (quoted)

/-- The label that XML binds by itself. -/
def xmlLabel : String := "xml"

/-- The namespace that XML binds by itself. -/
def xmlUri : String := "http://www.w3.org/XML/1998/namespace"

/-- The bindings that are known before any document is read. -/
def wellKnown : List (String × String) :=
  [("", ""),
    ("jcr", "http://www.jcp.org/jcr/1.0"),
    ("nt", "http://www.jcp.org/jcr/nt/1.0"),
    ("mix", "http://www.jcp.org/jcr/mix/1.0"),
    ("sv", "http://www.jcp.org/jcr/sv/1.0"),
    (xmlLabel, xmlUri),
    ("rep", "internal")]

/-- Why an operation on a table is refused. -/
inductive TableFault
  | frozen (label : String)
  | conflict (label uri : String) (existing : String × String)
  | unknownLabel (label : String)
  | unknownUri (uri : String)
  deriving DecidableEq, Repr

namespace TableFault

/-- A binding in a message. -/
def bindingText (binding : String × String) : String :=
  quoted binding.1 ++ " -> " ++ quoted binding.2

/-- The wording of a fault. -/
def message : TableFault → String
  | frozen label => "Namespace table is frozen; cannot bind " ++ quoted label
  | conflict label uri existing =>
    "Cannot bind prefix " ++ quoted label ++ " to " ++ quoted uri
      ++ ": conflicts with existing binding " ++ bindingText existing
  | unknownLabel label => "Unknown namespace prefix: " ++ quoted label
  | unknownUri uri => "Unknown namespace URI: " ++ quoted uri

/-- The fault as it is reported. -/
def failure (fault : TableFault) : Failure :=
  let kind := match fault with
    | frozen _ => .namespaceMisuse
    | conflict .. => .namespaceConflict
    | unknownLabel _ | unknownUri _ => .namespaceUnknown
  ⟨kind, fault.message, none⟩

end TableFault

/-- Labels and URIs tied to one another. -/
structure NamespaceTable where
  uris : Dictionary := []
  labels : Dictionary := []
  frozen : Bool := false
  deriving DecidableEq, Repr

namespace NamespaceTable

/-- What an operation leaves behind and answers. -/
structure Effect (α : Type) where
  table : NamespaceTable
  notices : List Notice
  answer : Except TableFault α

/-- The same effect with its answer seen in another way. -/
def Effect.map {α β : Type} (f : α → β) (e : Effect α) : Effect β :=
  ⟨e.table, e.notices, e.answer.map f⟩

/-- The effect as a piece of work that hands on the table. -/
def Effect.logged {α : Type} (e : Effect α) : Logged TableFault NamespaceTable :=
  ⟨e.notices, e.answer.map fun _ => e.table⟩

/-- The table without bindings. -/
def empty : NamespaceTable := {}

/-- The bindings in the order in which they were made. -/
def bindings (t : NamespaceTable) : List (String × String) := t.uris

/-- The URI of a label. -/
def uriOf? (t : NamespaceTable) (label : String) : Option String := t.uris.find? label

/-- The label of a URI. -/
def labelOf? (t : NamespaceTable) (uri : String) : Option String := t.labels.find? uri

/-- Whether a label is bound. -/
def hasLabel (t : NamespaceTable) (label : String) : Bool := t.uris.has label

/-- Whether a URI is bound. -/
def hasUri (t : NamespaceTable) (uri : String) : Bool := t.labels.has uri

/-- The binding, if there is one, that ties the label or the URI in another way. -/
def conflictWith? (t : NamespaceTable) (label uri : String) : Option (String × String) :=
  match t.uriOf? label with
  | some other => if other ≠ uri then some (label, other) else conflictOfUri
  | none => conflictOfUri
where
  conflictOfUri : Option (String × String) :=
    match t.labelOf? uri with
    | some other => if other ≠ label then some (other, uri) else none
    | none => none

/-- Ties a label to a URI. A pair that is bound already changes nothing. -/
def bind (t : NamespaceTable) (label uri : String) : Effect Unit :=
  if t.frozen then ⟨t, [], .error (.frozen label)⟩
  else
    match t.conflictWith? label uri with
    | some existing => ⟨t, [], .error (.conflict label uri existing)⟩
    | none =>
      if t.hasLabel label then ⟨t, [], .ok ()⟩
      else
        ⟨{ t with uris := t.uris.put label uri, labels := t.labels.put uri label },
          [.bound label uri], .ok ()⟩

/-- Binds pairs one after another, up to the first that is refused. -/
def bindAll (t : NamespaceTable) : List (String × String) → Effect Unit
  | [] => ⟨t, [], .ok ()⟩
  | (label, uri) :: rest =>
    let first := t.bind label uri
    match first.answer with
    | .error fault => ⟨first.table, first.notices, .error fault⟩
    | .ok () =>
      let others := first.table.bindAll rest
      ⟨others.table, first.notices ++ others.notices, others.answer⟩

/-- Binds each default whose label and URI are both still free, and passes over the others. -/
def addDefaults (t : NamespaceTable) : List (String × String) → Effect Unit
  | [] => ⟨t, [], .ok ()⟩
  | (label, uri) :: rest =>
    if t.hasLabel label || t.hasUri uri then
      let others := t.addDefaults rest
      ⟨others.table, .defaultTaken label uri :: others.notices, others.answer⟩
    else
      let first := t.bind label uri
      match first.answer with
      | .error fault => ⟨first.table, first.notices, .error fault⟩
      | .ok () =>
        let others := first.table.addDefaults rest
        ⟨others.table, first.notices ++ others.notices, others.answer⟩

/-- The table that takes no further binding. -/
def freeze (t : NamespaceTable) : NamespaceTable := { t with frozen := true }

/-- The URI of a label, which has to be bound. -/
def resolveLabel (t : NamespaceTable) (label : String) : Except TableFault String :=
  match t.uriOf? label with
  | some uri => .ok uri
  | none => .error (.unknownLabel label)

/-- The label of a URI, which has to be bound. -/
def resolveUri (t : NamespaceTable) (uri : String) : Except TableFault String :=
  match t.labelOf? uri with
  | some label => .ok label
  | none => .error (.unknownUri uri)

/-- The table of some bindings, made one after another. -/
def ofBindings (pairs : Dictionary) : Logged TableFault NamespaceTable :=
  (empty.bindAll pairs).logged

/-- The frozen table of some bindings. -/
def frozenOfBindings (pairs : Dictionary) : Logged TableFault NamespaceTable := do
  return (← ofBindings pairs).freeze

/-- The table of the well-known bindings. -/
def withDefaults : Logged TableFault NamespaceTable := ofBindings wellKnown

/-- Pairs between braces, as they are shown. -/
def dictionaryText (pairs : Dictionary) : String :=
  "\x7b" ++ ", ".intercalate (pairs.map fun (key, value) => quoted key ++ ": " ++ quoted value)
    ++ "\x7d"

/-- A table as it is shown. -/
def display (t : NamespaceTable) : String :=
  "NamespaceTable(" ++ dictionaryText t.uris ++ (if t.frozen then ", frozen" else "") ++ ")"

end NamespaceTable

/-- Why a name cannot be expanded. -/
inductive ExpansionFault
  | name (fault : NameFault)
  | table (fault : TableFault)
  deriving DecidableEq, Repr

/-- A name with its label replaced by the URI, in braces. -/
def NamespaceTable.expand (t : NamespaceTable) (name : String) : Except ExpansionFault String :=
  match QualifiedName.ofText name with
  | .error fault => .error (.name fault)
  | .ok parts =>
    match t.resolveLabel parts.label with
    | .error fault => .error (.table fault)
    | .ok uri => .ok ("\x7b" ++ uri ++ "\x7d" ++ parts.stem)

end PrivilegeCatalog
