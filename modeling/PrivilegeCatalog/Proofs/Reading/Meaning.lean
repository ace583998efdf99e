import PrivilegeCatalog.Proofs.NamespaceTable.OneToOne
import PrivilegeCatalog.Proofs.Xml.Tree
import PrivilegeCatalog.Reading

/-!
# What a document means

The meaning of a document as a list of privileges, said on its tree and without regard to the
order in which it is read. `Node.Readable` are the conditions under which a tree is a list of
privileges, `Node.privilegeTexts` the privileges in it, and `Node.bindings` its namespaces.
-/

namespace PrivilegeCatalog.Xml

open Vocabulary

namespace Tag

/-- The name that an element is given: its attribute of that key without outer blanks. -/
def givenName (tag : Tag) : String := Text.trim ((tag.attribute? nameAttribute).getD "")

/-- Whether an element is marked as abstract, if that can be told. -/
def givenAbstract? (tag : Tag) : Option Bool :=
  match tag.attribute? abstractAttribute with
  | none => some false
  | some value => Reading.truth? value

/-- The local name of an element can be asked for: the first closing brace in its full name is the
one that ends the URI. -/
def Legible (tag : Tag) : Prop := '\x7d' ∉ tag.uri.toList

end Tag

namespace Node

/-- The children of the root that stand for privileges. -/
def entries (root : Node) : List Node := root.children.filter (·.tag.text = entryElement)

/-- The children of an entry that stand for members. -/
def members (entry : Node) : List Node := entry.children.filter (·.tag.text = memberElement)

/-- The elements that have to be given a name: each entry, and each member after its entry. -/
def named (root : Node) : List Tag := root.entries.flatMap fun e => e.tag :: e.members.map tag

/-- The elements whose local name is asked for. -/
def inspected (root : Node) : List Tag :=
  root.tag :: root.children.map tag ++ root.entries.flatMap (·.children.map tag)

/-- The namespaces that are declared under a label anywhere in a document. -/
def namespaces (root : Node) : List (String × String) := root.declarations.filter (·.1 ≠ "")

/-- The namespaces of a document: what it declares, each pair once and in the order of the
document, and then the well-known bindings of which it takes neither half. -/
def bindings (root : Node) : List (String × String) :=
  root.namespaces.eraseDups ++ wellKnown.filter (NamespaceTable.isFree root.namespaces)

/-- The privileges of a document: for each entry its name, whether it is abstract, and the names
of its members. -/
def privilegeTexts (root : Node) : List (String × Option Bool × List String) :=
  root.entries.map fun e =>
    (e.tag.givenName, e.tag.givenAbstract?, e.members.map (·.tag.givenName))

/-- Each local name that is asked for can be told. -/
def Legible (root : Node) : Prop := ∀ tag ∈ root.inspected, tag.Legible

/-- A tree is a list of privileges. -/
structure Readable (root : Node) : Prop where
  rootName : root.tag.text = rootElement
  namespaces : OneToOne root.namespaces
  names : ∀ tag ∈ root.named, tag.givenName ≠ ""
    ∧ (QualifiedName.ofText tag.givenName).isOk = true
  abstracts : ∀ e ∈ root.entries, e.tag.givenAbstract?.isSome = true
  distinct : (root.entries.map (·.tag.givenName)).Nodup
  labels : ∀ tag ∈ root.named, ∀ name, QualifiedName.ofText tag.givenName = .ok name →
    ∃ uri, (name.label, uri) ∈ root.bindings

end Node

end PrivilegeCatalog.Xml

namespace PrivilegeCatalog

/-- A privilege by its texts. -/
def Privilege.texts (p : Privilege) : String × Option Bool × List String :=
  (p.name.text, some p.isAbstract, p.members.map (·.text))

/-- A catalog holds just what a document means. -/
structure Catalog.Denotes (catalog : Catalog) (root : Xml.Node) : Prop where
  privileges : catalog.privileges.map Privilege.texts = root.privilegeTexts
  namespaces : catalog.namespaces = (NamespaceTable.ofPairs root.bindings).freeze

end PrivilegeCatalog
