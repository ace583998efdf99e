import PrivilegeCatalog.Reading
import PrivilegeCatalog.Settings
import PrivilegeCatalog.Writing

/-!
# Formatting a document

A document that has been read is written again in canonical form. It declares the namespaces that
it had, but for well-known ones that no name uses, and those that are settled for all documents.
-/

namespace PrivilegeCatalog

/-- Why a document cannot be formatted. -/
inductive FormatFault
  | conflict (fault : TableFault)
  | unwritable (fault : WriteFault)
  deriving DecidableEq, Repr

namespace Formatting

/-- Whether the label of some privilege is used. -/
def isUsed (privileges : List Privilege) (label : String) : Bool :=
  privileges.any fun p => p.labels.contains label

/-- Whether a binding is the well-known one of its label. -/
def isWellKnown (binding : String × String) : Bool :=
  Dictionary.find? wellKnown binding.1 == some binding.2

/-- The bindings of a document without the well-known ones that it does not use. -/
def kept (catalog : Catalog) : List (String × String) :=
  catalog.namespaces.bindings.filter fun binding =>
    !isWellKnown binding || isUsed catalog.privileges binding.1

/-- The namespaces of a document and further ones, which must agree with them. -/
def namespaces (catalog : Catalog) (extra : Dictionary) : Logged TableFault NamespaceTable := do
  let own ← NamespaceTable.ofBindings (kept catalog)
  let all ← (own.bindAll extra).logged
  return all.freeze

/-- The namespaces and the privileges of a document in canonical form, as the given function
writes them. -/
def formatWith {α : Type} (settings : Settings) (catalog : Catalog)
    (write : Layout → List Privilege → Dictionary → Logged WriteFault α) :
    Logged FormatFault α := do
  let table ← (namespaces catalog settings.namespaces).mapError .conflict
  (write settings.layout catalog.privileges table.bindings).mapError .unwritable

/-- A document in canonical form, as bytes. -/
def format (settings : Settings) (catalog : Catalog) : Logged FormatFault Bytes :=
  formatWith settings catalog Writing.write

/-- A document in canonical form, as text. -/
def formatText (settings : Settings) (catalog : Catalog) : Logged FormatFault String :=
  formatWith settings catalog Writing.writeText

end Formatting

end PrivilegeCatalog
