import PrivilegeCatalog.Reader
import PrivilegeCatalog.Writing

/-!
# Round trips

A document is read and written again in canonical form. Doing so a second time, with what the
first writing gave, shows whether anything was lost and whether the form is stable.
-/

namespace PrivilegeCatalog

/-- Why a document makes no round trip. -/
inductive RoundTripFault
  | unreadable (source : String) (fault : ReadFault)
  | unwritable (fault : WriteFault)
  deriving DecidableEq, Repr

namespace RoundTrip

/-- Two rounds of reading and writing. -/
structure Rounds where
  before : Catalog
  first : Bytes
  after : Catalog
  second : Bytes

/-- Reads a document of the given name. -/
def read (source : String) (content : Xml.Content) : Logged RoundTripFault Catalog :=
  (Reading.ofContent source content).mapError (.unreadable source)

/-- Writes what a document holds. -/
def write (layout : Layout) (catalog : Catalog) : Logged RoundTripFault Bytes :=
  (Writing.write layout catalog.privileges catalog.namespaces.bindings).mapError .unwritable

/-- The name of the document that the first writing gives. -/
def secondSource : String := "again"

/-- Reads and writes a document twice. -/
def twice (source : String) (layout : Layout) (content : Xml.Content) :
    Logged RoundTripFault Rounds := do
  let before ← read source content
  let first ← write layout before
  let after ← read secondSource (.bytes first)
  let second ← write layout after
  return ⟨before, first, after, second⟩

/-- The second writing gives the same bytes. -/
def Rounds.isStable (r : Rounds) : Bool := r.first == r.second

/-- The second reading gives the same privileges. -/
def Rounds.keepsPrivileges (r : Rounds) : Bool := r.before.privileges == r.after.privileges

/-- The second reading gives the same bindings. -/
def Rounds.keepsNamespaces (r : Rounds) : Bool :=
  Dictionary.same r.before.namespaces.bindings r.after.namespaces.bindings

end RoundTrip

end PrivilegeCatalog
