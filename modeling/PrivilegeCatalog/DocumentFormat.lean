import PrivilegeCatalog.Failure
import PrivilegeCatalog.Text.Blank
import PrivilegeCatalog.Text.LowerCase
import PrivilegeCatalog.Text.Quoted

/-!
# Document formats

A document format is chosen by a media type. The choice looks at the type alone, whatever its
case, and not at the parameters after a semicolon.
-/

namespace PrivilegeCatalog

/-- The forms in which a list of privileges is written. -/
inductive DocumentFormat
  | xml
  deriving DecidableEq, Repr

namespace DocumentFormat

/-- The word for a format. -/
def name : DocumentFormat → String
  | xml => "xml"

/-- The media type that is meant when none is given. -/
def defaultIdentifier : String := "text/xml"

/-- The media types and the formats that they stand for. -/
def registered : List (String × DocumentFormat) :=
  [("application/xml", .xml), ("text/xml", .xml)]

/-- The media types in alphabetical order. -/
def identifiers : List String := registered.map (·.1)

/-- The type that an identifier names, without parameters, outer blanks and capitals. -/
def mediaType (identifier : String) : String :=
  let media := identifier.toList.takeWhile (· != ';')
  Text.lower (String.ofList (Text.trimBy Text.isBlank media))

/-- An identifier stands for no format. -/
structure Unsupported where
  identifier : String
  deriving DecidableEq, Repr

def Unsupported.message (u : Unsupported) : String :=
  "Unsupported format: " ++ Text.quoted u.identifier

def Unsupported.failure (u : Unsupported) : Failure := ⟨.unsupportedFormat, u.message, none⟩

/-- The format of an identifier. -/
def resolve (identifier : String) : Except Unsupported DocumentFormat :=
  match registered.lookup (mediaType identifier) with
  | some format => .ok format
  | none => .error ⟨identifier⟩

end DocumentFormat

end PrivilegeCatalog
