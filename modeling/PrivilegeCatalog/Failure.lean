import PrivilegeCatalog.Location

/-!
# Failures

What a caller is told when the library refuses something: the kind of failure, its message, and
the place in a document that it is about.
-/

namespace PrivilegeCatalog

/-- The kinds of failure that a caller can tell apart. -/
inductive Failure.Kind
  | general
  | unsupportedFormat
  | parse
  | validation
  | namespaceMisuse
  | namespaceConflict
  | namespaceUnknown
  | configuration
  deriving DecidableEq, Repr

/-- A refusal, as it is reported. -/
structure Failure where
  kind : Failure.Kind
  message : String
  location : Option Location := none
  deriving DecidableEq, Repr

namespace Failure

/-- The message, after the place that it is about. -/
def text (f : Failure) : String :=
  match f.location with
  | some place => place.text ++ ": " ++ f.message
  | none => f.message

/-- A document could not be read as a list of privileges. -/
def parse (message source : String) (line column : Option Int := none) : Failure :=
  ⟨.parse, message, some ⟨source, line, column⟩⟩

/-- A document is well formed and breaks a rule about its content. -/
def validation (message source : String) (line : Option Int := none) : Failure :=
  ⟨.validation, message, some ⟨source, line, none⟩⟩

end Failure

end PrivilegeCatalog
