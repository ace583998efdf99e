/-!
# Places in a document

A place is the name of a document, with a line and a column where they are known.
-/

namespace PrivilegeCatalog

/-- A place in a document. Lines and columns count from 1. -/
structure Location where
  source : String
  line : Option Int := none
  column : Option Int := none
  deriving DecidableEq, Repr

/-- The parts that are known, between colons. A column without a line is not shown. -/
def Location.text (place : Location) : String :=
  match place.line, place.column with
  | none, _ => place.source
  | some line, none => place.source ++ ":" ++ toString line
  | some line, some column => place.source ++ ":" ++ toString line ++ ":" ++ toString column

end PrivilegeCatalog
