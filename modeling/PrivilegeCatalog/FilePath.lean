import PrivilegeCatalog.Text.Pieces

/-!
# Paths of files

A path is a sequence of names, from the top of all files or from the folder in which one works.
Empty names and single dots say nothing and are left out; double dots are kept, since only the
files can tell where they lead.
-/

namespace PrivilegeCatalog

/-- A path. `top` is what stands before the first name of a path that starts at the top of all
files; a path without it starts at the working folder. -/
structure FilePath where
  top : Option String := none
  names : List String
  deriving DecidableEq, Repr

namespace FilePath

/-- The name of the folder above. -/
def above : String := ".."

/-- The texts between the slashes of a path. -/
def steps (text : String) : List String :=
  (Text.piecesBy (· == '/') text.toList).map String.ofList

/-- Whether a step leads nowhere. -/
def isIdle (step : String) : Bool := step == "" || step == "."

/-- What a path from the top of all files starts with: a slash, or exactly two. -/
def topOf : List Char → Option String
  | '/' :: '/' :: '/' :: _ => some "/"
  | '/' :: '/' :: _ => some "//"
  | '/' :: _ => some "/"
  | _ => none

/-- The path that a text stands for. -/
def ofText (text : String) : FilePath :=
  ⟨topOf text.toList, (steps text).filter fun step => !isIdle step⟩

/-- A path as it is shown; the working folder itself is a dot. -/
def text (p : FilePath) : String :=
  match p.top with
  | some top => top ++ "/".intercalate p.names
  | none => if p.names.isEmpty then "." else "/".intercalate p.names

/-- The last name of a path. -/
def name? (p : FilePath) : Option String := p.names.getLast?

/-- The path of something in a folder. -/
def child (p : FilePath) (name : String) : FilePath := { p with names := p.names ++ [name] }

/-- The path itself, and what is left of it when names are taken off its end one after another. -/
def chain (p : FilePath) : List FilePath :=
  (List.range (p.names.length + 1)).map fun n =>
    { p with names := p.names.take (p.names.length - n) }

end FilePath

end PrivilegeCatalog
