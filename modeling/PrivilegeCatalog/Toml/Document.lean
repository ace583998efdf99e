import PrivilegeCatalog.Toml.Nested

/-!
# Settings files

A TOML file is a sequence of lines: values under keys, and headings that open a section or the
next section of a list, to which the values after them belong. No section is opened twice, and
nothing is added to a value once it is written. `Toml.read` gives the entries of a whole file.
-/

namespace PrivilegeCatalog.Toml

/-- What is known of a file after some of its lines. A section at a path in `opened` cannot be
opened again, those in `awaiting` join them at the next heading, and nothing is added under a path
in `closed`. -/
structure Draft where
  entries : Section := []
  heading : Path := []
  closed : List Path := []
  opened : List Path := []
  awaiting : List Path := []

namespace Draft

/-- The draft at a heading: sections that came about through dotted keys can no longer be
opened. -/
def settle (d : Draft) : Draft := { d with opened := d.awaiting ++ d.opened, awaiting := [] }

/-- Opens a section, which is not to be open yet. -/
def openSection? (d : Draft) (path : Path) : Option Draft := do
  if d.opened.contains path || isUnder d.closed path then none
  let entries ← Section.atPath? true some path d.entries
  some { d with entries, heading := path, opened := path :: d.opened }

/-- Opens the next section of a list. What the earlier ones held does not bind it. -/
def openItem? (d : Draft) (path : Path) : Option Draft := do
  if isUnder d.closed path then none
  let beyond := fun other : Path => !path.isPrefixOf other
  let (parents, key) ← splitLast? path
  let entries ← Section.atPath? true (Section.append? key) parents d.entries
  some { d with
    entries
    heading := path
    closed := d.closed.filter beyond
    opened := path :: d.opened.filter beyond }

/-- The paths of the sections that a dotted key passes through under a heading. -/
def passed (heading : Path) : Path → List Path
  | [] | [_] => []
  | key :: path => (heading ++ [key]) :: passed (heading ++ [key]) path

/-- Puts a value under a path that starts at the heading. -/
def assign? (d : Draft) (path : Path) (v : Value) : Option Draft := do
  let sections := passed d.heading path
  if sections.any d.opened.contains then none
  let (parents, key) ← splitLast? path
  if isUnder d.closed (d.heading ++ parents) then none
  let entries ← Section.atPath? true (Section.add? key v) (d.heading ++ parents) d.entries
  some { d with
    entries
    closed := if isClosed v then (d.heading ++ path) :: d.closed else d.closed
    awaiting := sections ++ d.awaiting }

end Draft

/-- A heading whose opening brackets have been read, up to its closing brackets. -/
def headingPath? (closing : List Char) (cs : List Char) : Option (Path × List Char) := do
  let (path, rest) ← path? (skipBlanks cs)
  if closing.isPrefixOf rest then some (path, rest.drop closing.length) else none

/-- A heading or a value under a key, at the start of a line. -/
def statement (d : Draft) : List Char → Except Fault (Draft × List Char)
  | '[' :: '[' :: rest => orMalformed do
    let (path, rest) ← headingPath? [']', ']'] rest
    let d ← d.settle.openItem? path
    some (d, rest)
  | '[' :: rest => orMalformed do
    let (path, rest) ← headingPath? [']'] rest
    let d ← d.settle.openSection? path
    some (d, rest)
  | cs => do
    let (path, rest) ← orMalformed (assignment? cs)
    let (v, rest) ← value rest
    let d ← orMalformed (d.assign? path v)
    return (d, rest)

/-- The characters after the end of a line, before which only a comment may stand. -/
def endOfLine? (cs : List Char) : Option (List Char) := do
  let rest ← match skipBlanks cs with
    | '#' :: rest => comment? rest
    | rest => some rest
  match rest with
  | [] => some []
  | '\n' :: rest => some rest
  | _ => none

/-- One line: it is empty, or holds a heading or a value under a key. -/
def line (d : Draft) (cs : List Char) : Except Fault (Draft × List Char) := do
  match endOfLine? cs with
  | some rest => return (d, rest)
  | none =>
    let (d, rest) ← statement d (skipBlanks cs)
    let rest ← orMalformed (endOfLine? rest)
    return (d, rest)

/-- Lines to the end of the file. -/
def lines : (fuel : Nat) → Draft → List Char → Except Fault Draft
  | _, d, [] => .ok d
  | 0, _, _ => .error .malformed
  | fuel + 1, d, cs => do
    let (d, rest) ← line d cs
    lines fuel d rest

/-- Line ends of one character. -/
def plainEnds : List Char → List Char
  | '\r' :: '\n' :: rest => '\n' :: plainEnds rest
  | c :: rest => c :: plainEnds rest
  | [] => []

/-- The entries of a file. -/
def read (cs : List Char) : Except Fault Section :=
  let cs := plainEnds cs
  (lines (cs.length + 1) {} cs).map (·.entries)

end PrivilegeCatalog.Toml
