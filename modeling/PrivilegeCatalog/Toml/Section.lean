import PrivilegeCatalog.Toml.Scalar

/-!
# Sections

A section holds values under keys, and a path of keys leads to the section at its end, through
sections inside sections. In a settings file a section that lies on a path need not stand there
already, and a path that meets a list of sections goes on in the last of them.
-/

namespace PrivilegeCatalog.Toml

/-- Values under keys, in the order in which the keys were first used. -/
abbrev Section := List (String × Value)

namespace Section

/-- The section with another value under a key: at its place, or at the end if the key is new. -/
def put (key : String) (v : Value) : Section → Section
  | [] => [(key, v)]
  | (k, w) :: rest => if k == key then (k, v) :: rest else (k, w) :: put key v rest

/-- The section with a value under a key that is free. -/
def add? (key : String) (v : Value) (s : Section) : Option Section :=
  if (Value.entry? key s).isSome then none else some (s ++ [(key, v)])

/-- The section with one more section at the end of the list under a key. -/
def append? (key : String) (s : Section) : Option Section :=
  match Value.entry? key s with
  | none => some (s ++ [(key, .list [.record []])])
  | some (.list items) => some (s.put key (.list (items ++ [.record []])))
  | some _ => none

/-- Changes the section at the end of a path. A path leads through a list, into its last section,
only where lists of sections are written. -/
def atPath? (throughLists : Bool) (change : Section → Option Section) :
    Path → Section → Option Section
  | [], s => change s
  | key :: path, s =>
    match Value.entry? key s with
    | none => (atPath? throughLists change path []).map fun inner => s.put key (.record inner)
    | some (.record inner) =>
      (atPath? throughLists change path inner).map fun inner => s.put key (.record inner)
    | some (.list items) =>
      match throughLists, items.getLast? with
      | true, some (.record inner) =>
        (atPath? throughLists change path inner).map fun inner =>
          s.put key (.list (items.dropLast ++ [.record inner]))
      | _, _ => none
    | some _ => none

end Section

/-- Whether a value may not be added to once it has been written. -/
def isClosed : Value → Bool
  | .list _ | .record _ => true
  | _ => false

/-- Whether a path is one of those given or leads on from one of them. -/
def isUnder (closed : List Path) (path : Path) : Bool := closed.any (·.isPrefixOf path)

end PrivilegeCatalog.Toml
