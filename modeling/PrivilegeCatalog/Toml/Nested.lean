import PrivilegeCatalog.Toml.Section

/-!
# Nested values of a settings file

Lists between brackets, which may be spread over lines, and sections between braces, which may
not.
-/

namespace PrivilegeCatalog.Toml

/-- An answer, or the fault that there is none. -/
def orMalformed {α : Type} : Option α → Except Fault α
  | some a => .ok a
  | none => .error .malformed

/-- A path of keys and the sign of equality, with the blanks around them. -/
def assignment? (cs : List Char) : Option (Path × List Char) := do
  let (path, rest) ← path? cs
  let rest ← after? '=' rest
  some (path, skipBlanks rest)

/-- The keys before the last of a path, and the last. -/
def splitLast? : Path → Option (Path × String)
  | [] => none
  | [key] => some ([], key)
  | key :: path => (splitLast? path).map fun (parents, last) => (key :: parents, last)

mutual

/-- A value of any kind. -/
def valueFrom : (fuel : Nat) → List Char → Except Fault Found
  | 0, _ => .error .malformed
  | fuel + 1, '[' :: rest => do
    match ← orMalformed (skipLines? false rest) with
    | ']' :: more => return (.list [], more)
    | more => itemsFrom fuel [] more
  | fuel + 1, '\x7b' :: rest =>
    match skipBlanks rest with
    | '\x7d' :: more => .ok (.record [], more)
    | more => entriesFrom fuel [] [] more
  | _ + 1, cs => scalar cs

/-- The items of a list up to its end; `items` are the earlier ones. A comma may stand before the
end. -/
def itemsFrom : (fuel : Nat) → (items : List Value) → List Char → Except Fault Found
  | 0, _, _ => .error .malformed
  | fuel + 1, items, cs => do
    let (v, rest) ← valueFrom fuel cs
    let items := items ++ [v]
    match ← orMalformed (skipLines? false rest) with
    | ']' :: more => return (.list items, more)
    | ',' :: more =>
      match ← orMalformed (skipLines? false more) with
      | ']' :: more => return (.list items, more)
      | more => itemsFrom fuel items more
    | _ => throw .malformed

/-- The entries of a section between braces up to its end; `entries` are the earlier ones, and to
those under `closed` nothing can be added. No comma stands before the end. -/
def entriesFrom : (fuel : Nat) → (entries : Section) → (closed : List Path) → List Char →
    Except Fault Found
  | 0, _, _, _ => .error .malformed
  | fuel + 1, entries, closed, cs => do
    let (path, rest) ← orMalformed (assignment? cs)
    let (v, rest) ← valueFrom fuel rest
    let (parents, key) ← orMalformed (splitLast? path)
    if isUnder closed path then throw .malformed
    let entries ← orMalformed (Section.atPath? false (Section.add? key v) parents entries)
    match skipBlanks rest with
    | '\x7d' :: more => return (.record entries, more)
    | ',' :: more =>
      let closed := if isClosed v then path :: closed else closed
      entriesFrom fuel entries closed (skipBlanks more)
    | _ => throw .malformed

end

/-- A value and the characters after it. -/
def value (cs : List Char) : Except Fault Found := valueFrom (2 * cs.length + 1) cs

end PrivilegeCatalog.Toml
