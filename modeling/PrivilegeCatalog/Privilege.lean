import PrivilegeCatalog.QualifiedName
import PrivilegeCatalog.Validation

/-!
# Privileges

A privilege has a name, may be abstract, and may be made up of other privileges, which it lists by
name. Its names are qualified names by construction: `Privilege.ofFields` checks the values that a
caller gives and tells all that is wrong with them.
-/

namespace PrivilegeCatalog

/-- A privilege. Two are equal when all three parts are, the order of the members included. -/
structure Privilege where
  name : Name
  isAbstract : Bool := false
  members : List Name := []
  deriving DecidableEq

namespace Privilege

/-- A privilege with members is an aggregate. -/
def isAggregate (p : Privilege) : Bool := !p.members.isEmpty

/-- All names in a privilege, its own first. -/
def names (p : Privilege) : List Name := p.name :: p.members

/-- The labels that a privilege uses, in ascending order, each once. -/
def labels (p : Privilege) : List String :=
  (p.names.map (·.label)).foldl insertOnce []
where
  /-- Puts a text at its place in an ascending list, unless it is there. -/
  insertOnce : List String → String → List String
    | [], s => [s]
    | t :: rest, s =>
      if s = t then t :: rest else if s < t then s :: t :: rest else t :: insertOnce rest s

/-- A text as a qualified name. -/
def checkName (text : String) : Checked Name :=
  match Name.ofText text with
  | .ok name => .ok name
  | .error fault => Checked.complain (.refused fault.message)

/-- Texts as qualified names, with a complaint about the first that is none. -/
def checkNames : List String → Checked (List Name)
  | [] => .ok []
  | text :: rest => do
    let name ← checkName text
    let names ← checkNames rest
    return name :: names

/-- A value as the members of a privilege; a null means that there are none. -/
def checkMembers : Value → Checked (List Name)
  | .null => .ok []
  | v => v.asTexts >>= checkNames

/-- A privilege from the fields that a caller gives. Fields of other names are passed over. -/
def ofFields (entries : List (String × Value)) : Checked Privilege :=
  let name := Value.field entries "name" (fun v => v.asText >>= checkName)
    (Checked.complain .missing)
  let isAbstract := Value.field entries "is_abstract" Value.asBoolean (.ok false)
  let members := Value.field entries "aggregates" checkMembers (.ok [])
  (Checked.both name (Checked.both isAbstract members)).map fun (name, isAbstract, members) =>
    ⟨name, isAbstract, members⟩

end Privilege

end PrivilegeCatalog
