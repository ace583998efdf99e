/-!
# Document types

What a document type declaration tells about the document: the entities that may be referred to
and the attributes that have a default or are tokens. Of two declarations for one thing the first
counts.
-/

namespace PrivilegeCatalog.Xml

/-- An entity: a text in the declaration itself, a text elsewhere, which is never fetched, or
data. -/
inductive Entity
  | within (text : List Char)
  | elsewhere
  | data
  deriving DecidableEq, Repr

/-- A rule for an attribute of an element, both by their names as written. -/
structure AttributeRule where
  element : List Char
  key : List Char
  isTokens : Bool
  fallback : Option (List Char)
  deriving DecidableEq, Repr

/-- What is known of the type of a document. `external` and `parameters` tell that there may be
declarations which are not seen: in a subset elsewhere, or in a parameter entity. -/
structure Doctype where
  entities : List (String × Entity) := []
  parameterEntities : List (String × Entity) := []
  rules : List AttributeRule := []
  external : Bool := false
  parameters : Bool := false
  sound : Bool := true
  deriving DecidableEq, Repr

namespace Doctype

/-- Adds a declaration to a list unless there is one of that name. -/
def addEntity (name : String) (e : Entity) (entities : List (String × Entity)) :
    List (String × Entity) :=
  if entities.any (·.1 == name) then entities else entities ++ [(name, e)]

/-- Adds a rule unless there is one for that attribute of that element. -/
def addRule (d : Doctype) (rule : AttributeRule) : Doctype :=
  if d.rules.any fun r => r.element == rule.element && r.key == rule.key then d
  else { d with rules := d.rules ++ [rule] }

/-- The rules for the attributes of an element. -/
def rulesFor (d : Doctype) (element : List Char) : List AttributeRule :=
  d.rules.filter (·.element == element)

/-- The value of the attribute is a list of tokens. -/
def isTokens (d : Doctype) (element key : List Char) : Bool :=
  (d.rulesFor element).any fun r => r.key == key && r.isTokens

/-- There may be declarations that are not seen, so an unknown entity is no fault. -/
def mayHide (d : Doctype) (standalone : Bool) : Bool :=
  !standalone && (d.external || d.parameters)

end Doctype

end PrivilegeCatalog.Xml
