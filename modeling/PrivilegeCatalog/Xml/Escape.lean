/-!
# Escapes

Characters that would end an attribute value or be taken for markup are written as references.
-/

namespace PrivilegeCatalog.Xml

/-- A reference to a character by its code point. -/
def numericReference (c : Char) : List Char :=
  '&' :: '#' :: ((toString c.toNat).toList ++ [';'])

/-- A character of an attribute value between double quotes. -/
def escapeValueChar (c : Char) : List Char :=
  if c = '&' then "&amp;".toList
  else if c = '<' then "&lt;".toList
  else if c = '>' then "&gt;".toList
  else if c = '"' then "&quot;".toList
  else if c = '\t' ∨ c = '\n' ∨ c = '\r' then numericReference c
  else [c]

/-- A character of text between elements. -/
def escapeTextChar (c : Char) : List Char :=
  if c = '&' then "&amp;".toList
  else if c = '<' then "&lt;".toList
  else if c = '>' then "&gt;".toList
  else if c = '\r' then numericReference c
  else [c]

/-- An attribute value between double quotes. -/
def escapeValue (cs : List Char) : List Char := cs.flatMap escapeValueChar

/-- Text between elements. -/
def escapeText (cs : List Char) : List Char := cs.flatMap escapeTextChar

end PrivilegeCatalog.Xml
