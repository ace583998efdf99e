import PrivilegeCatalog.Xml.Character

/-!
# References

What stands between an ampersand and a semicolon: the code point of a character, or the name of an
entity. Five entities are known in every document.
-/

namespace PrivilegeCatalog.Xml

/-- The value of a digit in any base up to sixteen. -/
def digitValue (c : Char) : Nat :=
  if c.isDigit then c.toNat - 0x30
  else if 'a' ≤ c && c ≤ 'f' then c.toNat - 0x61 + 10
  else if 'A' ≤ c && c ≤ 'F' then c.toNat - 0x41 + 10
  else 16

/-- A number in digits of a base. -/
def number? (base : Nat) (digits : List Char) : Option Nat :=
  if !digits.isEmpty && digits.all fun c => digitValue c < base then
    some (digits.foldl (fun n c => n * base + digitValue c) 0)
  else none

/-- The character of a code point, if a document may hold it. -/
def xmlChar? (n : Nat) : Option Char :=
  if n < 0xD800 ∨ (0xE000 ≤ n ∧ n < 0x110000) then
    let c := Char.ofNat n
    if isXmlChar c then some c else none
  else none

/-- A reference. -/
inductive Reference
  | character (c : Char)
  | entity (name : String)
  deriving DecidableEq, Repr

/-- The reference that is written with the given text. -/
def Reference.ofText (body : List Char) : Option Reference :=
  match body with
  | '#' :: 'x' :: digits => (number? 16 digits).bind xmlChar? |>.map .character
  | '#' :: digits => (number? 10 digits).bind xmlChar? |>.map .character
  | _ => if isWord body then some (.entity (String.ofList body)) else none

/-- The entities of every document. -/
def predefinedEntities : List (String × Char) :=
  [("amp", '&'), ("lt", '<'), ("gt", '>'), ("apos", '\''), ("quot", '"')]

end PrivilegeCatalog.Xml
