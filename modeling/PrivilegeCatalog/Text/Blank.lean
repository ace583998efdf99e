/-!
# Blank characters

The characters that count as white space in a name or at the ends of an attribute value, and the
two ways to cut them off. `isBlank` is the Unicode set together with the four information
separators; `isXmlBlank` is the set of four that XML itself knows.
-/

namespace PrivilegeCatalog.Text

/-- White space of every script: the ASCII controls that move the carriage, the four information
separators, the next-line control, and every space or line separator. -/
def isBlank (c : Char) : Bool :=
  let n := c.toNat
  (9 ≤ n && n ≤ 13) || (0x1C ≤ n && n ≤ 0x20) || n == 0x85 || n == 0xA0 || n == 0x1680
    || (0x2000 ≤ n && n ≤ 0x200A) || n == 0x2028 || n == 0x2029 || n == 0x202F || n == 0x205F
    || n == 0x3000

/-- The white space of XML markup: space, tab, carriage return and line feed. -/
def isXmlBlank (c : Char) : Bool :=
  c == ' ' || c == '\t' || c == '\r' || c == '\n'

/-- Drops the characters with the property from both ends. -/
def trimBy (p : Char → Bool) (cs : List Char) : List Char :=
  ((cs.dropWhile p).reverse.dropWhile p).reverse

/-- The text without the blanks at its two ends. -/
def trim (s : String) : String :=
  String.ofList (trimBy isBlank s.toList)

end PrivilegeCatalog.Text
