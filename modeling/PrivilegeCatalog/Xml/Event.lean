import PrivilegeCatalog.Xml.Character

/-!
# Events of a document

What a document tells about its elements, in the order of the document: the namespaces that an
element declares come before its start, and its end comes after those of all elements inside it.
Text, comments, processing instructions and character data tell nothing.
-/

namespace PrivilegeCatalog.Xml

/-- A start tag. `text` is the name of the element without its label, or with it when the label
stands for no namespace; the attributes are those without a label. -/
structure Tag where
  uri : String
  text : String
  line : Nat
  attributes : List (String × String)
  deriving DecidableEq, Repr

/-- A step through a document. A default namespace is declared under the empty label. -/
inductive Event
  | declares (label uri : String)
  | starts (tag : Tag)
  | ends
  deriving DecidableEq, Repr

namespace Tag

/-- The value of an attribute without a label. -/
def attribute? (tag : Tag) (name : String) : Option String := tag.attributes.lookup name

/-- The name of an element in its namespace: what follows the first closing brace when the URI and
the name are written together. -/
def writtenName (tag : Tag) : String :=
  if tag.uri = "" then tag.text
  else
    match (tag.uri ++ "\x7d" ++ tag.text).toList.dropWhile (· != '\x7d') with
    | _ :: rest => String.ofList rest
    | [] => tag.text

/-- The local name of an element, or the text that should be one and is not. -/
def localName (tag : Tag) : Except String String :=
  if isPlainName tag.writtenName.toList then .ok tag.writtenName else .error tag.writtenName

end Tag

end PrivilegeCatalog.Xml
