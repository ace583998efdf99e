import PrivilegeCatalog.Encoding
import PrivilegeCatalog.Layout
import PrivilegeCatalog.NamespaceTable
import PrivilegeCatalog.Privilege
import PrivilegeCatalog.Vocabulary
import PrivilegeCatalog.Xml.Character
import PrivilegeCatalog.Xml.Escape
import PrivilegeCatalog.Xml.UriReference

/-!
# Writing a document

The canonical form of a list of privileges: one element for each in the given order, `abstract`
only when it is true and before `name`, one `contains` element for each member, and every declared
namespace on the root element, ordered by label. `Writing.document` is the form as characters;
`Writing.write` checks the parts, makes its remarks, and encodes.
-/

namespace PrivilegeCatalog

/-- Why a document cannot be written. -/
inductive WriteFault
  | notXmlText
  | badLabel (label : String)
  | badUri (uri : String)
  | declarationWithoutEncoding
  | unknownEncoding (name : String)
  deriving DecidableEq, Repr

/-- The wording of a fault. -/
def WriteFault.message : WriteFault → String
  | notXmlText =>
    "All strings must be XML compatible: Unicode or ASCII, no NULL bytes or control characters"
  | badLabel label => "Invalid namespace prefix " ++ Text.quoted label
  | badUri uri => "Invalid namespace URI " ++ Text.quoted uri
  | declarationWithoutEncoding =>
    "Serialisation to unicode must not request an XML declaration"
  | unknownEncoding name => "unknown encoding: " ++ Text.quoted name

namespace Writing

open Vocabulary

/-! ## Namespaces -/

/-- A binding that is declared: its label and its URI are not empty, and XML does not make it. -/
def isDeclared (binding : String × String) : Bool :=
  binding.1 ≠ "" && binding.1 ≠ xmlLabel && binding.2 ≠ ""

/-- The bindings to declare, ordered by label. -/
def declared (namespaces : Dictionary) : List (String × String) :=
  (namespaces.filter isDeclared).mergeSort fun a b => a.1 ≤ b.1

/-! ## The document as characters -/

/-- The characters of a word. -/
def word (s : String) : List Char := s.toList

/-- An attribute with a space before it. -/
def attributeText (name : List Char) (value : String) : List Char :=
  ' ' :: (name ++ '=' :: '"' :: (Xml.escapeValue value.toList ++ ['"']))

/-- A new line with the given number of indentation units, or nothing without indentation. -/
def lineBreak (indent : String) (depth : Nat) : List Char :=
  if indent = "" then []
  else '\n' :: (List.replicate depth (Xml.escapeText indent.toList)).flatten

/-- An element that holds the given elements, each on a line of its own. -/
def element (indent : String) (depth : Nat) (name : String) (attributes : List Char)
    (children : List (List Char)) : List Char :=
  let start := '<' :: (word name ++ attributes)
  if children.isEmpty then start ++ ['/', '>']
  else
    start ++ '>' :: (children.flatMap (lineBreak indent (depth + 1) ++ ·))
      ++ lineBreak indent depth ++ '<' :: '/' :: (word name ++ ['>'])

/-- A member of a privilege. -/
def member (indent : String) (name : Name) : List Char :=
  element indent 2 memberElement (attributeText (word nameAttribute) name.text) []

/-- A privilege. -/
def entry (indent : String) (p : Privilege) : List Char :=
  let abstract := if p.isAbstract then attributeText (word abstractAttribute) "true" else []
  element indent 1 entryElement (abstract ++ attributeText (word nameAttribute) p.name.text)
    (p.members.map (member indent))

/-- The declaration of a namespace. -/
def declaration (binding : String × String) : List Char :=
  attributeText (word "xmlns:" ++ word binding.1) binding.2

/-- The root element with all that it holds. -/
def root (indent : String) (privileges : List Privilege) (namespaces : Dictionary) : List Char :=
  element indent 0 rootElement ((declared namespaces).flatMap declaration)
    (privileges.map (entry indent))

/-- The XML declaration, on a line of its own. -/
def heading (layout : Layout) : List Char :=
  if layout.declaration then
    word "<?xml version='1.0' encoding='" ++ word layout.encoding ++ word "'?>\n"
  else []

/-- The document up to its end of line. -/
def document (layout : Layout) (privileges : List Privilege) (namespaces : Dictionary) :
    List Char :=
  heading layout ++ root layout.indent privileges namespaces

/-! ## Checks -/

/-- A namespace that can be declared. -/
def checkBinding (binding : String × String) : Except WriteFault Unit := do
  unless Xml.isXmlText binding.2 do throw .notXmlText
  unless Xml.isUriReference binding.2 do throw (.badUri binding.2)
  unless Xml.isXmlText binding.1 do throw .notXmlText
  unless Xml.isPlainName binding.1.toList do throw (.badLabel binding.1)

/-- Names whose characters may stand in a document. -/
def checkNames (p : Privilege) : Except WriteFault Unit :=
  if p.names.all fun name => Xml.isXmlText name.text then .ok () else .error .notXmlText

/-- An indentation that may stand in a document: ASCII characters of XML. -/
def isIndent (indent : String) : Bool :=
  indent.toList.all fun c => Xml.isXmlChar c && c.toNat < 0x80

/-- The encoding that a layout names. -/
def checkEncoding (layout : Layout) : Except WriteFault Encoding :=
  if Text.lower layout.encoding = "unicode" then
    .error (if layout.declaration then .declarationWithoutEncoding
      else .unknownEncoding layout.encoding)
  else if !Xml.isXmlText layout.encoding then .error .notXmlText
  else
    match Encoding.ofName? layout.encoding with
    | some encoding => .ok encoding
    | none => .error (.unknownEncoding layout.encoding)

/-- All checks, in the order in which a document is put together. -/
def check (layout : Layout) (privileges : List Privilege) (namespaces : Dictionary) :
    Except WriteFault Encoding := do
  (declared namespaces).forM checkBinding
  privileges.forM checkNames
  unless privileges.isEmpty || isIndent layout.indent do throw .notXmlText
  checkEncoding layout

/-! ## Remarks -/

/-- Warns of labels that are bound to nothing and so are not declared. -/
def emptyUriNotices (namespaces : Dictionary) : List Notice :=
  namespaces.filterMap fun (label, uri) =>
    if label ≠ "" && label ≠ xmlLabel && uri = "" then some (.uriEmpty label) else none

/-- Warns of a privilege whose name has been seen, and of its labels that are not bound. -/
def privilegeNotices (namespaces : Dictionary) (seen : List String) (p : Privilege) :
    List Notice :=
  (if seen.contains p.name.text then [.nameRepeated p.name.text] else [])
    ++ p.labels.filterMap fun label =>
      if label ≠ "" && !namespaces.has label then some (.labelUnbound p.name.text label) else none

/-- The warnings about privileges in order; `seen` are the names of the earlier ones. -/
def privilegesNotices (namespaces : Dictionary) (seen : List String) :
    List Privilege → List Notice
  | [] => []
  | p :: rest =>
    privilegeNotices namespaces seen p
      ++ privilegesNotices namespaces (p.name.text :: seen) rest

/-- The warnings about names and bindings that would not read back. -/
def notices (privileges : List Privilege) (namespaces : Dictionary) : List Notice :=
  emptyUriNotices namespaces ++ privilegesNotices namespaces [] privileges

/-! ## Bytes -/

/-- A character, or a reference to it where the encoding lacks it. -/
def encodeChar (encoding : Encoding) (c : Char) : Bytes :=
  (encoding.encodeChar? c).getD (encoding.encode (Xml.numericReference c))

/-- The document in its encoding, and its end of line, which is encoded by itself. -/
def encodeDocument (encoding : Encoding) (cs : List Char) : Bytes :=
  encoding.mark ++ cs.flatMap (encodeChar encoding) ++ (encoding.mark ++ encoding.encode ['\n'])

/-- A document as bytes. -/
def write (layout : Layout) (privileges : List Privilege) (namespaces : Dictionary) :
    Logged WriteFault Bytes :=
  let warnings := notices privileges namespaces
  match check layout privileges namespaces with
  | .error fault => ⟨warnings, .error fault⟩
  | .ok encoding =>
    let bytes := encodeDocument encoding (document layout privileges namespaces)
    ⟨warnings ++ [.documentWritten privileges.length namespaces.length bytes.length], .ok bytes⟩

/-- A document as text: what its bytes hold. -/
def writeText (layout : Layout) (privileges : List Privilege) (namespaces : Dictionary) :
    Logged WriteFault String := do
  let bytes ← write layout privileges namespaces
  match Encoding.ofName? layout.encoding with
  | some encoding => return String.ofList (encoding.decode bytes).chars
  | none => Logged.fail (.unknownEncoding layout.encoding)

end Writing

end PrivilegeCatalog
