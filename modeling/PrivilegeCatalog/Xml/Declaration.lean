import PrivilegeCatalog.Text.Blank
import PrivilegeCatalog.Xml.Character

/-!
# XML declarations and processing instructions

Both stand between `<?` and the first `?>`. An XML declaration tells the version of XML, the
encoding of the document, and whether the document stands alone; it is the instruction of the
reserved name `xml`, and may only be the first thing in a document.
-/

namespace PrivilegeCatalog.Xml

open Text (isXmlBlank)

/-- The rest of a text without blanks at its start. -/
def skipBlanks (cs : List Char) : List Char := cs.dropWhile isXmlBlank

/-- The rest of a text after at least one blank. -/
def needBlanks (cs : List Char) : Option (List Char) :=
  match cs with
  | c :: rest => if isXmlBlank c then some (skipBlanks rest) else none
  | [] => none

/-- The rest of a text after the given characters. -/
def after? (lead : String) (cs : List Char) : Option (List Char) :=
  if lead.toList.isPrefixOf cs then some (cs.drop lead.length) else none

/-- A text between two quotes of one kind, and the rest after it. -/
def quoted? (cs : List Char) : Option (List Char × List Char) :=
  match cs with
  | quote :: rest =>
    if quote == '"' || quote == '\'' then
      match rest.dropWhile (· != quote) with
      | _ :: more => some (rest.takeWhile (· != quote), more)
      | [] => none
    else none
  | [] => none

/-- A name in which colons may stand, and the rest after it. -/
def word? (cs : List Char) : Option (List Char × List Char) :=
  match cs with
  | c :: _ =>
    if c == ':' || isNameStart c then some (cs.takeWhile isWordChar, cs.dropWhile isWordChar)
    else none
  | [] => none

/-- An XML declaration. -/
structure Declaration where
  encoding : Option String
  standalone : Bool
  deriving DecidableEq, Repr

namespace Declaration

/-- A key, an equals sign and a value in quotes. -/
def assignment? (key : String) (cs : List Char) : Option (List Char × List Char) := do
  let cs ← after? "=" (skipBlanks (← after? key cs))
  quoted? (skipBlanks cs)

/-- A version that is read: any of the first edition. -/
def isVersion (v : List Char) : Bool :=
  match v with
  | '1' :: '.' :: minor => minor.all Char.isDigit
  | _ => false

/-- A text that can name an encoding. -/
def isEncodingName (name : List Char) : Bool :=
  match name with
  | c :: rest => c.isAlpha && rest.all fun c => c.isAlphanum || "._-".toList.contains c
  | [] => false

/-- The part of a declaration after the encoding. -/
def standalone? (cs : List Char) : Option Bool :=
  if (skipBlanks cs).isEmpty then some false
  else do
    let (value, rest) ← assignment? "standalone" (← needBlanks cs)
    if !(skipBlanks rest).isEmpty then none
    else if value == "yes".toList then some true
    else if value == "no".toList then some false
    else none

/-- The declaration that stands after the reserved name. -/
def ofText (cs : List Char) : Option Declaration := do
  let (version, rest) ← assignment? "version" (← needBlanks cs)
  if !isVersion version then none
  else
    match (needBlanks rest).bind (assignment? "encoding") with
    | some (name, rest) =>
      if isEncodingName name then
        return ⟨some (String.ofList name), ← standalone? rest⟩
      else none
    | none => return ⟨none, ← standalone? rest⟩

end Declaration

/-- A processing instruction, as far as it matters. -/
inductive Instruction
  | declaration (d : Declaration)
  | instruction (sound : Bool)
  deriving DecidableEq, Repr

/-- The instruction that a text stands for; `first` tells that it is the first thing in a
document. -/
def Instruction.ofText (first : Bool) (text : List Char) : Option Instruction := do
  let (name, rest) ← word? text
  if name.map Char.toLower == "xml".toList then
    if first && name == "xml".toList then return .declaration (← Declaration.ofText rest)
    else none
  else if rest.isEmpty || (needBlanks rest).isSome then
    return .instruction (!name.contains ':')
  else none

end PrivilegeCatalog.Xml
