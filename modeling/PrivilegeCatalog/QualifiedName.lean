import PrivilegeCatalog.Text.Blank
import PrivilegeCatalog.Text.Quoted
import PrivilegeCatalog.Text.Word

/-!
# Qualified names

A privilege is named `label:stem`, where the label stands for a namespace; a name without a colon
has the empty label. `QualifiedName.ofText` cuts a text at its first colon and checks both parts.
The check looks at a part without its final line feed, so a part may end in one.
-/

namespace PrivilegeCatalog

/-- The two parts of a name. -/
structure QualifiedName where
  label : String
  stem : String
  deriving DecidableEq, Repr

/-- Why a text is no qualified name. -/
inductive NameFault
  | badLabel (name : String)
  | badStem (name : String)
  deriving DecidableEq, Repr

/-- The wording of a fault. -/
def NameFault.message : NameFault → String
  | badLabel name => "Invalid namespace prefix in name " ++ Text.quoted name
  | badStem name => "Invalid local name in name " ++ Text.quoted name

namespace QualifiedName

/-- The text without one line feed at its end. -/
def dropFinalFeed (cs : List Char) : List Char :=
  if cs.getLast? = some '\n' then cs.dropLast else cs

/-- A word character other than a digit, followed by word characters, dots and hyphens. -/
def isLabelText (cs : List Char) : Bool :=
  match dropFinalFeed cs with
  | [] => false
  | c :: rest =>
    Text.isWord c && !Text.isDecimal c
      && rest.all fun c => Text.isWord c || c == '.' || c == '-'

/-- The marks that no stem holds. -/
def stemMarks : List Char := [':', '/', '[', ']', '|', '*', '\x7b', '\x7d']

/-- At least one character, none of them blank and none of them a mark. -/
def isStemText (cs : List Char) : Bool :=
  let body := dropFinalFeed cs
  !body.isEmpty && body.all fun c => !Text.isBlank c && !stemMarks.contains c

/-- The two parts around the first colon, if there is one. -/
def cut (cs : List Char) : Option (List Char × List Char) :=
  match cs.dropWhile (· != ':') with
  | [] => none
  | _ :: rest => some (cs.takeWhile (· != ':'), rest)

/-- The parts of a name, checked. -/
def ofText (name : String) : Except NameFault QualifiedName :=
  match cut name.toList with
  | some (label, stem) =>
    if isLabelText label then
      if isStemText stem then .ok ⟨String.ofList label, String.ofList stem⟩
      else .error (.badStem name)
    else .error (.badLabel name)
  | none =>
    if isStemText name.toList then .ok ⟨"", name⟩ else .error (.badStem name)

end QualifiedName

/-- A text that is a qualified name. -/
structure Name where
  text : String
  valid : (QualifiedName.ofText text).isOk = true
  deriving DecidableEq

namespace Name

/-- A name from its text. -/
def ofText (text : String) : Except NameFault Name :=
  match h : QualifiedName.ofText text with
  | .ok _ => .ok ⟨text, by rw [h]; rfl⟩
  | .error fault => .error fault

/-- The parts of a name. -/
def parts (name : Name) : QualifiedName :=
  match h : QualifiedName.ofText name.text with
  | .ok q => q
  | .error _ => absurd name.valid (by rw [h]; exact Bool.false_ne_true)

/-- The label of a name; empty when the name has no colon. -/
def label (name : Name) : String := name.parts.label

/-- The part of a name after its label. -/
def stem (name : Name) : String := name.parts.stem

theorem ofText_parts (name : Name) : QualifiedName.ofText name.text = .ok name.parts := by
  unfold parts
  split
  · assumption
  · rename_i h
    exact absurd name.valid (by rw [h]; exact Bool.false_ne_true)

end Name

end PrivilegeCatalog
