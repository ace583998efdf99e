import PrivilegeCatalog.Xml.Character

/-!
# Names as they are written in tags

A name in a tag is a word, cut into a label and a stem at a colon. Some words that are no
qualified names are read all the same and make the document unsound as a whole; others stop the
reading.
-/

namespace PrivilegeCatalog.Xml

/-- A name in a tag. It is sound when both parts are names without colons. -/
structure RawName where
  label : Option String
  stem : String
  sound : Bool
  deriving DecidableEq, Repr

namespace RawName

/-- A name can start with this text. -/
def startsName : List Char → Bool
  | [] => false
  | c :: _ => isNameStart c

/-- The name that a word stands for. -/
def ofWord (word : List Char) : Option RawName :=
  let whole := String.ofList word
  let first := word.takeWhile (· != ':')
  match word, word.dropWhile (· != ':') with
  | [], _ => none
  | ':' :: _, _ => some ⟨none, whole, false⟩
  | c :: _, [] => if isNameStart c then some ⟨none, whole, true⟩ else none
  | c :: _, _ :: rest =>
    if !isNameStart c then none
    else if !startsName rest then some ⟨none, whole, false⟩
    else
      match rest.dropWhile (· != ':') with
      | [] => some ⟨some (String.ofList first), String.ofList rest, true⟩
      | _ :: [] => some ⟨some (String.ofList first), String.ofList rest, false⟩
      | _ :: d :: _ =>
        if d == ':' || isNameStart d then
          some ⟨some (String.ofList first), String.ofList rest, false⟩
        else none

end RawName

end PrivilegeCatalog.Xml
