import PrivilegeCatalog.Console.Literal
import PrivilegeCatalog.Console.Pictograph
import PrivilegeCatalog.Console.Style

/-!
# Console markup

Text for a terminal may hold tags between brackets, which are not shown. A tag starts with a small
letter, a number sign, a slash or an at sign; other brackets are shown. It opens a style, or with
an at sign a handler; a slash closes the tag of that name, or without a name the last one that is
open. What is not open cannot be closed. What stands behind a sign of equality belongs to the
style; of a handler it has to be a literal, which is read when the handler is closed. The style of
each stretch of the text is looked up when the text is drawn. Backslashes before a tag are halved,
and one left over makes the tag plain text. Short names between colons stand for pictographs.

How a literal is read is a parameter, since it lies outside of the markup.
-/

namespace PrivilegeCatalog.Console

/-! ## Tags -/

/-- A part of a text with markup. -/
inductive Piece
  | plain (cs : List Char)
  | tag (body : List Char)
  deriving DecidableEq, Repr

/-- The characters that a tag starts with. -/
def startsTag (c : Char) : Bool :=
  ('a' ≤ c && c ≤ 'z') || c == '#' || c == '/' || c == '@'

/-- The characters up to a closing bracket, before which no other bracket opens. -/
def tagEnd? : List Char → Option (List Char × List Char)
  | [] => none
  | c :: rest =>
    if c == ']' then some ([], rest)
    else if c == '[' then none
    else (tagEnd? rest).map fun (body, more) => (c :: body, more)

/-- The tag that a text begins with, without its brackets. -/
def tag? : List Char → Option (List Char × List Char)
  | '[' :: c :: rest =>
    if startsTag c then (tagEnd? rest).map fun (body, more) => (c :: body, more) else none
  | _ => none

/-- Plain text, unless there is none. -/
def plainPiece (cs : List Char) : List Piece := if cs.isEmpty then [] else [.plain cs]

/-- A tag after a number of backslashes. -/
def escapedTag (backslashes : Nat) (body : List Char) : List Piece :=
  plainPiece (List.replicate (backslashes / 2) '\\')
    ++ [if backslashes % 2 = 1 then .plain ('[' :: (body ++ [']'])) else .tag body]

/-- The pieces of a text; `before` is the plain text before it, in reverse. -/
def piecesFrom : (fuel : Nat) → (before : List Char) → List Char → List Piece
  | 0, before, cs => plainPiece (before.reverse ++ cs)
  | _ + 1, before, [] => plainPiece before.reverse
  | fuel + 1, before, c :: rest =>
    let backslashes := (c :: rest).takeWhile (· == '\\')
    let after := (c :: rest).dropWhile (· == '\\')
    match tag? after with
    | some (body, more) =>
      plainPiece before.reverse ++ escapedTag backslashes.length body ++ piecesFrom fuel [] more
    | none =>
      if backslashes.isEmpty then piecesFrom fuel (c :: before) rest
      else piecesFrom fuel (backslashes ++ before) after

/-- The pieces of a text. -/
def pieces (cs : List Char) : List Piece := piecesFrom (cs.length + 1) [] cs

/-! ## Plain text -/

/-- A short name after its first colon, and what follows its second. -/
def shortName? : List Char → Option (List Char × List Char)
  | [] => none
  | c :: rest =>
    if c == ':' then some ([], rest)
    else if Text.isBlank c then none
    else (shortName? rest).map fun (name, more) => (c :: name, more)

/-- The endings of short names that ask for a variant, and the characters that select it. -/
def variants : List (List Char × Char) :=
  [("-emoji".toList, '\ufe0f'), ("-text".toList, '\ufe0e')]

/-- The pictograph of a short name in its variant. -/
def pictographOf? (name : List Char) : Option (List Char) :=
  let lookUp := fun base : List Char => pictograph? (Text.lower (String.ofList base)).toList
  match variants.find? fun (ending, _) => ending.isSuffixOf name with
  | some (ending, selector) =>
    (lookUp (name.take (name.length - ending.length))).map (· ++ [selector])
  | none => lookUp name

/-- A text with its short names replaced by pictographs. -/
def replaceNames : (fuel : Nat) → List Char → List Char
  | 0, cs => cs
  | _ + 1, [] => []
  | fuel + 1, c :: rest =>
    match if c == ':' then shortName? rest else none with
    | some (name, more) =>
      (pictographOf? name).getD (':' :: (name ++ [':'])) ++ replaceNames fuel more
    | none => c :: replaceNames fuel rest

/-- A text with pictographs. -/
def withPictographs (cs : List Char) : List Char := replaceNames cs.length cs

/-- A backslash before a bracket that starts no tag is not shown. -/
def unescapeBrackets : List Char → List Char
  | '\\' :: '[' :: rest => '[' :: unescapeBrackets rest
  | c :: rest => c :: unescapeBrackets rest
  | [] => []

/-! ## Tags that are open -/

/-- Why text with markup is not printed: a tag closes another that is not open, the parameters of
a handler are no literal, or a component of a color is no number. -/
inductive MarkupFault
  | notOpen (name : String)
  | parameters (text : String)
  | component
  deriving DecidableEq, Repr

/-- A tag that is open: the name of its style or its handler, and what stands behind the sign of
equality, if there is one. -/
structure OpenTag where
  name : String
  parameters : Option (List Char) := none
  deriving DecidableEq, Repr

namespace OpenTag

/-- Whether a tag is for a handler. -/
def isHandler (tag : OpenTag) : Bool := tag.name.toList.head? == some '@'

/-- The style of a tag. -/
def style (tag : OpenTag) : String :=
  match tag.parameters with
  | some parameters => tag.name ++ " " ++ String.ofList parameters
  | none => tag.name

end OpenTag

/-- The literal in the parameters of a handler. The name of a function may stand before it, and
may stand alone. -/
def literalIn (parameters : List Char) : List Char :=
  let bare := Text.trimBy Text.isBlank parameters
  let rest := bare.dropWhile fun c => Text.isWord c || c == '.'
  if rest.isEmpty then "()".toList
  else if 2 ≤ rest.length && rest.head? == some '(' && rest.getLast? == some ')'
      && !rest.contains '\n' then rest
  else bare

/-- The style that a tag names, as an element of markup. -/
def nameOf (text : List Char) : Except MarkupFault String :=
  (styleName (String.ofList text)).mapError fun _ => .component

/-- What a tag does: it opens another style, or closes the one at a place. -/
inductive Turn
  | opens (tag : OpenTag)
  | closes (place : Nat)
  deriving DecidableEq, Repr

/-- What a tag does under those that are open, the last one first. -/
def turn (opened : List OpenTag) (body : List Char) : Except MarkupFault Turn :=
  let name := body.takeWhile (· != '=')
  match name with
  | '/' :: named =>
    let closed := Text.trimBy Text.isBlank named
    if closed.isEmpty then if opened.isEmpty then .error (.notOpen "") else .ok (.closes 0)
    else do
      let name ← nameOf closed
      match opened.findIdx? (·.name == name) with
      | some place => return .closes place
      | none => .error (.notOpen name)
  | _ => do
    let parameters :=
      if name.length < body.length then some (body.drop (name.length + 1)) else none
    return .opens ⟨← nameOf name, parameters⟩

/-- Closes a tag; the parameters of a handler are read. -/
def close (evaluates : List Char → Bool) (tag : OpenTag) : Except MarkupFault Unit :=
  let parameters := tag.parameters.getD []
  if tag.isHandler && !parameters.isEmpty && !evaluates (literalIn parameters) then
    .error (.parameters (String.ofList parameters))
  else .ok ()

/-- The open tags after a tag, the last one first. -/
def afterTag (evaluates : List Char → Bool) (opened : List OpenTag) (body : List Char) :
    Except MarkupFault (List OpenTag) := do
  match ← turn opened body with
  | .opens tag => return tag :: opened
  | .closes place =>
    if let some tag := opened[place]? then close evaluates tag
    return opened.eraseIdx place

/-! ## What is shown -/

/-- Controls that a terminal would obey. -/
def isStripped (c : Char) : Bool :=
  [7, 8, 11, 12, 13].contains c.toNat

/-- What is shown of pieces under the tags that are open. -/
def shownPieces (evaluates : List Char → Bool) :
    (opened : List OpenTag) → List Piece → Except MarkupFault (List Char)
  | _, [] => .ok []
  | opened, .plain cs :: rest => do
    let more ← shownPieces evaluates opened rest
    return withPictographs (unescapeBrackets cs) ++ more
  | opened, .tag body :: rest => do
    let opened ← afterTag evaluates opened body
    shownPieces evaluates opened rest

/-- A stretch of what is shown, up to the character before `stop`, and its style. -/
structure Span where
  start : Nat
  stop : Nat
  style : String
  deriving DecidableEq, Repr

/-- The stretch from where a tag has been opened; that of a handler has no style to look up. -/
def spanOf (start stop : Nat) (tag : OpenTag) : List Span :=
  if tag.isHandler then [] else [⟨start, stop, tag.style⟩]

/-- The stretches of what is shown of pieces, after so many characters and under open tags with
the places where these have been opened. What is never closed reaches to the end. -/
def spansFrom : (shown : Nat) → (opened : List (Nat × OpenTag)) → List Piece → List Span
  | shown, opened, [] => opened.map fun (start, tag) => ⟨start, shown, tag.style⟩
  | shown, opened, .plain cs :: rest =>
    let length := ((withPictographs (unescapeBrackets cs)).filter (!isStripped ·)).length
    spansFrom (shown + length) opened rest
  | shown, opened, .tag body :: rest =>
    match turn (opened.map (·.2)) body with
    | .ok (.opens tag) => spansFrom shown ((shown, tag) :: opened) rest
    | .ok (.closes place) =>
      (opened[place]?).toList.flatMap (fun (start, tag) => spanOf start shown tag)
        ++ spansFrom shown (opened.eraseIdx place) rest
    | .error _ => []

/-- The stretches of a text with markup. -/
def spans (text : String) : List Span := spansFrom 0 [] (pieces text.toList)

/-- Looks up the styles of stretches. -/
def lookUp (spans : List Span) : Except MarkupFault Unit :=
  if spans.all fun span => canLookUp span.style then .ok () else .error .component

/-- What is shown of a text with markup, when the styles of those stretches are looked up that are
drawn. -/
def shown (text : String) (evaluates : List Char → Bool := isLiteral)
    (isDrawn : String → Span → Bool := fun _ _ => true) : Except MarkupFault String := do
  let cs := text.toList
  let out ←
    if cs.contains '[' then shownPieces evaluates [] (pieces cs) else .ok (withPictographs cs)
  let out := String.ofList (out.filter (!isStripped ·))
  lookUp ((spans text).filter (isDrawn out))
  return out

end PrivilegeCatalog.Console
