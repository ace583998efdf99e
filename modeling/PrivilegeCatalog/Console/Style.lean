import PrivilegeCatalog.Console.Color

/-!
# Styles

A style is told by words: qualities, each of which may be denied, a color, a color of the
background, and a link. Words that come later take the place of those before them. Two texts that
tell the same style have the same normal form, in which the words stand in a fixed order.
-/

namespace PrivilegeCatalog.Console

/-- The qualities of a style in the order of the normal form, each with its short form. -/
def qualityWords : List (String × String) :=
  [("bold", "b"), ("dim", "d"), ("italic", "i"), ("underline", "u"), ("blink", "blink"),
    ("blink2", "blink2"), ("reverse", "r"), ("conceal", "c"), ("strike", "s"),
    ("underline2", "uu"), ("frame", "frame"), ("encircle", "encircle"), ("overline", "o")]

/-- The quality that a word tells. -/
def quality? (word : String) : Option String :=
  (qualityWords.find? fun (long, short) => word == long || word == short).map (·.1)

/-- A style. Of the qualities that are set the last one stands first. -/
structure Style where
  qualities : List (String × Bool) := []
  color : Option String := none
  background : Option String := none
  link : Option String := none
  deriving DecidableEq, Repr

namespace Style

/-- Sets a quality, or denies it. -/
def set (s : Style) (quality : String) (isOn : Bool) : Style :=
  { s with qualities := (quality, isOn) :: s.qualities }

/-- The style with what one word in small letters tells: a quality, or else a color. -/
def withWord (s : Style) (small : String) : Except StyleFault Style :=
  match quality? small with
  | some quality => .ok (s.set quality true)
  | none => do return { s with color := ← colorName small }

/-- The style with what a word in small letters tells of the next one, if it is such a word. A
quality that is denied is in small letters itself. -/
def withNext? (s : Style) (small next : String) : Option (Except StyleFault Style) :=
  if small == "on" then some (do return { s with background := ← colorName next })
  else if small == "not" then
    match quality? next with
    | some quality => some (.ok (s.set quality false))
    | none => some (.error .unknown)
  else if small == "link" then some (.ok { s with link := next })
  else none

/-- The style with what further words tell. -/
def withWords (s : Style) : List String → Except StyleFault Style
  | [] => .ok s
  | [word] => s.withWord (Text.lower word)
  | word :: next :: others =>
    match s.withNext? (Text.lower word) next with
    | some told => do withWords (← told) others
    | none => do withWords (← s.withWord (Text.lower word)) (next :: others)

/-- The words of a text. -/
def words (text : String) : List String :=
  ((Text.piecesBy Text.isBlank text.toList).filter (!·.isEmpty)).map String.ofList

/-- The style that a text tells. -/
def ofText (text : String) : Except StyleFault Style :=
  if Text.trim text == "none" then .ok {} else withWords {} (words text)

/-- The normal form of the text for a style. -/
def text (s : Style) : String :=
  let qualities := qualityWords.filterMap fun (quality, _) =>
    (s.qualities.lookup quality).map fun isOn => if isOn then quality else "not " ++ quality
  let parts := qualities ++ s.color.toList
    ++ (s.background.toList.map ("on " ++ ·)) ++ (s.link.toList.map ("link " ++ ·))
  if parts.isEmpty then "none" else " ".intercalate parts

end Style

/-- The name of a style: its normal form, or the text in small letters when it tells none. -/
def styleName (text : String) : Except StyleFault String :=
  match Style.ofText text with
  | .ok style => .ok style.text
  | .error .unknown => .ok (Text.lower (Text.trim text))
  | .error .component => .error .component

/-- Whether a style can be looked up. One that nothing tells is taken for no style at all. -/
def canLookUp (text : String) : Bool :=
  match Style.ofText text with
  | .error .component => false
  | _ => true

end PrivilegeCatalog.Console
