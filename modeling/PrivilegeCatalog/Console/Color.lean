import PrivilegeCatalog.Text.Blank
import PrivilegeCatalog.Text.LowerCase
import PrivilegeCatalog.Text.Pieces
import PrivilegeCatalog.Text.Word

/-!
# Colors

A color is told by its name, by a number sign and six hexadecimal digits, by its number on a
terminal, or by its three components, which are written in the decimal digits of any script. A
component that is missing or has too many digits is a fault of its own: such a text is not only no
color, it breaks off whoever asks for one.
-/

namespace PrivilegeCatalog.Console

/-- Why a text tells no color or no style: it is none, or a component of a color is no number. -/
inductive StyleFault
  | unknown
  | component
  deriving DecidableEq, Repr

/-- The names of colors without a number. -/
def colorNames : List String :=
  ["black", "red", "green", "yellow", "blue", "magenta", "cyan", "white", "bright_black",
   "bright_red", "bright_green", "bright_yellow", "bright_blue", "bright_magenta",
   "bright_cyan", "bright_white", "navy_blue", "dark_blue", "dark_green", "dark_cyan",
   "light_sea_green", "dark_turquoise", "medium_spring_green", "dark_red", "blue_violet",
   "steel_blue", "cornflower_blue", "cadet_blue", "medium_turquoise", "dark_magenta",
   "dark_violet", "purple", "light_slate_grey", "light_slate_gray", "medium_purple",
   "light_slate_blue", "dark_sea_green", "light_green", "medium_violet_red", "indian_red",
   "medium_orchid", "dark_goldenrod", "rosy_brown", "dark_khaki", "light_steel_blue",
   "green_yellow", "orchid", "violet", "tan", "hot_pink", "dark_orange", "light_coral",
   "sandy_brown"]

/-- The names of colors with a number, and their numbers. -/
def numberedColors : List (String × List Nat) :=
  [("grey", [0, 3, 7, 11, 15, 19, 23, 27, 30, 35, 37, 39, 42, 46, 50, 53, 54, 58, 62, 63,
     66, 69, 70, 74, 78, 82, 84, 85, 89, 93, 100]),
   ("gray", [0, 3, 7, 11, 15, 19, 23, 27, 30, 35, 37, 39, 42, 46, 50, 53, 54, 58, 62, 63,
     66, 69, 70, 74, 78, 82, 84, 85, 89, 93, 100]),
   ("blue", [1, 3]), ("deep_sky_blue", [1, 2, 3, 4]), ("dodger_blue", [1, 2, 3]),
   ("green", [1, 3, 4]), ("spring_green", [1, 2, 3, 4]), ("turquoise", [2, 4]),
   ("cyan", [1, 2, 3]), ("deep_pink", [1, 2, 3, 4]), ("purple", [3, 4]), ("orange", [1, 3, 4]),
   ("medium_purple", [1, 2, 3, 4]), ("slate_blue", [1, 3]), ("royal_blue", [1]),
   ("chartreuse", [1, 2, 3, 4]), ("dark_sea_green", [1, 2, 3, 4]), ("pale_turquoise", [1, 4]),
   ("steel_blue", [1, 3]), ("sky_blue", [1, 2, 3]), ("pale_green", [1, 3]),
   ("sea_green", [1, 2, 3]), ("aquamarine", [1, 3]), ("dark_slate_gray", [1, 2, 3]),
   ("light_pink", [1, 3, 4]), ("plum", [1, 2, 3, 4]), ("yellow", [1, 2, 3, 4]),
   ("wheat", [1, 4]), ("dark_olive_green", [1, 2, 3]), ("light_sky_blue", [1, 3]),
   ("red", [1, 3]), ("magenta", [1, 2, 3]), ("dark_orange", [3]), ("hot_pink", [2, 3]),
   ("medium_orchid", [1, 3]), ("light_salmon", [1, 3]), ("gold", [1, 3]),
   ("navajo_white", [1, 3]), ("light_steel_blue", [1, 3]), ("light_cyan", [1, 3]),
   ("pink", [1, 3]), ("light_goldenrod", [1, 2, 3]), ("misty_rose", [1, 3]),
   ("thistle", [1, 3]), ("khaki", [1, 3]), ("light_yellow", [3]), ("honeydew", [2]),
   ("orange_red", [1]), ("indian_red", [1]), ("salmon", [1]), ("pale_violet_red", [1]),
   ("orchid", [1, 2]), ("cornsilk", [1])]

/-- Whether a text is the name of a color. -/
def isColorName (name : String) : Bool :=
  colorNames.contains name
    || numberedColors.any fun (stem, numbers) => numbers.any fun n => name == stem ++ toString n

/-- The number that digits stand for. A range of digits holds those from zero to nine, and maybe
holds them several times. -/
def decimalNumber (digits : List Char) : Nat :=
  digits.foldl (fun n c =>
    match Text.digitRanges.find? fun (first, last) => first ≤ c.toNat && c.toNat ≤ last with
    | some (first, _) => 10 * n + (c.toNat - first) % 10
    | none => n) 0

/-- The most digits of a component. -/
def componentDigits : Nat := 4300

/-- One component of a color. -/
def component (digits : List Char) : Except StyleFault Nat :=
  if digits.isEmpty || componentDigits < digits.length then .error .component
  else .ok (decimalNumber digits)

/-- What stands between round brackets after a word. -/
def argument? (word text : List Char) : Option (List Char) :=
  if (word ++ ['(']).isPrefixOf text && text.getLast? == some ')' then
    some (text.drop (word.length + 1)).dropLast
  else none

/-- A text is unknown unless it is a color. -/
def require (isColor : Bool) : Except StyleFault Unit :=
  if isColor then .ok () else .error .unknown

/-- Whether a text in small letters tells a color. -/
def checkColor (name : String) : Except StyleFault Unit :=
  let cs := name.toList
  let isHex := fun c : Char => c.isDigit || ('a' ≤ c && c ≤ 'f')
  if name == "default" || isColorName name then .ok ()
  else if cs.head? == some '#' then require (cs.length == 7 && cs.tail.all isHex)
  else
    match argument? "color".toList cs, argument? "rgb".toList cs with
    | some digits, _ =>
      require (!digits.isEmpty && digits.length ≤ 3 && digits.all Char.isDigit
        && decimalNumber digits ≤ 255)
    | none, some inside =>
      if inside.all fun c => Text.isDecimal c || c == ',' then
        match Text.piecesBy (· == ',') inside with
        | [red, green, blue] => do
          let components := [← component red, ← component green, ← component blue]
          require (components.all (· ≤ 255))
        | _ => .error .unknown
      else .error .unknown
    | none, none => .error .unknown

/-- The name of the color that a word tells. -/
def colorName (word : String) : Except StyleFault String := do
  let name := Text.trim (Text.lower word)
  checkColor name
  return name

end PrivilegeCatalog.Console
