import PrivilegeCatalog.Console.Width
import PrivilegeCatalog.Text.Blank
import PrivilegeCatalog.Text.Pieces

/-!
# Wrapping

A text is laid out in lines of a number of columns. A word goes with the blanks after it to the
line it fits on without them; a word that no line holds starts a line and is broken wherever a
line is full. Blanks beyond the last column are cut off.
-/

namespace PrivilegeCatalog.Console

/-- A text whose tabs are blanks up to the next of the stops, which are `stop` columns apart;
`column` is where it starts. -/
def expandTabs (stop column : Nat) : List Char → List Char
  | [] => []
  | c :: rest =>
    if c == '\t' then
      let blanks := stop - column % stop
      List.replicate blanks ' ' ++ expandTabs stop (column + blanks) rest
    else c :: expandTabs stop (column + charWidth c) rest

/-- The words of a text, each with the blanks after it. Blanks before the first word go with it,
and a text of blanks has no word. `word` is the one that has begun, in reverse; `seen` tells
whether it holds more than blanks, and `ended` whether blanks have followed. -/
def wordsFrom (word : List Char) (seen ended : Bool) : List Char → List (List Char)
  | [] => if seen then [word.reverse] else []
  | c :: rest =>
    if Text.isBlank c then wordsFrom (c :: word) seen seen rest
    else if ended then word.reverse :: wordsFrom [c] true false rest
    else wordsFrom (c :: word) true false rest

/-- The words of a text. -/
def words (cs : List Char) : List (List Char) := wordsFrom [] false false cs

/-- Breaks a word wherever the next character would pass the last column; `line` is the part on
the line that is being filled, in reverse, and `used` its columns. -/
def breakFrom (columns : Nat) (line : List Char) (used : Nat) : List Char → List (List Char)
  | [] => [line.reverse]
  | c :: rest =>
    if columns < used + charWidth c then line.reverse :: breakFrom columns [c] (charWidth c) rest
    else breakFrom columns (c :: line) (used + charWidth c) rest

/-- Lines that are full, in reverse, and the line that is being filled. -/
structure Filling where
  full : List (List Char) := []
  line : List Char := []

/-- The columns of a line. -/
def Filling.used (f : Filling) : Nat := width f.line

/-- Begins another line, unless nothing stands on this one. -/
def Filling.begin (f : Filling) (line : List Char) : Filling :=
  if f.line.isEmpty then { f with line } else ⟨f.line :: f.full, line⟩

/-- Puts a word on the line or on further lines. -/
def Filling.put (columns : Nat) (f : Filling) (word : List Char) : Filling :=
  let bare := width (word.reverse.dropWhile Text.isBlank).reverse
  if bare + f.used ≤ columns then { f with line := f.line ++ word }
  else if columns < bare then (breakFrom columns [] 0 word).foldl Filling.begin f
  else f.begin word

/-- The start of a line that stands on so many columns. The place of the cut is sought by halving
between `start` and `stop`, so that it also depends on characters that take no column; one of two
columns that is cut in half leaves a blank. -/
def cutBetween (columns : Nat) (cs : List Char) : (fuel start stop : Nat) → List Char
  | 0, start, _ => cs.take start
  | fuel + 1, start, stop =>
    let place := (start + stop) / 2
    let first := cs.take (place + 1)
    if width first == columns + 1 && first.getLast?.any (charWidth · == 2) then
      first.dropLast ++ [' ']
    else if width first == columns then first
    else if columns < width first then cutBetween columns cs fuel start place
    else cutBetween columns cs fuel place stop

/-- A line of at most so many columns. -/
def firstColumns (columns : Nat) (cs : List Char) : List Char :=
  if width cs ≤ columns then cs else cutBetween columns cs cs.length 0 cs.length

/-- A line without those of the blanks at its end that are beyond the last column, where each
character counts for one. -/
def cutBlanks (columns : Nat) (cs : List Char) : List Char :=
  let blanks := (cs.reverse.takeWhile Text.isBlank).length
  cs.take (cs.length - min blanks (cs.length - columns))

/-- The lines of a text that is one line by itself. -/
def wrapLine (columns : Nat) (cs : List Char) : List (List Char) :=
  match words cs with
  | [] => [cs]
  | first :: others =>
    let filling := others.foldl (Filling.put columns) (Filling.put columns {} first)
    (filling.line :: filling.full).reverse

/-- How far tabs are apart. -/
def tabStop : Nat := 8

/-- The lines of a text with its tabs as blanks. -/
def linesOf (text : String) : List (List Char) :=
  (Text.piecesBy (· == '\n') text.toList).map (expandTabs tabStop 0)

/-- Lines one below the other. -/
def stacked (lines : List (List Char)) : String := "\n".intercalate (lines.map String.ofList)

/-- A text in lines of at most so many columns. -/
def wrap (columns : Nat) (text : String) : String :=
  stacked (((linesOf text).flatMap (wrapLine columns)).map fun line =>
    firstColumns columns (cutBlanks columns line))

/-- A text in the lines that it has. -/
def unwrapped (columns : Nat) (text : String) : String :=
  stacked ((linesOf text).map (cutBlanks columns))

/-! ## Stretches of a text that is laid out in its own lines -/

/-- Whether what begins at a place of a line is drawn: when the blanks at the end of the line are
cut off, only what begins before them. -/
def keeps (columns : Nat) (line : List Char) (start : Nat) : Bool :=
  let whole := expandTabs tabStop 0 line
  let cut := cutBlanks columns whole
  cut.length == whole.length || (expandTabs tabStop 0 (line.take start)).length < cut.length

/-- Whether some line holds a part of a stretch and draws it; `before` is where the first line
begins. -/
def keepsPart (columns start stop : Nat) : (before : Nat) → List (List Char) → Bool
  | _, [] => false
  | before, line :: rest =>
    (max start before < min stop (before + line.length)
        && keeps columns line (max start before - before))
      || keepsPart columns start stop (before + line.length + 1) rest

/-- Whether a stretch of a text is drawn in the lines that the text has. A stretch without
characters is lost where the text is taken apart, at the ends of lines and at tabs. -/
def draws (columns : Nat) (text : String) (start stop : Nat) : Bool :=
  let lines := Text.piecesBy (· == '\n') text.toList
  let isWhole := lines.length == 1 && !text.toList.contains '\t'
  keepsPart columns start stop 0 lines
    || (isWhole && start == stop && keeps columns text.toList start)

end PrivilegeCatalog.Console
