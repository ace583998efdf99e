import PrivilegeCatalog.Text.Pieces
import PrivilegeCatalog.Text.Word
import PrivilegeCatalog.Toml.Scalar
import PrivilegeCatalog.Xml.AttributeValue

/-!
# Literals

The parameters of a handler are a value that is written out: a number, a text, octets, one of the
constants, or a tuple, list, set or record of such values. A complex number is the sum of a real
and an imaginary one. Only whether a text is such a value is told here, not which.

Characters that are told by their names in a text are not known, nor is the call that makes an
empty set in letters beyond ASCII.
-/

namespace PrivilegeCatalog.Console

/-! ## Tokens -/

/-- Numbers that are imaginary, and those that are not: whole ones may be too large to be added to
an imaginary number. -/
inductive NumberKind
  | real
  | large
  | imaginary
  deriving DecidableEq, Repr

/-- What a literal is made of. -/
inductive Token
  | number (kind : NumberKind)
  | text (isOctets : Bool)
  | word (name : List Char)
  | dots
  | mark (c : Char)
  deriving DecidableEq, Repr

namespace Literal

/-- How deep brackets stand in each other at most. -/
def depth : Nat := 200

/-- The most digits of a whole number in base ten. -/
def digits : Nat := 4300

/-- Blanks between tokens. -/
def isGap (c : Char) : Bool := c == ' ' || c == '\t' || c == '\x0c'

/-- Whether a line holds nothing but blanks and a comment. -/
def isBlankLine (line : List Char) : Bool :=
  match line.dropWhile isGap with
  | [] => true
  | c :: _ => c == '#'

/-- The lines of a text. -/
def lines (cs : List Char) : List (List Char) := Text.piecesBy (· == '\n') cs

/-- From where on a whole number is too large for a floating one, to which it would be rounded. -/
def firstLarge : Nat := Nat.pow 2 1024 - Nat.pow 2 970

/-- The kind of a whole number, told by its digits. -/
def wholeKind (base : Nat) (digits : List Char) : NumberKind :=
  let n := digits.foldl (fun n c => base * n + (Toml.hexValue? [c]).getD 0) 0
  if n < firstLarge then .real else .large

/-- The base of a whole number that a letter after a zero tells. -/
def base? (c : Char) : Option Nat :=
  [('x', 16), ('o', 8), ('b', 2)].lookup (if c.isUpper then c.toLower else c)

/-- Digits after a point, which may be none. -/
def fraction (cs : List Char) : List Char := ((Toml.digitRun? Char.isDigit cs).map (·.2)).getD cs

/-- The characters after an exponent, if there is one. -/
def exponent? : List Char → Option (List Char)
  | c :: rest =>
    if c == 'e' || c == 'E' then
      let unsigned := match rest with
        | sign :: more => if sign == '+' || sign == '-' then more else rest
        | [] => rest
      (Toml.digitRun? Char.isDigit unsigned).map (·.2)
    else none
  | [] => none

/-- What follows the whole part of a number: the kind of the number, unless it is whole, and the
characters after it. -/
def numberEnd (cs : List Char) : Option NumberKind × List Char :=
  let afterPoint := match cs with
    | '.' :: more => fraction more
    | _ => cs
  let afterExponent := (exponent? afterPoint).getD afterPoint
  let kind := if afterExponent.length == cs.length then none else some .real
  match afterExponent with
  | c :: rest => if c == 'j' || c == 'J' then (some .imaginary, rest) else (kind, afterExponent)
  | [] => (kind, [])

/-- A number in base ten. One that is whole has no zeros in front, unless it is zero, and not too
many digits. -/
def decimal? (cs : List Char) : Option (NumberKind × List Char) := do
  let (whole, rest) ←
    match cs with
    | '.' :: c :: _ => if c.isDigit then some ([], cs) else none
    | _ => Toml.digitRun? Char.isDigit cs
  match numberEnd rest with
  | (some kind, more) => return (kind, more)
  | (none, more) =>
    if whole.all (· == '0') || (whole.head? != some '0' && whole.length ≤ digits) then
      return (wholeKind 10 whole, more)
    else none

/-- A number. -/
def number? (cs : List Char) : Option (NumberKind × List Char) :=
  match cs with
  | '0' :: letter :: rest =>
    match base? letter with
    | some base =>
      let unmarked := match rest with
        | '_' :: more => more
        | _ => rest
      (Toml.digitRun? (Toml.isDigitOf base) unmarked).map fun (whole, more) =>
        (wholeKind base whole, more)
    | none => decimal? cs
  | _ => decimal? cs

/-- A text up to its closing quotes, of which there are one or three. A backslash takes the next
character with it. -/
def body? (quote : Char) (isLong : Bool) : List Char → Option (List Char × List Char)
  | [] => none
  | '\\' :: c :: rest => (body? quote isLong rest).map fun (body, more) =>
    ('\\' :: c :: body, more)
  | c :: rest =>
    if isLong then
      if (List.replicate 3 quote).isPrefixOf (c :: rest) then some ([], rest.drop 2)
      else (body? quote isLong rest).map fun (body, more) => (c :: body, more)
    else if c == quote then some ([], rest)
    else if c == '\n' then none
    else (body? quote isLong rest).map fun (body, more) => (c :: body, more)

/-- How many hexadecimal digits follow a letter after a backslash, unless it is the letter that
tells a character by its name. -/
def digitsAfter? (isOctets : Bool) (letter : Char) : Option Nat :=
  if letter == 'x' then some 2
  else if isOctets then some 0
  else if letter == 'N' then none
  else some (([('u', 4), ('U', 8)].lookup letter).getD 0)

/-- Where the characters of a text are: after a backslash, or among digits after a letter, of
which some are due and those before them stand for a number. -/
inductive Escape
  | plain
  | letter
  | number (due code : Nat)
  deriving DecidableEq, Repr

/-- Takes one character of a text. -/
def Escape.step (isOctets : Bool) (c : Char) : Escape → Option Escape
  | plain => some (if c == '\\' then letter else plain)
  | letter => do
    let due ← digitsAfter? isOctets c
    return if due = 0 then plain else number due 0
  | number due code => do
    let code := 16 * code + (← Toml.hexValue? [c])
    if 1 < due then return number (due - 1) code
    else if code ≤ 0x10FFFF then return plain
    else none

/-- Whether all that stands after backslashes can be read. -/
def areEscapes (isOctets : Bool) (body : List Char) : Bool :=
  body.foldlM (fun escape c => Escape.step isOctets c escape) Escape.plain == some .plain

/-- A text or octets, after the letters that tell which and whether backslashes stand for
themselves. -/
def text? (letters cs : List Char) : Option (Token × List Char) := do
  let letters := letters.map fun c => if c.isUpper then c.toLower else c
  let isRaw := letters.contains 'r'
  let isOctets := letters.contains 'b'
  let quote ← cs.head?
  let isLong := (List.replicate 3 quote).isPrefixOf cs
  let (body, more) ← body? quote isLong (cs.drop (if isLong then 3 else 1))
  let isKnown := ["", "r", "u", "b", "br", "rb"].contains (String.ofList letters)
  if isKnown && (!isOctets || body.all (·.toNat < 0x80)) && (isRaw || areEscapes isOctets body)
  then some (.text isOctets, more)
  else none

/-- The tokens of a text; `opened` is how many brackets are open. A line goes on while one is. -/
def tokensFrom : (fuel : Nat) → (opened : Nat) → List Char → Option (List Token)
  | 0, _, _ => none
  | _ + 1, _, [] => some []
  | fuel + 1, opened, c :: rest =>
    if isGap c then tokensFrom fuel opened rest
    else if c == '#' then tokensFrom fuel opened (rest.dropWhile (· != '\n'))
    else if c == '\n' then
      if 0 < opened then tokensFrom fuel opened rest
      else if (lines rest).all isBlankLine then some [] else none
    else if c == '\\' then
      match rest with
      | '\n' :: next :: more => tokensFrom fuel opened (next :: more)
      | _ => none
    else if "([\x7b".toList.contains c then
      if opened < depth then (tokensFrom fuel (opened + 1) rest).map (.mark c :: ·) else none
    else if ")]\x7d".toList.contains c then (tokensFrom fuel (opened - 1) rest).map (.mark c :: ·)
    else if ",:+-".toList.contains c then (tokensFrom fuel opened rest).map (.mark c :: ·)
    else if "...".toList.isPrefixOf (c :: rest) then
      (tokensFrom fuel opened (rest.drop 2)).map (.dots :: ·)
    else
      let word := (c :: rest).takeWhile Text.isWord
      let after := (c :: rest).dropWhile Text.isWord
      let token :=
        if c.isDigit || c == '.' then
          (number? (c :: rest)).map fun (kind, more) => (.number kind, more)
        else if after.head? == some '"' || after.head? == some '\'' then text? word after
        else if word.isEmpty then none
        else some (.word word, after)
      match token with
      | some (token, more) => (tokensFrom fuel opened more).map (token :: ·)
      | none => none

/-- The tokens of a text. Lines before the first token are blank, or a backslash that leads to the
next line, and the token is not moved in; a form feed begins the line anew. -/
def tokens? (cs : List Char) : Option (List Token) :=
  let isSkipped := fun line => isBlankLine line || line == ['\\']
  let first := ['\n'].intercalate ((lines (Xml.joinLineEnds cs)).dropWhile isSkipped)
  let indent := (first.takeWhile isGap).reverse.takeWhile (· != '\x0c')
  if indent.isEmpty && !cs.contains '\x00' then tokensFrom (first.length + 1) 0 first else none

/-! ## Values -/

/-- The kinds of values: numbers, real ones with a sign, all other values that cannot change,
those that can, and the word that makes a set when it is called. -/
inductive Kind
  | number (kind : NumberKind)
  | signed
  | fixed
  | changing
  | maker
  deriving DecidableEq, Repr

/-- Whether a value can stand in a set or be the key of a record. -/
def Kind.isKey (kind : Kind) : Bool := kind != .changing && kind != .maker

/-- A value that consists of others. -/
def tuple? (kinds : List Kind) : Option Kind :=
  if kinds.contains .maker then none
  else if kinds.contains .changing then some .changing
  else some .fixed

/-- The kind of a value with a sign. -/
def Kind.signed? : Kind → Option Kind
  | .number .real => some .signed
  | .number _ => some .fixed
  | _ => none

/-- The kind of the sum or the difference of two numbers. -/
def Kind.sum? (left right : Kind) : Option Kind :=
  if (left == .number .real || left == .signed) && right == .number .imaginary then some .fixed
  else none

/-- The values that are words. -/
def constants : List (List Char) := ["None", "True", "False"].map String.toList

/-- Whether a token is a sign. -/
def isSign (t : Token) : Bool := t == .mark '+' || t == .mark '-'

/-- Whether a token is a text or octets. -/
def isText (t : Token) : Bool := t == .text false || t == .text true

mutual

/-- A value and the tokens after it. -/
def value? : (fuel : Nat) → List Token → Option (Kind × List Token)
  | 0, _ => none
  | fuel + 1, ts => do
    let (left, rest) ← operand? fuel ts
    match rest with
    | sign :: more =>
      if isSign sign then
        let (right, rest) ← operand? fuel more
        return (← left.sum? right, rest)
      else return (left, rest)
    | [] => return (left, rest)

/-- A value that is no sum. -/
def operand? : (fuel : Nat) → List Token → Option (Kind × List Token)
  | 0, _ => none
  | fuel + 1, ts =>
    match ts with
    | sign :: more =>
      if isSign sign then do
        let (kind, rest) ← operand? fuel more
        return (← kind.signed?, rest)
      else do
        let (kind, rest) ← atom? fuel ts
        match kind, rest with
        | .maker, .mark '(' :: .mark ')' :: more => return (.changing, more)
        | _, _ => return (kind, rest)
    | [] => none

/-- A value that begins with its first token: one in round brackets is itself unless there is a
comma. -/
def atom? : (fuel : Nat) → List Token → Option (Kind × List Token)
  | 0, _ => none
  | _ + 1, .number kind :: rest => some (.number kind, rest)
  | _ + 1, .text isOctets :: rest =>
    if (rest.takeWhile isText).all (· == .text isOctets) then some (.fixed, rest.dropWhile isText)
    else none
  | _ + 1, .dots :: rest => some (.fixed, rest)
  | _ + 1, .word name :: rest =>
    if constants.contains name then some (.fixed, rest)
    else if name == "set".toList then some (.maker, rest)
    else none
  | _ + 1, .mark '(' :: .mark ')' :: rest => some (.fixed, rest)
  | fuel + 1, .mark '(' :: ts => do
    let (first, rest) ← value? fuel ts
    match rest with
    | .mark ')' :: more => return (first, more)
    | _ =>
      let (others, rest) ← others? fuel ')' false rest
      return (← tuple? (first :: others), rest)
  | _ + 1, .mark '[' :: .mark ']' :: rest => some (.changing, rest)
  | fuel + 1, .mark '[' :: ts => do
    let (first, rest) ← value? fuel ts
    let (others, rest) ← others? fuel ']' false rest
    let _ ← tuple? (first :: others)
    return (.changing, rest)
  | _ + 1, .mark '\x7b' :: .mark '\x7d' :: rest => some (.changing, rest)
  | fuel + 1, .mark '\x7b' :: ts => do
    let (first, rest) ← value? fuel ts
    let isRecord := rest.head? == some (.mark ':')
    let rest ← if isRecord then entry? fuel rest else some rest
    let (others, rest) ← others? fuel '\x7d' isRecord rest
    if (first :: others).all Kind.isKey then return (.changing, rest) else none
  | _ + 1, _ => none

/-- The tokens after the value of a key. -/
def entry? : (fuel : Nat) → List Token → Option (List Token)
  | 0, _ => none
  | fuel + 1, .mark ':' :: ts => do
    let (kind, rest) ← value? fuel ts
    if kind == .maker then none else return rest
  | _ + 1, _ => none

/-- The values or keys after the first one, up to a closing bracket, before which there may be a
comma. -/
def others? : (fuel : Nat) → (close : Char) → (isRecord : Bool) → List Token →
    Option (List Kind × List Token)
  | 0, _, _, _ => none
  | fuel + 1, close, isRecord, .mark c :: ts => do
    if c == close then return ([], ts)
    else if c != ',' then none
    else if ts.head? == some (.mark close) then return ([], ts.tail)
    else
      let (next, rest) ← value? fuel ts
      let rest ← if isRecord then entry? fuel rest else some rest
      let (others, rest) ← others? fuel close isRecord rest
      return (next :: others, rest)
  | _ + 1, _, _, _ => none

end

/-- Whether tokens are one value, or values with commas between them. -/
def areValue (ts : List Token) : Bool :=
  !ts.isEmpty &&
    match atom? (4 * ts.length + 8) (.mark '(' :: ts ++ [.mark ')']) with
    | some (kind, []) => kind != .maker
    | _ => false

end Literal

/-- Whether a text is a literal. -/
def isLiteral (cs : List Char) : Bool := (Literal.tokens? cs).any Literal.areValue

end PrivilegeCatalog.Console
