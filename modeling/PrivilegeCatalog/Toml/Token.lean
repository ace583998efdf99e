/-!
# Tokens of a settings file

The pieces of which the lines of a TOML file are made: blanks, comments, keys and quoted texts. A
function that reads a piece answers what it read and the characters after it, or nothing if the
piece is not well formed.
-/

namespace PrivilegeCatalog.Toml

/-- The keys on the way to a value. -/
abbrev Path := List String

/-! ## Blanks and comments -/

/-- Blanks inside a line. -/
def isBlank (c : Char) : Bool := c == ' ' || c == '\t'

/-- Characters that stand neither in a comment nor in a text of one line. -/
def isControl (c : Char) : Bool := (c.toNat < 0x20 && c != '\t') || c.toNat == 0x7F

/-- The characters after the blanks of a line. -/
def skipBlanks (cs : List Char) : List Char := cs.dropWhile isBlank

/-- The end of a line, after a comment whose mark has been read. -/
def comment? : List Char → Option (List Char)
  | [] => some []
  | c :: rest =>
    if c == '\n' then some (c :: rest) else if isControl c then none else comment? rest

/-- What stands after the blanks, line ends and comments between the items of a list. -/
def skipLines? (inComment : Bool) : List Char → Option (List Char)
  | [] => some []
  | c :: rest =>
    if c == '\n' then skipLines? false rest
    else if inComment then if isControl c then none else skipLines? true rest
    else if isBlank c then skipLines? false rest
    else if c == '#' then skipLines? true rest
    else some (c :: rest)

/-! ## Texts -/

/-- The value of hexadecimal digits. -/
def hexValue? (cs : List Char) : Option Nat := cs.foldlM digit 0
where
  digit (n : Nat) (c : Char) : Option Nat :=
    if '0' ≤ c && c ≤ '9' then some (n * 16 + (c.toNat - 48))
    else if 'a' ≤ c && c ≤ 'f' then some (n * 16 + (c.toNat - 87))
    else if 'A' ≤ c && c ≤ 'F' then some (n * 16 + (c.toNat - 55))
    else none

/-- The character of a code point in hexadecimal digits. -/
def codePoint? (digits : List Char) : Option Char := do
  let n ← hexValue? digits
  if n.isValidChar then some (Char.ofNat n) else none

/-- The characters that one letter after a backslash stands for. -/
def escapes : List (Char × Char) :=
  [('b', '\x08'), ('t', '\t'), ('n', '\n'), ('f', '\x0c'), ('r', '\r'), ('"', '"'), ('\\', '\\')]

/-- Where a text with escapes is: in its characters, or among the blanks that a backslash at the
end of a line leaves out, before or after that end. -/
inductive Margin
  | inText
  | beforeEnd
  | afterEnd
  deriving DecidableEq, Repr

/-- A text with escapes whose opening quotes have been read. One quote ends a text of one line,
and three end a text of several lines. -/
def escapedText? (multiline : Bool) : Margin → List Char → Option (List Char × List Char)
  | _, [] => none
  | margin, c :: rest =>
    if margin ≠ .inText && isBlank c then escapedText? multiline margin rest
    else if margin ≠ .inText && c == '\n' then escapedText? multiline .afterEnd rest
    else if margin = .beforeEnd then none
    else if c == '"' then
      if multiline then
        match rest with
        | '"' :: '"' :: more => some ([], more)
        | _ => (escapedText? multiline .inText rest).map fun (text, more) => (c :: text, more)
      else some ([], rest)
    else if c == '\\' then
      match rest with
      | 'u' :: a :: b :: c :: d :: more => do
        let x ← codePoint? [a, b, c, d]
        (escapedText? multiline .inText more).map fun (text, more) => (x :: text, more)
      | 'U' :: a :: b :: c :: d :: e :: f :: g :: h :: more => do
        let x ← codePoint? [a, b, c, d, e, f, g, h]
        (escapedText? multiline .inText more).map fun (text, more) => (x :: text, more)
      | e :: more =>
        if multiline && isBlank e then escapedText? multiline .beforeEnd more
        else if multiline && e == '\n' then escapedText? multiline .afterEnd more
        else do
          let x ← escapes.lookup e
          (escapedText? multiline .inText more).map fun (text, more) => (x :: text, more)
      | [] => none
    else if isControl c && !(multiline && c == '\n') then none
    else (escapedText? multiline .inText rest).map fun (text, more) => (c :: text, more)

/-- A text without escapes whose opening apostrophe has been read. -/
def plainText? : List Char → Option (List Char × List Char)
  | [] => none
  | c :: rest =>
    if c == '\'' then some ([], rest)
    else if isControl c then none
    else (plainText? rest).map fun (text, more) => (c :: text, more)

/-- A text of several lines without escapes whose three opening apostrophes have been read. -/
def plainLines? : List Char → Option (List Char × List Char)
  | '\'' :: '\'' :: '\'' :: rest => some ([], rest)
  | c :: rest =>
    if isControl c && c != '\n' then none
    else (plainLines? rest).map fun (text, more) => (c :: text, more)
  | [] => none

/-- A text of several lines does not hold the line end right after its opening quotes. -/
def skipFirstEnd : List Char → List Char
  | '\n' :: rest => rest
  | cs => cs

/-- Up to two quotes before the three that end a text of several lines belong to it. -/
def lastQuotes (quote : Char) : List Char × List Char → List Char × List Char
  | (text, a :: b :: rest) =>
    if a == quote && b == quote then (text ++ [a, b], rest)
    else if a == quote then (text ++ [a], b :: rest)
    else (text, a :: b :: rest)
  | (text, [a]) => if a == quote then (text ++ [a], []) else (text, [a])
  | (text, []) => (text, [])

/-- A text in any of its four forms. -/
def text? : List Char → Option (String × List Char)
  | '"' :: '"' :: '"' :: rest =>
    (escapedText? true .inText (skipFirstEnd rest)).map fun found =>
      let (text, more) := lastQuotes '"' found
      (String.ofList text, more)
  | '\'' :: '\'' :: '\'' :: rest =>
    (plainLines? (skipFirstEnd rest)).map fun found =>
      let (text, more) := lastQuotes '\'' found
      (String.ofList text, more)
  | '"' :: rest => (escapedText? false .inText rest).map fun (text, more) =>
    (String.ofList text, more)
  | '\'' :: rest => (plainText? rest).map fun (text, more) => (String.ofList text, more)
  | _ => none

/-! ## Keys -/

/-- Characters of a key without quotes. -/
def isKeyChar (c : Char) : Bool := c.isAlphanum || c == '-' || c == '_'

/-- A single key: bare, or a quoted text of one line. -/
def keyPart? : List Char → Option (String × List Char)
  | '"' :: rest => (escapedText? false .inText rest).map fun (text, more) =>
    (String.ofList text, more)
  | '\'' :: rest => (plainText? rest).map fun (text, more) => (String.ofList text, more)
  | cs =>
    let bare := cs.takeWhile isKeyChar
    if bare.isEmpty then none else some (String.ofList bare, cs.dropWhile isKeyChar)

/-- Keys with dots between them, and the blanks after the last. -/
def keys? : (fuel : Nat) → List Char → Option (Path × List Char)
  | 0, _ => none
  | fuel + 1, cs => do
    let (key, rest) ← keyPart? cs
    match skipBlanks rest with
    | '.' :: rest => do
      let (path, rest) ← keys? fuel (skipBlanks rest)
      some (key :: path, rest)
    | rest => some ([key], rest)

/-- A path of keys. -/
def path? (cs : List Char) : Option (Path × List Char) := keys? (cs.length + 1) cs

end PrivilegeCatalog.Toml
