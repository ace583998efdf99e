/-!
# URI references

The texts that may name a namespace: a URI with its scheme, or a reference relative to one. The
parts are read from the left, each as far as it goes, and nothing may be left at the end.
-/

namespace PrivilegeCatalog.Xml.UriReference

/-- ASCII letters. -/
def isLetter (c : Char) : Bool := c.isAlpha

/-- Characters without a meaning of their own in any part. -/
def isUnreserved (c : Char) : Bool := c.isAlphanum || "-._~".toList.contains c

/-- Characters that divide what a part holds. -/
def isSubDelimiter (c : Char) : Bool := "!$&'()*+,;=".toList.contains c

def isHexDigit (c : Char) : Bool :=
  c.isDigit || ('a' ≤ c && c ≤ 'f') || ('A' ≤ c && c ≤ 'F')

/-- Drops the longest run of characters with the property and of octets written with a percent
sign. -/
def skipRun (p : Char → Bool) : List Char → List Char
  | '%' :: a :: b :: rest =>
    if isHexDigit a && isHexDigit b then skipRun p rest else '%' :: a :: b :: rest
  | c :: rest => if p c then skipRun p rest else c :: rest
  | [] => []

/-- Characters of a segment of a path. -/
def isSegmentChar (c : Char) : Bool :=
  isUnreserved c || isSubDelimiter c || c == ':' || c == '@'

/-- A segment of a path can start here. -/
def startsSegment : List Char → Bool
  | '%' :: a :: b :: _ => isHexDigit a && isHexDigit b
  | c :: _ => isSegmentChar c
  | [] => false

/-- The segments of a path, each after a slash. -/
def skipSegments : List Char → (fuel : Nat) → List Char
  | '/' :: rest, fuel + 1 => skipSegments (skipRun isSegmentChar rest) fuel
  | cs, _ => cs

/-- A path whose first segment is not empty, up to its end. -/
def skipPath (first : Char → Bool) (cs : List Char) : List Char :=
  skipSegments (skipRun first cs) cs.length

/-- A number from 0 to 255 in decimal digits. -/
def octet? : List Char → Option (List Char)
  | a :: rest =>
    if !a.isDigit then none
    else
      match rest with
      | b :: rest' =>
        if !b.isDigit then some rest
        else
          match rest' with
          | c :: rest'' =>
            if !c.isDigit then (if a != '0' then some rest' else none)
            else if a == '1' then some rest''
            else if a == '2' && b ≤ '4' then some rest''
            else if a == '2' && b == '5' && c ≤ '5' then some rest''
            else none
          | [] => if a != '0' then some rest' else none
      | [] => some rest
  | [] => none

/-- A dot. -/
def dot? : List Char → Option (List Char)
  | '.' :: rest => some rest
  | _ => none

/-- Four octets with dots between them. -/
def address? (cs : List Char) : Option (List Char) := do
  let cs ← octet? cs
  let cs ← octet? (← dot? cs)
  let cs ← octet? (← dot? cs)
  octet? (← dot? cs)

/-- A host: anything in square brackets, an address in octets, or a name, which may be empty. -/
def host? (cs : List Char) : Option (List Char) :=
  match cs with
  | '[' :: rest =>
    match rest.dropWhile (· != ']') with
    | _ :: rest => some rest
    | [] => none
  | _ =>
    match address? cs with
    | some rest => some rest
    | none => some (skipRun (fun c => isUnreserved c || isSubDelimiter c) cs)

/-- What comes after a user and an at sign, if they are there. -/
def skipUser (cs : List Char) : List Char :=
  match skipRun (fun c => isUnreserved c || isSubDelimiter c || c == ':') cs with
  | '@' :: rest => rest
  | _ => cs

/-- A number of at least one digit that a signed word of 32 bits holds. -/
def number? (cs : List Char) : Option (List Char) :=
  let digits := cs.takeWhile Char.isDigit
  let value := digits.foldl (fun n c => n * 10 + (c.toNat - '0'.toNat)) 0
  if digits.isEmpty || 2147483647 < value then none else some (cs.dropWhile Char.isDigit)

/-- A host with a user before it and a number after it, if they are there. -/
def authority? (cs : List Char) : Option (List Char) := do
  match ← host? (skipUser cs) with
  | ':' :: rest => number? rest
  | rest => some rest

/-- The part of a reference before its query. `first` are the characters of a first segment. -/
def hierarchy? (first : Char → Bool) (cs : List Char) : Option (List Char) :=
  match cs with
  | '/' :: '/' :: rest => (authority? rest).map fun rest => skipSegments rest rest.length
  | '/' :: rest => some (if startsSegment rest then skipPath isSegmentChar rest else rest)
  | _ => some (if startsSegment cs then skipPath first cs else cs)

/-- A query after a question mark, if it is there. -/
def skipQuery : List Char → List Char
  | '?' :: rest => skipRun (fun c => isSegmentChar c || c == '/' || c == '?') rest
  | cs => cs

/-- A fragment after a number sign, if it is there. -/
def skipFragment : List Char → List Char
  | '#' :: rest =>
    skipRun (fun c => isSegmentChar c || c == '/' || c == '?' || c == '[' || c == ']') rest
  | cs => cs

/-- A hierarchy, a query and a fragment make up the whole text. -/
def isComplete (first : Char → Bool) (cs : List Char) : Bool :=
  match hierarchy? first cs with
  | some rest => (skipFragment (skipQuery rest)).isEmpty
  | none => false

/-- A URI with its scheme. -/
def isAbsolute (cs : List Char) : Bool :=
  match cs with
  | [] => false
  | c :: rest =>
    isLetter c
      && (match rest.dropWhile fun c => c.isAlphanum || "+-.".toList.contains c with
        | ':' :: rest => isComplete isSegmentChar rest
        | _ => false)

/-- A reference without a scheme, whose first segment holds no colon. -/
def isRelative (cs : List Char) : Bool :=
  isComplete (fun c => isSegmentChar c && c != ':') cs

end PrivilegeCatalog.Xml.UriReference

namespace PrivilegeCatalog.Xml

/-- A text that may name a namespace. -/
def isUriReference (s : String) : Bool :=
  UriReference.isAbsolute s.toList || UriReference.isRelative s.toList

end PrivilegeCatalog.Xml
