import PrivilegeCatalog.Text.LowerCase

/-!
# Character encodings

The encodings in which a document is stored, by the names that a document or a caller may give
them. `Encoding.encodeChar?` and `Encoding.decode` are the two directions. Decoding keeps the
characters before the first fault.

All other encodings are left out, among them those of single octets other than ISO 8859-1 and
ASCII and those of four octets for each character: their names are unknown when a document is
written, and a document that declares one of them is malformed when it is read.
-/

namespace PrivilegeCatalog

/-- A stored document or a part of one. -/
abbrev Bytes := List UInt8

/-- The encodings that documents are stored in. `utf16` begins with a byte order mark. -/
inductive Encoding
  | utf8
  | utf16
  | utf16le
  | utf16be
  | latin1
  | ascii
  deriving DecidableEq, Repr

/-- Decoded characters, and whether they are all that the bytes hold. -/
structure Decoded where
  chars : List Char
  complete : Bool
  deriving DecidableEq, Repr

/-- One more character before decoded ones. -/
def Decoded.cons (c : Char) (rest : Decoded) : Decoded := { rest with chars := c :: rest.chars }

namespace Encoding

/-- The names of the encodings that are known, in lower case. -/
def names : List (String × Encoding) :=
  [("utf-8", .utf8), ("utf8", .utf8),
    ("utf-16", .utf16), ("utf16", .utf16),
    ("utf-16le", .utf16le), ("utf-16be", .utf16be),
    ("iso-8859-1", .latin1), ("iso8859-1", .latin1), ("iso_8859-1", .latin1),
    ("latin1", .latin1), ("l1", .latin1), ("cp819", .latin1), ("ibm819", .latin1),
    ("us-ascii", .ascii), ("ascii", .ascii), ("us", .ascii), ("cp367", .ascii),
    ("ibm367", .ascii), ("iso646-us", .ascii), ("csascii", .ascii)]

/-- The encoding of a name, whatever its case. -/
def ofName? (name : String) : Option Encoding := names.lookup (Text.foldAscii name)

/-- The mark at the start of each piece of text that is encoded by itself. -/
def mark : Encoding → Bytes
  | utf16 => [0xFF, 0xFE]
  | _ => []

/-- The octets of a character in one to four groups of bits. -/
def utf8Char (c : Char) : Bytes :=
  let n := c.toNat
  let tail := fun k : Nat => UInt8.ofNat (0x80 + k % 64)
  if n < 0x80 then [UInt8.ofNat n]
  else if n < 0x800 then [UInt8.ofNat (0xC0 + n / 64), tail n]
  else if n < 0x10000 then [UInt8.ofNat (0xE0 + n / 4096), tail (n / 64), tail n]
  else [UInt8.ofNat (0xF0 + n / 262144), tail (n / 4096), tail (n / 64), tail n]

/-- A character as one or two units of sixteen bits. -/
def utf16Units (c : Char) : List Nat :=
  let n := c.toNat
  if n < 0x10000 then [n]
  else [0xD800 + (n - 0x10000) / 1024, 0xDC00 + (n - 0x10000) % 1024]

/-- A unit with its low octet first. -/
def unitLow (n : Nat) : Bytes := [UInt8.ofNat (n % 256), UInt8.ofNat (n / 256)]

/-- A unit with its high octet first. -/
def unitHigh (n : Nat) : Bytes := [UInt8.ofNat (n / 256), UInt8.ofNat (n % 256)]

/-- A character, if the encoding has it. -/
def encodeChar? : Encoding → Char → Option Bytes
  | utf8, c => some (utf8Char c)
  | utf16, c | utf16le, c => some ((utf16Units c).flatMap unitLow)
  | utf16be, c => some ((utf16Units c).flatMap unitHigh)
  | latin1, c => if c.toNat < 0x100 then some [UInt8.ofNat c.toNat] else none
  | ascii, c => if c.toNat < 0x80 then some [UInt8.ofNat c.toNat] else none

/-- A text whose characters the encoding has, without a mark. Other characters are left out. -/
def encode (e : Encoding) (cs : List Char) : Bytes :=
  cs.flatMap fun c => (e.encodeChar? c).getD []

/-- A continuation octet of UTF-8. -/
def isTail (b : UInt8) : Bool := 0x80 ≤ b && b < 0xC0

/-- The low six bits of an octet. -/
def sixBits (b : UInt8) : Nat := b.toNat % 64

/-- Decodes UTF-8: shortest forms only, no surrogates, nothing above U+10FFFF. -/
def decodeUtf8 : Bytes → Decoded
  | [] => ⟨[], true⟩
  | a :: rest =>
    if a < 0x80 then (decodeUtf8 rest).cons (Char.ofNat a.toNat)
    else
      match rest with
      | [] => ⟨[], false⟩
      | b :: rest =>
        if 0xC2 ≤ a && a < 0xE0 && isTail b then
          (decodeUtf8 rest).cons (Char.ofNat ((a.toNat % 32) * 64 + sixBits b))
        else
          match rest with
          | [] => ⟨[], false⟩
          | c :: rest =>
            let three := (a.toNat % 16) * 4096 + sixBits b * 64 + sixBits c
            if 0xE0 ≤ a && a < 0xF0 && isTail b && isTail c && 0x800 ≤ three
                && !(0xD800 ≤ three && three < 0xE000) then
              (decodeUtf8 rest).cons (Char.ofNat three)
            else
              match rest with
              | [] => ⟨[], false⟩
              | d :: rest =>
                let four := (a.toNat % 8) * 262144 + sixBits b * 4096 + sixBits c * 64 + sixBits d
                if 0xF0 ≤ a && a < 0xF8 && isTail b && isTail c && isTail d && 0x10000 ≤ four
                    && four < 0x110000 then
                  (decodeUtf8 rest).cons (Char.ofNat four)
                else ⟨[], false⟩

/-- The units of a text in octets, in the given order, and whether no octet is left over. -/
def unitsOf (highFirst : Bool) : Bytes → List Nat × Bool
  | [] => ([], true)
  | [_] => ([], false)
  | a :: b :: rest =>
    let (units, whole) := unitsOf highFirst rest
    ((if highFirst then a.toNat * 256 + b.toNat else b.toNat * 256 + a.toNat) :: units, whole)

/-- Decodes units of sixteen bits. -/
def decodeUnits : List Nat → Decoded
  | [] => ⟨[], true⟩
  | u :: rest =>
    if 0xD800 ≤ u && u < 0xDC00 then
      match rest with
      | v :: rest =>
        if 0xDC00 ≤ v && v < 0xE000 then
          (decodeUnits rest).cons (Char.ofNat (0x10000 + (u - 0xD800) * 1024 + (v - 0xDC00)))
        else ⟨[], false⟩
      | [] => ⟨[], false⟩
    else if 0xDC00 ≤ u && u < 0xE000 then ⟨[], false⟩
    else (decodeUnits rest).cons (Char.ofNat u)

/-- Decodes octets in pairs. -/
def decodeUtf16 (highFirst : Bool) (bytes : Bytes) : Decoded :=
  let (units, whole) := unitsOf highFirst bytes
  let decoded := decodeUnits units
  { decoded with complete := decoded.complete && whole }

/-- Decodes octets that are characters by themselves, those below the limit. -/
def decodeSingle (limit : Nat) : Bytes → Decoded
  | [] => ⟨[], true⟩
  | a :: rest =>
    if a.toNat < limit then (decodeSingle limit rest).cons (Char.ofNat a.toNat) else ⟨[], false⟩

/-- Decodes a text; a byte order mark that the encoding asks for is taken off and tells the
order. -/
def decode : Encoding → Bytes → Decoded
  | utf8, bytes => decodeUtf8 bytes
  | utf16, 0xFF :: 0xFE :: rest => decodeUtf16 false rest
  | utf16, 0xFE :: 0xFF :: rest => decodeUtf16 true rest
  | utf16, bytes => decodeUtf16 false bytes
  | utf16le, bytes => decodeUtf16 false bytes
  | utf16be, bytes => decodeUtf16 true bytes
  | latin1, bytes => decodeSingle 0x100 bytes
  | ascii, bytes => decodeSingle 0x80 bytes

end Encoding

end PrivilegeCatalog
