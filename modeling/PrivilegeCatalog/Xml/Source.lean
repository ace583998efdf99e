import PrivilegeCatalog.Encoding
import PrivilegeCatalog.Xml.Declaration
import PrivilegeCatalog.Xml.Scan

/-!
# Sources of documents

A document is given as stored bytes or as text. The encoding of bytes is told by a byte order
mark, by the form of the first two characters, or by the XML declaration, in this order; without
any of them it is UTF-8. What a declaration says about the encoding of a text does not count.
-/

namespace PrivilegeCatalog.Xml

/-- A document as it is given. -/
inductive Content
  | bytes (octets : Bytes)
  | text (s : String)
  deriving DecidableEq, Repr

/-- The characters without a byte order mark at their start. -/
def dropMark (cs : List Char) : List Char :=
  match cs with
  | '\ufeff' :: rest => rest
  | _ => cs

/-- The characters up to the end of the first instruction. -/
def firstInstruction : List Char → List Char
  | '?' :: '>' :: _ => []
  | c :: rest => c :: firstInstruction rest
  | [] => []

/-- The encoding that the XML declaration of some bytes names. -/
def declaredEncoding? (bytes : Bytes) : Option String := do
  let head := (bytes.takeWhile (· < 0x80)).map fun b => Char.ofNat b.toNat
  let text ← after? "<?xml" head
  (← Declaration.ofText (firstInstruction text)).encoding

/-- The characters of bytes in an encoding; if some are none of that encoding, only UTF-8 gives
those before them. -/
def decodeAs (encoding : Encoding) (bytes : Bytes) : Decoded :=
  let decoded := encoding.decode bytes
  match encoding with
  | .utf8 => decoded
  | _ => if decoded.complete then decoded else ⟨[], false⟩

/-- The characters of a stored document. There are none of one that declares an encoding which is
not known, or which its first octets rule out. -/
def decodeDocument (bytes : Bytes) : Decoded :=
  match bytes with
  | 0xFF :: 0xFE :: rest => decodeAs .utf16le rest
  | 0xFE :: 0xFF :: rest => decodeAs .utf16be rest
  | 0xEF :: 0xBB :: 0xBF :: rest => decodeAs .utf8 rest
  | 0x3C :: 0x00 :: 0x3F :: 0x00 :: _ => decodeAs .utf16le bytes
  | 0x00 :: 0x3C :: 0x00 :: 0x3F :: _ => decodeAs .utf16be bytes
  | _ =>
    match declaredEncoding? bytes with
    | none => decodeAs .utf8 bytes
    | some name =>
      match Encoding.ofName? name with
      | some .utf8 => decodeAs .utf8 bytes
      | some .latin1 => decodeAs .latin1 bytes
      | some .ascii => decodeAs .ascii bytes
      | some .utf16 | some .utf16le | some .utf16be | none => ⟨[], false⟩

namespace Content

/-- A character that counts as nothing in a document that is empty. -/
def isFiller (n : Nat) : Bool := n == 0x20 || (0x09 ≤ n && n ≤ 0x0D)

/-- A document of fillers alone. -/
def isEmpty : Content → Bool
  | .bytes octets => octets.all fun b => isFiller b.toNat
  | .text s => s.toList.all fun c => isFiller c.toNat

/-- The characters of a document. -/
def decoded : Content → Decoded
  | .bytes octets => decodeDocument octets
  | .text s => ⟨dropMark s.toList, true⟩

/-- What a document tells. -/
def document (content : Content) : Document :=
  let decoded := content.decoded
  let document := Document.ofChars decoded.chars
  { document with wellFormed := document.wellFormed && decoded.complete }

end Content

end PrivilegeCatalog.Xml
