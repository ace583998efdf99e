import PrivilegeCatalog.Xml.AttributeValue
import PrivilegeCatalog.Xml.Declaration

/-!
# Reading a document type declaration

The declarations between the brackets of a document type declaration: of elements, whose content
models are only checked; of attributes, entities and notations; comments and instructions; and
references to parameter entities, which stand for further declarations. `Doctype.ofText` reads
what stands between `<!DOCTYPE` and the closing `>`.
-/

namespace PrivilegeCatalog.Xml

namespace DoctypeParser

/-! ## Pieces -/

/-- One of the characters, dropped if it comes next. -/
def skipOne (marks : String) (cs : List Char) : List Char :=
  match cs with
  | c :: rest => if marks.toList.contains c then rest else cs
  | [] => []

/-- A token, which may start with any character of a name. -/
def token? (cs : List Char) : Option (List Char × List Char) :=
  let token := cs.takeWhile isWordChar
  if token.isEmpty then none else some (token, cs.dropWhile isWordChar)

/-- The rest after a comment whose opening has been read. -/
def comment? : List Char → Option (List Char)
  | '-' :: '-' :: '>' :: rest => some rest
  | '-' :: '-' :: _ => none
  | _ :: rest => comment? rest
  | [] => none

/-- The text of an instruction whose opening has been read. -/
def instruction? : List Char → Option (List Char × List Char)
  | '?' :: '>' :: rest => some ([], rest)
  | c :: rest => (instruction? rest).map fun (text, more) => (c :: text, more)
  | [] => none

/-- Characters of a public identifier. -/
def isPublicChar (c : Char) : Bool :=
  c == ' ' || c == '\r' || c == '\n' || c.isAlphanum || "-'()+,./:=?;!*#@$_%".toList.contains c

/-- A public identifier between quotes. -/
def publicId? (cs : List Char) : Option (List Char) := do
  let (text, rest) ← quoted? cs
  if text.all isPublicChar then some rest else none

/-- Where something stands that is not in the document. -/
def externalId? (cs : List Char) : Option (List Char × List Char) :=
  match after? "SYSTEM" cs with
  | some rest => do quoted? (← needBlanks rest)
  | none => do
    let rest ← publicId? (← needBlanks (← after? "PUBLIC" cs))
    quoted? (← needBlanks rest)

/-- Alternatives between bars, up to a closing parenthesis; the first has been read. -/
def alternatives? (item : List Char → Option (List Char × List Char)) : (fuel : Nat) → List Char →
    Option (List Char)
  | 0, _ => none
  | fuel + 1, cs =>
    match skipBlanks cs with
    | ')' :: rest => some rest
    | '|' :: rest => do
      let (_, rest) ← item (skipBlanks rest)
      alternatives? item fuel rest
    | _ => none

/-- A group of alternatives whose opening parenthesis has been read. -/
def group? (item : List Char → Option (List Char × List Char)) (cs : List Char) :
    Option (List Char) := do
  let (_, rest) ← item (skipBlanks cs)
  alternatives? item rest.length rest

/-! ## Elements -/

mutual

/-- A part of a content model: a name or a group, and how often it may occur. -/
def particle? : (fuel : Nat) → List Char → Option (List Char)
  | 0, _ => none
  | fuel + 1, '(' :: rest => do
    let rest ← particle? fuel (skipBlanks rest)
    let rest ← particles? fuel none (skipBlanks rest)
    some (skipOne "?*+" rest)
  | _, cs => do
    let (_, rest) ← word? cs
    some (skipOne "?*+" rest)

/-- The further parts of a group, with one separator between all of them. -/
def particles? : (fuel : Nat) → Option Char → List Char → Option (List Char)
  | 0, _, _ => none
  | _ + 1, _, ')' :: rest => some rest
  | fuel + 1, separator, c :: rest =>
    if (c == ',' || c == '|') && (separator.isNone || separator == some c) then do
      let rest ← particle? fuel (skipBlanks rest)
      particles? fuel (some c) (skipBlanks rest)
    else none
  | _, _, [] => none

end

/-- The names in content that mixes text and elements, up to the end of the group. -/
def mixed? (cs : List Char) : Option (List Char) :=
  match skipBlanks cs with
  | ')' :: rest => some (skipOne "*" rest)
  | cs => do
    let rest ← alternatives? word? cs.length cs
    after? "*" rest

/-- A content model. -/
def contentModel? (cs : List Char) : Option (List Char) :=
  match after? "EMPTY" cs, after? "ANY" cs, cs with
  | some rest, _, _ => some rest
  | _, some rest, _ => some rest
  | _, _, '(' :: rest =>
    match after? "#PCDATA" (skipBlanks rest) with
    | some rest => mixed? rest
    | none => particle? cs.length cs
  | _, _, _ => none

/-- The rest after a declaration of an element. -/
def element? (cs : List Char) : Option (List Char) := do
  let (_, rest) ← word? (← needBlanks cs)
  let rest ← contentModel? (← needBlanks rest)
  after? ">" (skipBlanks rest)

/-! ## Attributes -/

/-- The words for types of attributes; all but the first are types of tokens. -/
def typeWords : List String :=
  ["CDATA", "IDREFS", "IDREF", "ID", "ENTITY", "ENTITIES", "NMTOKENS", "NMTOKEN"]

/-- The type of an attribute: whether its value is made up of tokens. -/
def attributeType? (cs : List Char) : Option (Bool × List Char) :=
  match typeWords.findSome? fun w => (after? w cs).map (w, ·) with
  | some (w, rest) => some (w != "CDATA", rest)
  | none =>
    match after? "NOTATION" cs with
    | some rest => do return (true, ← group? word? (← after? "(" (← needBlanks rest)))
    | none => do return (true, ← group? token? (← after? "(" cs))

/-- A default between quotes. -/
def quotedFallback? (d : Doctype) (standalone : Bool) (cs : List Char) :
    Option (Option (List Char) × List Char) := do
  let (text, rest) ← quoted? cs
  let (value, _) ← attributeValue d standalone text expansionLimit
  return (some value, rest)

/-- The default of an attribute, if it has one. -/
def fallback? (d : Doctype) (standalone : Bool) (cs : List Char) :
    Option (Option (List Char) × List Char) :=
  match after? "#REQUIRED" cs, after? "#IMPLIED" cs with
  | some rest, _ => some (none, rest)
  | _, some rest => some (none, rest)
  | none, none =>
    match after? "#FIXED" cs with
    | some rest => do quotedFallback? d standalone (← needBlanks rest)
    | none => quotedFallback? d standalone cs

/-- The rules for the attributes of an element, up to the end of the declaration. -/
def rules? (standalone : Bool) (element : List Char) : (fuel : Nat) → Doctype → List Char →
    Option (Doctype × List Char)
  | 0, _, _ => none
  | fuel + 1, d, cs =>
    match cs with
    | '>' :: rest => some (d, rest)
    | _ => do
      let (key, rest) ← word? cs
      let (isTokens, rest) ← attributeType? (← needBlanks rest)
      let (fallback, rest) ← fallback? d standalone (← needBlanks rest)
      let fallback := if isTokens then fallback.map tokens else fallback
      let d := d.addRule ⟨element, key, isTokens, fallback⟩
      match rest with
      | '>' :: rest => some (d, rest)
      | _ => rules? standalone element fuel d (← needBlanks rest)

/-- A declaration of attributes. -/
def attributes? (standalone : Bool) (d : Doctype) (cs : List Char) :
    Option (Doctype × List Char) := do
  let (element, rest) ← word? (← needBlanks cs)
  rules? standalone element (rest.length + 1) d (skipBlanks rest)

/-! ## Entities and notations -/

/-- A text of an entity in the making: the characters in reverse, and the reference being read. -/
abbrev EntityDraft := List Char × Option (List Char)

/-- The text of an entity with one more character: references to characters are replaced, others
stay as they are, and no parameter entity may stand here. -/
def entityStep (d : EntityDraft) (c : Char) : Option EntityDraft :=
  match d with
  | (soFar, some body) =>
    if c == ';' then
      match Reference.ofText body.reverse with
      | some (.character c) => some (c :: soFar, none)
      | some (.entity _) => some (';' :: (body ++ '&' :: soFar), none)
      | none => none
    else some (soFar, some (c :: body))
  | (soFar, none) =>
    if c == '&' then some (soFar, some [])
    else if c == '%' then none
    else some (c :: soFar, none)

/-- The text that an entity stands for, from the text between its quotes. -/
def entityText? (text : List Char) : Option (List Char) :=
  match (joinLineEnds text).foldlM entityStep ([], none) with
  | some (soFar, none) => some soFar.reverse
  | _ => none

/-- An entity that stands elsewhere. Its place may not name a part of what stands there. -/
def elsewhere? (cs : List Char) : Option (List Char) := do
  let (system, rest) ← externalId? cs
  if system.contains '#' then none else some rest

/-- The data of an unparsed entity: the name of its notation, if there is one. -/
def data? (cs : List Char) : Option (Entity × List Char) :=
  match cs with
  | '>' :: _ => some (.elsewhere, cs)
  | _ => do
    let rest ← needBlanks cs
    match after? "NDATA" rest with
    | some rest => do
      let (_, rest) ← word? (← needBlanks rest)
      return (.data, rest)
    | none => return (.elsewhere, rest)

/-- Whether an entity is a parameter entity, which has a percent sign before its name, and its
name. -/
def entityName? (cs : List Char) : Option (Bool × List Char × List Char) :=
  match after? "%" cs with
  | some rest => do
    let (name, rest) ← word? (← needBlanks rest)
    return (true, name, rest)
  | none => (word? cs).map (false, ·)

/-- What an entity stands for. Data is no parameter entity. -/
def entityValue? (parameter : Bool) (cs : List Char) : Option (Entity × List Char) :=
  match quoted? cs with
  | some (text, rest) => (entityText? text).map fun text => (.within text, rest)
  | none => do
    let rest ← elsewhere? cs
    if parameter then some (.elsewhere, rest) else data? rest

/-- The document type with one more entity. -/
def withEntity (d : Doctype) (parameter : Bool) (name : List Char) (e : Entity) : Doctype :=
  let d := { d with sound := d.sound && !name.contains ':' }
  let key := String.ofList name
  if parameter then { d with parameterEntities := Doctype.addEntity key e d.parameterEntities }
  else { d with entities := Doctype.addEntity key e d.entities }

/-- A declaration of an entity. -/
def entity? (d : Doctype) (cs : List Char) : Option (Doctype × List Char) := do
  let (parameter, name, rest) ← entityName? (← needBlanks cs)
  let (e, rest) ← entityValue? parameter (← needBlanks rest)
  let rest ← after? ">" (skipBlanks rest)
  return (withEntity d parameter name e, rest)

/-- The identifier of a notation: public, with a place after it or without one, or a place
alone. -/
def notationId? (cs : List Char) : Option (List Char) :=
  match after? "PUBLIC" cs with
  | some rest => do
    let rest ← publicId? (← needBlanks rest)
    match (needBlanks rest).bind quoted? with
    | some (_, more) => some more
    | none => some rest
  | none => (externalId? cs).map (·.2)

/-- A declaration of a notation. -/
def notation? (d : Doctype) (cs : List Char) : Option (Doctype × List Char) := do
  let (name, rest) ← word? (← needBlanks cs)
  let rest ← notationId? (← needBlanks rest)
  let rest ← after? ">" (skipBlanks rest)
  return ({ d with sound := d.sound && !name.contains ':' }, rest)

/-! ## The list of declarations -/

/-- One declaration, whose opening `<!` or `<?` has not been read. -/
def declaration? (standalone : Bool) (d : Doctype) (cs : List Char) :
    Option (Doctype × List Char) :=
  match after? "<!--" cs, after? "<?" cs with
  | some rest, _ => (comment? rest).map (d, ·)
  | _, some rest => do
    let (text, rest) ← instruction? rest
    match ← Instruction.ofText false text with
    | .instruction sound => return ({ d with sound := d.sound && sound }, rest)
    | .declaration _ => none
  | none, none =>
    match after? "<!ELEMENT" cs, after? "<!ATTLIST" cs, after? "<!ENTITY" cs,
      after? "<!NOTATION" cs with
    | some rest, _, _, _ => (element? rest).map (d, ·)
    | _, some rest, _, _ => attributes? standalone d rest
    | _, _, some rest, _ => entity? d rest
    | _, _, _, some rest => notation? d rest
    | _, _, _, _ => none

/-- The document type after a reference to a parameter entity. `nested` reads the text of one.
From the first reference on there may be declarations that are not seen, so that an unknown entity
is a fault only in a document that stands alone. -/
def parameter? (standalone : Bool)
    (nested : Doctype → List Char → Option (Doctype × List Char)) (d : Doctype) (cs : List Char) :
    Option (Doctype × List Char) := do
  let (name, rest) ← word? cs
  let rest ← after? ";" rest
  let d := { d with parameters := true }
  match d.parameterEntities.lookup (String.ofList name) with
  | none => if d.mayHide standalone then return (d, rest) else none
  | some (.within text) =>
    let (d, left) ← nested d text
    if left.isEmpty then return (d, rest) else none
  | some _ => return (d, rest)

/-- Declarations up to a closing bracket or the end of the text. -/
def declarations? (standalone : Bool)
    (nested : Doctype → List Char → Option (Doctype × List Char)) :
    (fuel : Nat) → Doctype → List Char → Option (Doctype × List Char)
  | 0, _, _ => none
  | fuel + 1, d, cs =>
    match skipBlanks cs with
    | [] => some (d, [])
    | ']' :: rest => some (d, ']' :: rest)
    | '%' :: rest => do
      let (d, rest) ← parameter? standalone nested d rest
      declarations? standalone nested fuel d rest
    | cs => do
      let (d, rest) ← declaration? standalone d cs
      declarations? standalone nested fuel d rest

/-- Declarations, with parameter entities in them down to some depth. -/
def subset? (standalone : Bool) :
    (depth : Nat) → Doctype → List Char → Option (Doctype × List Char)
  | 0, _, _ => none
  | depth + 1, d, cs =>
    declarations? standalone (subset? standalone depth) (cs.length + 1) d cs

/-- How deep parameter entities may stand in one another. -/
def parameterDepth : Nat := 40

/-- Whether there is a subset of declarations that stands elsewhere, and the rest after its
place. -/
def externalSubset? (cs : List Char) : Option (Bool × List Char) :=
  match after? "SYSTEM" cs, after? "PUBLIC" cs with
  | none, none => some (false, cs)
  | _, _ => (externalId? cs).map fun (_, rest) => (true, skipBlanks rest)

/-- The document type after the declarations between brackets, if there are any. -/
def internalSubset? (standalone : Bool) (d : Doctype) (cs : List Char) : Option Doctype :=
  match cs with
  | [] => some d
  | '[' :: rest => do
    let (d, rest) ← subset? standalone parameterDepth d rest
    match rest with
    | ']' :: rest => if (skipBlanks rest).isEmpty then some d else none
    | _ => none
  | _ => none

end DoctypeParser

open DoctypeParser in
/-- The document type of a declaration, from what stands between `<!DOCTYPE` and the closing
`>`. -/
def Doctype.ofText (standalone : Bool) (cs : List Char) : Option Doctype := do
  let (_, rest) ← word? (← needBlanks cs)
  let (external, rest) ← externalSubset? (skipBlanks rest)
  internalSubset? standalone { external } rest

end PrivilegeCatalog.Xml
