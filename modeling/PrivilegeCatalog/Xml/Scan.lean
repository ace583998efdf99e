import PrivilegeCatalog.Xml.Doctype.Parser
import PrivilegeCatalog.Xml.Element

/-!
# Scanning a document

A document is read one character at a time. `Scan` is what is known after some characters: the
place in the markup, the elements that are open, the events so far, and whether the rules of
namespaces have been kept. A fault of form leads to the mode `broken`, which no character leaves,
so the events are those before the fault. `Document.ofChars` scans a whole document.

A reference to an entity stays a reference: the text of the entity has to be well formed, but what
stands in it gives no events, neither elements nor declarations of namespaces. How deep such texts
may stand in one another is bounded by the number of entities alone, and their size by the
allowance; further limits that a parser may set itself are left out.
-/

namespace PrivilegeCatalog.Xml

/-- The part of a document that a place is in. A fragment is the text of an entity. -/
inductive Stage
  | start
  | prolog
  | content
  | epilog
  | fragment
  deriving DecidableEq, Repr

/-- What is being read. Texts are held in reverse; `closers` counts the characters of the ending
that have just been read. -/
inductive Mode
  | text (closers : Nat)
  | markup (first : Bool)
  | bang (soFar : List Char)
  | startTag (draft : TagDraft)
  | endTag (draft : EndDraft)
  | comment (closers : Nat)
  | characterData (closers : Nat)
  | instruction (first : Bool) (soFar : List Char)
  | doctype (soFar : List Char)
  | reference (soFar : List Char)
  | broken
  deriving DecidableEq, Repr

/-- An element whose end tag has not been read. -/
structure OpenElement where
  name : List Char
  scope : Scope
  deriving DecidableEq, Repr

/-- What is known of a document after some of its characters. The events are held in reverse. -/
structure Scan where
  mode : Mode := .text 0
  stage : Stage := .start
  line : Nat := 1
  elements : List OpenElement := []
  events : List Event := []
  sound : Bool := true
  standalone : Bool := false
  doctype : Option Doctype := none
  allowance : Nat := expansionLimit
  deriving DecidableEq, Repr

/-- How deep elements may stand in one another. -/
def elementDepth : Nat := 256

/-- The openings of markup that starts with an exclamation mark. -/
def bangOpenings : List String := ["--", "[CDATA[", "DOCTYPE"]

/-- What comes of a reference to an entity in content: the allowance that is left, and whether the
text of the entity keeps the rules of namespaces; nothing if the document is broken by it. -/
abbrev Refer := Doctype → Bool → Nat → String → Option (Nat × Bool)

namespace Scan

/-- The scan of a document that has a fault of form. -/
def fail (s : Scan) : Scan := { s with mode := .broken }

/-- The scan back in text. -/
def toText (s : Scan) : Scan := { s with mode := .text 0 }

/-- The document type, as far as one is known. -/
def type (s : Scan) : Doctype := s.doctype.getD {}

/-- The namespaces around the place. -/
def scope (s : Scan) : Scope :=
  match s.elements with
  | e :: _ => e.scope
  | [] => []

/-- Text may stand here. -/
def inContent (s : Scan) : Bool := s.stage == .content || s.stage == .fragment

/-- Elements may start here. -/
def takesElement (s : Scan) : Bool :=
  match s.stage with
  | .prolog | .content | .fragment => true
  | .start | .epilog => false

/-- The stage after the innermost element has ended, when the given ones are still open. -/
def stageAfter (stage : Stage) (left : List OpenElement) : Stage :=
  match stage, left with
  | .content, [] => .epilog
  | stage, _ => stage

/-- After the `>` of a start tag. -/
def startElement (s : Scan) (draft : TagDraft) : Scan :=
  match Element.ofDraft s.type s.standalone s.scope s.line s.allowance draft with
  | none => s.fail
  | some e =>
    let declared := (e.declarations.map fun (label, uri) => Event.declares label uri).reverse
    let stage := if s.stage == .prolog then .content else s.stage
    let s := { s with sound := s.sound && e.sound, allowance := e.allowance, stage }
    if elementDepth ≤ s.elements.length then { s with events := declared ++ s.events }.fail
    else if draft.isEmptyElement then
      { s with
        mode := .text 0
        stage := stageAfter stage s.elements
        events := .ends :: .starts e.tag :: (declared ++ s.events) }
    else
      { s with
        mode := .text 0
        elements := ⟨draft.word, e.scope⟩ :: s.elements
        events := .starts e.tag :: (declared ++ s.events) }

/-- After the `>` of an end tag. -/
def endElement (s : Scan) (draft : EndDraft) : Scan :=
  match s.elements with
  | e :: left =>
    if e.name == draft.word then
      { s with
        mode := .text 0
        stage := stageAfter s.stage left
        elements := left
        events := .ends :: s.events }
    else s.fail
  | [] => s.fail

/-- After the `?>` of an instruction. -/
def instruct (s : Scan) (first : Bool) (text : List Char) : Scan :=
  match Instruction.ofText first text with
  | some (.declaration d) => { s.toText with standalone := d.standalone }
  | some (.instruction sound) => { s.toText with sound := s.sound && sound }
  | none => s.fail

/-- After the semicolon of a reference in content. The text of an entity has been looked through,
and gives no events. -/
def refer (resolve : Refer) (s : Scan) (body : List Char) : Scan :=
  match Reference.ofText body with
  | some (.character _) => s.toText
  | some (.entity name) =>
    if (predefinedEntities.lookup name).isSome then s.toText
    else
      match resolve s.type s.standalone s.allowance name with
      | some (allowance, sound) => { s.toText with allowance, sound := s.sound && sound }
      | none => s.fail
  | none => s.fail

/-- After a further character of markup that starts with an exclamation mark. -/
def openBang (s : Scan) (soFar : List Char) : Scan :=
  let opening := String.ofList soFar.reverse
  if opening = "--" then { s with mode := .comment 0 }
  else if opening = "[CDATA[" then
    if s.inContent then { s with mode := .characterData 0 } else s.fail
  else if opening = "DOCTYPE" then
    if s.stage == .prolog && s.doctype.isNone then { s with mode := .doctype [] } else s.fail
  else if bangOpenings.any fun o => soFar.reverse.isPrefixOf o.toList then
    { s with mode := .bang soFar }
  else s.fail

/-- A character between pieces of markup. -/
def stepText (s : Scan) (closers : Nat) (c : Char) : Scan :=
  if c == '<' then { s with mode := .markup (s.stage == .start) }
  else if s.inContent then
    if c == '&' then { s with mode := .reference [] }
    else if c == ']' then { s with mode := .text (min 2 (closers + 1)) }
    else if c == '>' && closers == 2 then s.fail
    else s.toText
  else if Text.isXmlBlank c then s
  else s.fail

/-- The character after `<`. -/
def stepMarkup (s : Scan) (first : Bool) (c : Char) : Scan :=
  if c == '!' then { s with mode := .bang [] }
  else if c == '?' then { s with mode := .instruction first [] }
  else if c == '/' then { s with mode := .endTag ⟨[], false⟩ }
  else if s.takesElement then
    match TagDraft.start? c with
    | some draft => { s with mode := .startTag draft }
    | none => s.fail
  else s.fail

/-- A character of a start tag. -/
def stepStartTag (s : Scan) (draft : TagDraft) (c : Char) : Scan :=
  if c == '>' && draft.canClose then s.startElement draft
  else
    match draft.step c with
    | some draft => { s with mode := .startTag draft }
    | none => s.fail

/-- A character of an end tag. -/
def stepEndTag (s : Scan) (draft : EndDraft) (c : Char) : Scan :=
  if c == '>' then s.endElement draft
  else
    match draft.step c with
    | some draft => { s with mode := .endTag draft }
    | none => s.fail

/-- A character of a comment, in which two hyphens may only stand at the end. -/
def stepComment (s : Scan) (closers : Nat) (c : Char) : Scan :=
  if closers == 2 then (if c == '>' then s.toText else s.fail)
  else { s with mode := .comment (if c == '-' then closers + 1 else 0) }

/-- A character of character data, which ends with `]]>`. -/
def stepCharacterData (s : Scan) (closers : Nat) (c : Char) : Scan :=
  if c == '>' && closers == 2 then s.toText
  else { s with mode := .characterData (if c == ']' then min 2 (closers + 1) else 0) }

/-- A character of an instruction, which ends with `?>`. -/
def stepInstruction (s : Scan) (first : Bool) (soFar : List Char) (c : Char) : Scan :=
  match c, soFar with
  | '>', '?' :: text => s.instruct first text.reverse
  | _, _ => { s with mode := .instruction first (c :: soFar) }

/-- A character of a document type declaration, which ends with the first `>` that completes
it. -/
def stepDoctype (s : Scan) (soFar : List Char) (c : Char) : Scan :=
  let more := { s with mode := .doctype (c :: soFar) }
  if c == '>' then
    match Doctype.ofText s.standalone soFar.reverse with
    | some d => { s.toText with doctype := some d, sound := s.sound && d.sound }
    | none => more
  else more

/-- A character of a reference in content. -/
def stepReference (resolve : Refer) (s : Scan) (soFar : List Char) (c : Char) : Scan :=
  if c == ';' then s.refer resolve soFar.reverse
  else { s with mode := .reference (c :: soFar) }

/-- The scan after a character in the given mode. -/
def stepMode (resolve : Refer) (s : Scan) (c : Char) : Scan :=
  match s.mode with
  | .text closers => s.stepText closers c
  | .markup first => s.stepMarkup first c
  | .bang soFar => s.openBang (c :: soFar)
  | .startTag draft => s.stepStartTag draft c
  | .endTag draft => s.stepEndTag draft c
  | .comment closers => s.stepComment closers c
  | .characterData closers => s.stepCharacterData closers c
  | .instruction first soFar => s.stepInstruction first soFar c
  | .doctype soFar => s.stepDoctype soFar c
  | .reference soFar => s.stepReference resolve soFar c
  | .broken => s

/-- The scan in which a character has been counted: a line feed ends a line, and no character
leaves the document at its start. -/
def count (s : Scan) (c : Char) : Scan :=
  { s with
    line := if c == '\n' then s.line + 1 else s.line
    stage := if s.stage == .start then .prolog else s.stage }

/-- The scan after one more character. -/
def step (resolve : Refer) (s : Scan) (c : Char) : Scan :=
  if isXmlChar c then (s.stepMode resolve c).count c else s.fail

/-- The scan after some more characters. -/
def run (resolve : Refer) (s : Scan) (cs : List Char) : Scan := cs.foldl (step resolve) s

/-- The place is between pieces of markup. -/
def isAtRest (s : Scan) : Bool :=
  match s.mode with
  | .text _ => true
  | _ => false

/-- The characters so far are a whole document. -/
def isWhole (s : Scan) : Bool := s.isAtRest && s.stage == .epilog && s.sound

end Scan

/-- What comes of an entity in content, with entities in it down to some depth. The text of an
entity has to be well formed by itself; the events of its scan are dropped. -/
def referTo : (depth : Nat) → Refer
  | depth, doctype, standalone, allowance, name =>
    match doctype.entities.lookup name with
    | none => if doctype.mayHide standalone then some (allowance, true) else none
    | some .elsewhere => some (allowance, true)
    | some .data => none
    | some (.within text) =>
      match depth, charge allowance text with
      | below + 1, some allowance =>
        let start : Scan :=
          { stage := .fragment, standalone, doctype := some doctype, allowance }
        let s := start.run (referTo below) text
        if s.isAtRest && s.elements.isEmpty then some (s.allowance, s.sound) else none
      | _, _ => none

/-- The scan of a document, whose entities may stand in one another as deep as there are
entities. -/
def Scan.ofChars (cs : List Char) : Scan :=
  Scan.run (fun doctype => referTo (doctype.entities.length + 1) doctype) {} cs

/-- What a document tells: its events, and whether it is a whole document that keeps the rules.
The events of a document that is not are those before its first fault of form. -/
structure Document where
  events : List Event
  wellFormed : Bool
  deriving DecidableEq, Repr

/-- The document that some characters make up. -/
def Document.ofChars (cs : List Char) : Document :=
  let scan := Scan.ofChars cs
  ⟨scan.events.reverse, scan.isWhole⟩

end PrivilegeCatalog.Xml
