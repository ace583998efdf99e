import PrivilegeCatalog.DocumentFormat
import PrivilegeCatalog.NamespaceTable.Command
import PrivilegeCatalog.Reading

/-!
# Readers

A reader stands between a source, which gives its content once, and those who ask for it. The
content is read at the first question; the answer and a rejection are kept. A fault that is no
rejection is not kept, and the next question finds the source at its end.
-/

namespace PrivilegeCatalog

/-- What a reader has kept. -/
inductive Reader.Memory
  | nothing
  | rejected (r : Rejection)
  | read (catalog : Catalog)
  deriving DecidableEq

/-- A reader: the name of its source, what the source still gives, how often it was read, and what
is kept. -/
structure Reader where
  format : DocumentFormat
  source : String
  content : Xml.Content
  reads : Nat := 0
  memory : Reader.Memory := .nothing

namespace Reader

/-- The name of a source that has none. -/
def namelessSource : String := "<stream>"

/-- A reader of some content. The name of the source is the one given; if that is missing or
empty, it is the name of the stream. -/
def ofContent (identifier : String) (source : Option String) (stream : Option Value)
    (content : Xml.Content) : Except DocumentFormat.Unsupported Reader := do
  let format ← DocumentFormat.resolve identifier
  let name := (stream.map Value.display).getD namelessSource
  let source := match source with
    | some given => if given = "" then name else given
    | none => name
  return { format, source, content }

/-- What a question leaves behind and answers. -/
structure Access (α : Type) where
  reader : Reader
  notices : List Notice
  answer : Except ReadFault α

/-- A source that has been read to its end. -/
def exhausted : Xml.Content → Xml.Content
  | .bytes _ => .bytes []
  | .text _ => .text ""

/-- The catalog of the document. -/
def catalog (r : Reader) : Access Catalog :=
  match r.memory with
  | .rejected reason => ⟨r, [], .error (.rejected reason)⟩
  | .read catalog => ⟨r, [], .ok catalog⟩
  | .nothing =>
    let work := match r.format with
      | .xml => Reading.ofContent r.source r.content
    let memory := match work.outcome with
      | .ok catalog => .read catalog
      | .error (.rejected reason) => .rejected reason
      | .error (.badTagName _) => .nothing
    ⟨{ r with content := exhausted r.content, reads := r.reads + 1, memory }, work.notices,
      work.outcome⟩

/-- The privileges of the document. -/
def privileges (r : Reader) : Access (List Privilege) :=
  let access := r.catalog
  ⟨access.reader, access.notices, access.answer.map (·.privileges)⟩

/-- The namespaces of the document. -/
def namespaces (r : Reader) : Access NamespaceTable :=
  let access := r.catalog
  ⟨access.reader, access.notices, access.answer.map (·.namespaces)⟩

/-- The reader after its table has been changed. -/
def withTable (r : Reader) (table : NamespaceTable) : Reader :=
  match r.memory with
  | .read catalog => { r with memory := .read { catalog with namespaces := table } }
  | _ => r

/-- A command to the table of the document. -/
def command (r : Reader) (c : NamespaceTable.Command) :
    Access (Except ExpansionFault NamespaceTable.Answer) :=
  let access := r.namespaces
  match access.answer with
  | .error fault => ⟨access.reader, access.notices, .error fault⟩
  | .ok table =>
    let reply := table.run c
    ⟨access.reader.withTable reply.table, access.notices ++ reply.notices, .ok reply.answer⟩

/-- A fault as it is reported; a fault that is no rejection has no report. -/
def failure? (r : Reader) : ReadFault → Option Failure
  | .rejected reason => some (reason.failure r.source)
  | .badTagName _ => none

end Reader

end PrivilegeCatalog
