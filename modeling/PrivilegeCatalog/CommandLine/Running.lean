import PrivilegeCatalog.CommandLine.Arguments
import PrivilegeCatalog.Console.Markup
import PrivilegeCatalog.Console.Wrap
import PrivilegeCatalog.Formatting
import PrivilegeCatalog.Reader

/-!
# Running a command

A command reads a document under the settings that hold for it, and checks it, shows it, or writes
it in canonical form. The files are a value: `run` answers a report of what is printed and of the
file that is to be stored, and changes nothing by itself. What goes wrong is either a failure that
is reported, or something that breaks the command off.

The tables that are shown stand in the report with their cells. How they are drawn is left out,
save that a cell, a heading or a title whose markup cannot be printed breaks the command off. In
tables and in a line that is wrapped every style is looked up, also that of a stretch of which the
wrapping leaves nothing.
-/

namespace PrivilegeCatalog.CommandLine

/-! ## What goes wrong -/

/-- What breaks a command off. -/
inductive Crash
  | settings (fault : SettingsFault)
  | reading (fault : ReadFault)
  | writing (fault : WriteFault)
  | storing (fault : StoreFault)
  | markup (fault : Console.MarkupFault)
  deriving DecidableEq, Repr

/-- Why a command has no result. -/
inductive Trouble
  | failure (f : Failure)
  | crash (c : Crash)
  deriving DecidableEq, Repr

namespace Trouble

/-- Faults of settings, of which some are reported. -/
def ofSettings (fault : SettingsFault) : Trouble :=
  match fault.failure? with
  | some f => .failure f
  | none => .crash (.settings fault)

/-- A rejection is reported under the name of the document. -/
def ofReading (source : String) : ReadFault → Trouble
  | .rejected r => .failure (r.failure source)
  | fault => .crash (.reading fault)

/-- Namespaces that do not agree are reported. -/
def ofFormat : FormatFault → Trouble
  | .conflict fault => .failure fault.failure
  | .unwritable fault => .crash (.writing fault)

end Trouble

/-! ## What a command does -/

/-- A table that is shown. -/
structure Table where
  title : String
  columns : List String
  rows : List (List String)
  deriving DecidableEq, Repr

/-- What a command produces. -/
inductive Product
  | verdict (privileges : Nat)
  | tables (tables : List Table)
  | text (document : String)
  | stored (position : Position) (content : Bytes) (privileges : Nat) (path : FilePath)
  deriving DecidableEq, Repr

/-- Work of a command. -/
abbrev Work (α : Type) := Logged Trouble α

/-- The settings for a document: from the file that is named, or else from the nearest one. -/
def settingsFor (w : Workspace) (i : Invocation) (document : Position) :
    Except SettingsFault Settings :=
  match i.settings with
  | some path => Settings.load w (FilePath.ofText path)
  | none =>
    match Settings.search w (w.path document.dropLast) with
    | some path => Settings.load w path
    | none => .ok {}

/-- The format that is chosen, if any is, or else the one that is settled. -/
def formatFor (i : Invocation) (settings : Settings) : String :=
  match i.format with
  | some chosen => if chosen = "" then settings.format else chosen
  | none => settings.format

/-- The name by which a document is told of. -/
def sourceOf (i : Invocation) : String := (FilePath.ofText i.document).text

/-- Reads a document. -/
def read (i : Invocation) (settings : Settings) (content : Bytes) : Work Catalog :=
  match Reader.ofContent (formatFor i settings) (some (sourceOf i)) none (.bytes content) with
  | .error u => Logged.fail (.failure u.failure)
  | .ok reader =>
    let access := reader.catalog
    ⟨access.notices, access.answer.mapError (Trouble.ofReading reader.source)⟩

/-- The table of privileges. -/
def privilegeTable (title : String) (privileges : List Privilege) : Table :=
  { title
    columns := ["Name", "Abstract", "Aggregates"]
    rows := privileges.map fun p =>
      [p.name.text, if p.isAbstract then "yes" else "",
        ", ".intercalate (p.members.map (·.text))] }

/-- The table of namespaces. -/
def namespaceTable (bindings : List (String × String)) : Table :=
  { title := "Namespaces"
    columns := ["Prefix", "URI"]
    rows := bindings.map fun (label, uri) => [label, uri] }

/-- Shows what a document holds, without namespaces of the settings. -/
def tablesOf (i : Invocation) (catalog : Catalog) : Work Product := do
  let table ← (Formatting.namespaces catalog []).mapError fun fault => .failure fault.failure
  return .tables [privilegeTable (sourceOf i) catalog.privileges, namespaceTable table.bindings]

/-- Does what a command asks for with a document that has been found. -/
def perform (w : Workspace) (i : Invocation) (document : Position) (content : Bytes) :
    Work Product := do
  let settings ← Logged.ofExcept ((settingsFor w i document).mapError Trouble.ofSettings)
  let catalog ← read i settings content
  match i.action with
  | .check => return .verdict catalog.privileges.length
  | .show => tablesOf i catalog
  | .format none =>
    let text ← (Formatting.formatText settings catalog).mapError Trouble.ofFormat
    return .text text
  | .format (some output) =>
    let path := FilePath.ofText output
    let bytes ← (Formatting.format settings catalog).mapError Trouble.ofFormat
    let position ← Logged.ofExcept ((w.target path).mapError fun fault => .crash (.storing fault))
    return .stored position bytes catalog.privileges.length path

/-! ## Reports -/

/-- What a command leaves: its exit code, what it prints to the two streams, the failure that it
reports, what breaks it off, the tables that it shows, also when it is broken off in drawing them,
and the file that is to be stored. -/
structure Report where
  exitCode : Nat := 0
  out : String := ""
  err : String := ""
  failure : Option Failure := none
  crash : Option Crash := none
  tables : List Table := []
  stored : Option (Position × Bytes) := none
  deriving DecidableEq, Repr

/-- How many columns a line has. -/
def columns : Nat := 80

/-- A line of a log. -/
def logLine (n : Notice) : String :=
  let origin := match n.origin with
    | .namespaces => "namespaces"
    | .reader => "reader"
    | .writer => "writer"
  (if n.isWarning then "WARNING" else "DEBUG") ++ " privdefs.core." ++ origin ++ ": "
    ++ n.text ++ "\n"

/-- The log of a command: warnings, and traces if they are asked for. -/
def log (verbose : Bool) (notices : List Notice) : String :=
  String.join ((notices.filter fun n => verbose || n.isWarning).map logLine)

/-- How many privileges there are. -/
def countText (privileges : Nat) : String := toString privileges ++ " privilege definitions"

/-- The line that tells that a document is valid. -/
def verdictLine (source : String) (privileges : Nat) : String :=
  "[green]OK[/green] " ++ source ++ ": " ++ countText privileges

/-- The line that tells of a failure. -/
def failureLine (f : Failure) : String := "[red]Error:[/red] " ++ f.text

/-- The line that tells that a document has been stored. -/
def storedLine (privileges : Nat) (path : FilePath) : String :=
  "Wrote " ++ countText privileges ++ " to " ++ path.text

/-- A line with markup, laid out in some way, or the fault in the markup. -/
def printed (layOut : Nat → String → String) (line : String)
    (evaluates : List Char → Bool := Console.isLiteral)
    (isDrawn : String → Console.Span → Bool := fun _ _ => true) :
    Except Console.MarkupFault String :=
  (Console.shown line evaluates isDrawn).map fun shown => layOut columns shown ++ "\n"

/-- Whether something of a stretch of a line is drawn when the line is not wrapped. -/
def isDrawn (shown : String) (span : Console.Span) : Bool :=
  Console.draws columns shown span.start span.stop

/-- The texts of a table in the order in which they are drawn: column by column, and the title
last. -/
def Table.texts (t : Table) : List String :=
  let column := fun (heading, place) => heading :: t.rows.map fun row => row.getD place ""
  t.columns.zipIdx.flatMap column ++ [t.title]

/-- The fault in the first text of tables that cannot be drawn. -/
def drawingFault? (evaluates : List Char → Bool) (tables : List Table) :
    Option Console.MarkupFault :=
  (tables.flatMap Table.texts).findSome? fun text =>
    match Console.shown text evaluates with
    | .ok _ => none
    | .error fault => some fault

/-- The report of what a command has produced. A line or a table that cannot be printed breaks the
command off; a file has been stored by then. -/
def productReport (source err : String) (product : Product)
    (evaluates : List Char → Bool := Console.isLiteral) : Report :=
  match product with
  | .verdict privileges =>
    match printed Console.unwrapped (verdictLine source privileges) evaluates isDrawn with
    | .ok line => { out := line, err }
    | .error fault => { exitCode := 1, err, crash := some (.markup fault) }
  | .tables tables =>
    match drawingFault? evaluates tables with
    | none => { err, tables }
    | some fault => { exitCode := 1, err, tables, crash := some (.markup fault) }
  | .text document => { out := document, err }
  | .stored position content privileges path =>
    let stored := some (position, content)
    match printed Console.wrap (storedLine privileges path) evaluates with
    | .ok line => { err := err ++ line, stored }
    | .error fault => { exitCode := 1, err, crash := some (.markup fault), stored }

/-- The report of what has gone wrong. -/
def troubleReport (err : String) (trouble : Trouble)
    (evaluates : List Char → Bool := Console.isLiteral) : Report :=
  match trouble with
  | .crash c => { exitCode := 1, err, crash := some c }
  | .failure f =>
    match printed Console.unwrapped (failureLine f) evaluates isDrawn with
    | .ok line => { exitCode := 1, err := err ++ line, failure := some f }
    | .error fault => { exitCode := 1, err, failure := some f, crash := some (.markup fault) }

/-- The report of a command. -/
def report (i : Invocation) (work : Work Product)
    (evaluates : List Char → Bool := Console.isLiteral) : Report :=
  let err := log i.verbose work.notices
  match work.outcome with
  | .ok product => productReport (sourceOf i) err product evaluates
  | .error trouble => troubleReport err trouble evaluates

/-- How the program is used. -/
def usage : String :=
  "Usage: privdefs [--version] [-v] (check | show | format) DOCUMENT "
    ++ "[-f FORMAT] [-c CONFIG] [-o OUTPUT]\n"

/-- The name and the version of the program. -/
def versionText : String := "privdefs 0.1.0\n"

/-- The report of a misuse. -/
def misuse : Report := { exitCode := 2, err := usage }

/-- Runs a command. Its document has to be a file. -/
def runInvocation (w : Workspace) (i : Invocation)
    (evaluates : List Char → Bool := Console.isLiteral) : Report :=
  match w.lookText i.document with
  | .found position (.file content) => report i (perform w i position content) evaluates
  | _ => misuse

/-- What the program does with the words after its name. -/
def run (w : Workspace) (words : List String)
    (evaluates : List Char → Bool := Console.isLiteral) : Report :=
  match Request.ofWords words with
  | .version => { out := versionText }
  | .help => { out := usage }
  | .misuse => misuse
  | .run i => runInvocation w i evaluates

end PrivilegeCatalog.CommandLine
