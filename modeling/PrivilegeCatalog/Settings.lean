import PrivilegeCatalog.Dictionary
import PrivilegeCatalog.DocumentFormat
import PrivilegeCatalog.FileTree
import PrivilegeCatalog.Layout
import PrivilegeCatalog.Toml.Document

/-!
# Settings

What a user settles for a folder of documents: the format, the layout of written documents, and
namespaces that are declared in all of them. Settings stand in a TOML file of their own, or in a
section of a file that settings of several tools share. `Settings.load` reads them, and
`Settings.search` looks for the file in a folder and in those above it.
-/

namespace PrivilegeCatalog

/-- What is settled. -/
structure Settings where
  format : String := DocumentFormat.defaultIdentifier
  layout : Layout := {}
  namespaces : Dictionary := []
  deriving DecidableEq, Repr

/-- Why settings cannot be loaded. -/
inductive SettingsFault
  | isFolder
  | notUtf8
  | notToml (path : String)
  | numberTooLong (digits : Nat)
  | noSections (kind : String)
  | invalid (path : String) (issues : List Issue)
  deriving DecidableEq, Repr

namespace SettingsFault

/-- The wording of a fault. -/
def message : SettingsFault → String
  | isFolder => "Settings are not in a file"
  | notUtf8 => "Settings are not in UTF-8"
  | notToml path => "Invalid TOML in " ++ path
  | numberTooLong digits =>
    "Exceeds the limit (" ++ toString Toml.digitLimit
      ++ " digits) for integer string conversion: value has "
      ++ toString digits ++ " digits; use sys.set_int_max_str_digits() to increase the limit"
  | noSections kind => "'" ++ kind ++ "' object has no attribute 'get'"
  | invalid path _ => "Invalid configuration in " ++ path

/-- A fault as it is reported: the file is no TOML, or what it settles is not valid. -/
def failure? (fault : SettingsFault) : Option Failure :=
  match fault with
  | notToml _ | invalid .. => some ⟨.configuration, fault.message, none⟩
  | _ => none

end SettingsFault

namespace Settings

/-! ## Values -/

/-- An identifier that stands for a format. -/
def checkFormat (v : Value) : Checked String := do
  let identifier ← v.asText
  match DocumentFormat.resolve identifier with
  | .ok _ => return identifier
  | .error u => Checked.complain (.refused u.message)

/-- A layout. -/
def checkLayout : Value → Checked Layout
  | .record entries => Layout.ofFields entries
  | _ => Checked.complain (.notRecord "WriterOptions")

/-- Namespaces under their labels. -/
def checkNamespaces : Value → Checked Dictionary
  | .record entries =>
    Checked.all
      (entries.map fun (label, v) => Checked.under (.key label) (v.asText.map (label, ·)))
  | _ => Checked.complain .notDictionary

/-- The two keys of the format, the first of which counts when there are both. -/
def formatKeys : String × String := ("format", "format_id")

/-- The key of the format that is used. -/
def formatKey (entries : List (String × Value)) : String :=
  if (Value.entry? formatKeys.1 entries).isNone && (Value.entry? formatKeys.2 entries).isSome then
    formatKeys.2
  else formatKeys.1

/-- Settings from the entries of a section. Entries of other names are passed over. -/
def ofEntries (entries : List (String × Value)) : Checked Settings :=
  let standard : Settings := {}
  let format := Value.field entries (formatKey entries) checkFormat (.ok standard.format)
  let layout := Value.field entries "writer" checkLayout (.ok standard.layout)
  let namespaces := Value.field entries "namespaces" checkNamespaces (.ok standard.namespaces)
  (Checked.both format (Checked.both layout namespaces)).map
    fun (format, layout, namespaces) => ⟨format, layout, namespaces⟩

/-- Settings from a section. -/
def ofValue : Value → Checked Settings
  | .record entries => ofEntries entries
  | _ => Checked.complain (.notRecord "CodecConfig")

/-! ## Files -/

/-- The name of a file for these settings alone. -/
def ownFile : String := "privdefs.toml"

/-- The name of a file that several tools share. -/
def sharedFile : String := "pyproject.toml"

/-- The section of a file with settings of several tools, which need not be there. -/
def sharedSection (entries : List (String × Value)) : Except SettingsFault Value :=
  match Value.entry? "tool" entries with
  | none => .ok (.record [])
  | some (.record tools) => .ok ((Value.entry? "privdefs" tools).getD (.record []))
  | some other => .error (.noSections other.kindName)

/-- The section with the settings, by the name of the file. -/
def sectionFor (path : FilePath) (entries : List (String × Value)) : Except SettingsFault Value :=
  if path.name? = some sharedFile then sharedSection entries else .ok (.record entries)

/-- Settings from the content of a file. -/
def ofContent (path : FilePath) (content : Bytes) : Except SettingsFault Settings := do
  let decoded := Encoding.utf8.decode content
  unless decoded.complete do throw .notUtf8
  let entries ← match Toml.read decoded.chars with
    | .ok entries => pure entries
    | .error .malformed => throw (.notToml path.text)
    | .error (.numberTooLong digits) => throw (.numberTooLong digits)
  let settings ← sectionFor path entries
  (ofValue settings).mapError (.invalid path.text)

/-- The settings at a path; without a file they are the standard ones. -/
def load (w : Workspace) (path : FilePath) : Except SettingsFault Settings :=
  match w.look path with
  | .missing | .blocked => .ok {}
  | .found _ (.folder _) => .error .isFolder
  | .found _ (.file content) => ofContent path content

/-- The file of settings in the folder of a path, or else in the nearest of those that are left of
the path when names are taken off its end. -/
def search (w : Workspace) (start : FilePath) : Option FilePath :=
  (start.chain.map (·.child ownFile)).find? w.hasFile

end Settings

end PrivilegeCatalog
