import PrivilegeCatalog.CommandLine.Arguments
import PrivilegeCatalog.CommandLine.Running
import PrivilegeCatalog.Console.Color
import PrivilegeCatalog.Console.Literal
import PrivilegeCatalog.Console.Markup
import PrivilegeCatalog.Console.Pictograph
import PrivilegeCatalog.Console.Style
import PrivilegeCatalog.Console.Width
import PrivilegeCatalog.Console.Wrap
import PrivilegeCatalog.Dictionary
import PrivilegeCatalog.DocumentFormat
import PrivilegeCatalog.Encoding
import PrivilegeCatalog.Failure
import PrivilegeCatalog.FilePath
import PrivilegeCatalog.FileTree
import PrivilegeCatalog.Formatting
import PrivilegeCatalog.Layout
import PrivilegeCatalog.Location
import PrivilegeCatalog.Main
import PrivilegeCatalog.NamespaceTable
import PrivilegeCatalog.NamespaceTable.Command
import PrivilegeCatalog.Notice
import PrivilegeCatalog.Privilege
import PrivilegeCatalog.Proofs.CommandLine.Lines
import PrivilegeCatalog.Proofs.CommandLine.Output
import PrivilegeCatalog.Proofs.CommandLine.Repeating
import PrivilegeCatalog.Proofs.CommandLine.Restating
import PrivilegeCatalog.Proofs.CommandLine.Settling
import PrivilegeCatalog.Proofs.CommandLine.Storing
import PrivilegeCatalog.Proofs.CommandLine.Verdict
import PrivilegeCatalog.Proofs.Console.Closing
import PrivilegeCatalog.Proofs.FilePath
import PrivilegeCatalog.Proofs.FileTree
import PrivilegeCatalog.Proofs.Folders
import PrivilegeCatalog.Proofs.Formatting.Chosen
import PrivilegeCatalog.Proofs.Formatting.Meaning
import PrivilegeCatalog.Proofs.Formatting.Namespaces
import PrivilegeCatalog.Proofs.Formatting.Repetition
import PrivilegeCatalog.Proofs.Logged
import PrivilegeCatalog.Proofs.LowerCase
import PrivilegeCatalog.Proofs.Names
import PrivilegeCatalog.Proofs.Names.Grammar
import PrivilegeCatalog.Proofs.NamespaceTable.AnyOrder
import PrivilegeCatalog.Proofs.NamespaceTable.Changes
import PrivilegeCatalog.Proofs.NamespaceTable.Contracted
import PrivilegeCatalog.Proofs.NamespaceTable.Defaults
import PrivilegeCatalog.Proofs.NamespaceTable.Expanded
import PrivilegeCatalog.Proofs.NamespaceTable.OneToOne
import PrivilegeCatalog.Proofs.NamespaceTable.Reachable
import PrivilegeCatalog.Proofs.Privilege
import PrivilegeCatalog.Proofs.Reader.Lasting
import PrivilegeCatalog.Proofs.Reader.Remarks
import PrivilegeCatalog.Proofs.Reader.Reports
import PrivilegeCatalog.Proofs.Reader.Session
import PrivilegeCatalog.Proofs.Reading.Accepted
import PrivilegeCatalog.Proofs.Reading.Bindings
import PrivilegeCatalog.Proofs.Reading.Checks
import PrivilegeCatalog.Proofs.Reading.Continuation
import PrivilegeCatalog.Proofs.Reading.Documents
import PrivilegeCatalog.Proofs.Reading.Elements
import PrivilegeCatalog.Proofs.Reading.Faults
import PrivilegeCatalog.Proofs.Reading.FirstFault
import PrivilegeCatalog.Proofs.Reading.Identity
import PrivilegeCatalog.Proofs.Reading.Meaning
import PrivilegeCatalog.Proofs.Reading.Remarks
import PrivilegeCatalog.Proofs.Reading.Streams
import PrivilegeCatalog.Proofs.Reading.Success
import PrivilegeCatalog.Proofs.Reading.Walk
import PrivilegeCatalog.Proofs.Recognition
import PrivilegeCatalog.Proofs.RoundTrip
import PrivilegeCatalog.Proofs.Settings.Loading
import PrivilegeCatalog.Proofs.Settings.Search
import PrivilegeCatalog.Proofs.Toml.Numbers
import PrivilegeCatalog.Proofs.Toml.Rest
import PrivilegeCatalog.Proofs.Utf8
import PrivilegeCatalog.Proofs.Writing.Bytes
import PrivilegeCatalog.Proofs.Writing.Canonical
import PrivilegeCatalog.Proofs.Writing.Document
import PrivilegeCatalog.Proofs.Writing.Elements
import PrivilegeCatalog.Proofs.Writing.Encodings
import PrivilegeCatalog.Proofs.Writing.Meaning
import PrivilegeCatalog.Proofs.Writing.Openings
import PrivilegeCatalog.Proofs.Writing.ReadBack
import PrivilegeCatalog.Proofs.Writing.Scanning
import PrivilegeCatalog.Proofs.Writing.StartTag
import PrivilegeCatalog.Proofs.Writing.Warnings
import PrivilegeCatalog.Proofs.Xml.Blanks
import PrivilegeCatalog.Proofs.Xml.Declarations
import PrivilegeCatalog.Proofs.Xml.DeclaredName
import PrivilegeCatalog.Proofs.Xml.Doctype.Keys
import PrivilegeCatalog.Proofs.Xml.Doctype.Rest
import PrivilegeCatalog.Proofs.Xml.Doctype.Texts
import PrivilegeCatalog.Proofs.Xml.Escaping
import PrivilegeCatalog.Proofs.Xml.Instructions
import PrivilegeCatalog.Proofs.Xml.Names
import PrivilegeCatalog.Proofs.Xml.Shape
import PrivilegeCatalog.Proofs.Xml.Telling
import PrivilegeCatalog.Proofs.Xml.Transition
import PrivilegeCatalog.Proofs.Xml.Tree
import PrivilegeCatalog.Proofs.Xml.Utf8Documents
import PrivilegeCatalog.Proofs.Xml.Values
import PrivilegeCatalog.QualifiedName
import PrivilegeCatalog.Reader
import PrivilegeCatalog.Reading
import PrivilegeCatalog.RoundTrip
import PrivilegeCatalog.Settings
import PrivilegeCatalog.Text.Blank
import PrivilegeCatalog.Text.Casing
import PrivilegeCatalog.Text.Decimal
import PrivilegeCatalog.Text.LowerCase
import PrivilegeCatalog.Text.Pieces
import PrivilegeCatalog.Text.Printable
import PrivilegeCatalog.Text.Quoted
import PrivilegeCatalog.Text.RangeTable
import PrivilegeCatalog.Text.Word
import PrivilegeCatalog.Toml.Document
import PrivilegeCatalog.Toml.Nested
import PrivilegeCatalog.Toml.Scalar
import PrivilegeCatalog.Toml.Section
import PrivilegeCatalog.Toml.Token
import PrivilegeCatalog.Validation
import PrivilegeCatalog.Value
import PrivilegeCatalog.Vocabulary
import PrivilegeCatalog.Writing
import PrivilegeCatalog.Xml.AttributeValue
import PrivilegeCatalog.Xml.Character
import PrivilegeCatalog.Xml.Declaration
import PrivilegeCatalog.Xml.Doctype
import PrivilegeCatalog.Xml.Doctype.Parser
import PrivilegeCatalog.Xml.Element
import PrivilegeCatalog.Xml.Escape
import PrivilegeCatalog.Xml.Event
import PrivilegeCatalog.Xml.RawName
import PrivilegeCatalog.Xml.Reference
import PrivilegeCatalog.Xml.Scan
import PrivilegeCatalog.Xml.Source
import PrivilegeCatalog.Xml.TagDraft
import PrivilegeCatalog.Xml.UriReference
