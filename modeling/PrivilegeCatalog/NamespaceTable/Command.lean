import PrivilegeCatalog.NamespaceTable

/-!
# Commands to a namespace table

All that a caller can ask of a namespace table, as data, and what each command does to the table.
`NamespaceTable.run` does one command and `NamespaceTable.runAll` a list of them, whether or not
some of them fail.
-/

namespace PrivilegeCatalog.NamespaceTable

/-- What a caller can ask of a table. -/
inductive Command
  | bind (label uri : String)
  | addDefaults (defaults : Dictionary)
  | freeze
  | resolveLabel (label : String)
  | resolveUri (uri : String)
  | find (label : String)
  | contains (label : String)
  | size
  | labels
  | uris
  | bindings
  | display
  | expand (name : String)
  | sameAs (pairs : Dictionary)
  | copy
  deriving DecidableEq, Repr

/-- What a table answers. -/
inductive Answer
  | nothing
  | truth (b : Bool)
  | number (n : Nat)
  | text (s : String)
  | found (value : Option String)
  | texts (items : List String)
  | pairs (items : List (String × String))
  deriving DecidableEq, Repr

/-- What a command leaves behind and answers. -/
structure Reply where
  table : NamespaceTable
  notices : List Notice
  answer : Except ExpansionFault Answer

/-- A command that looks at the table and leaves it as it is. -/
def view (t : NamespaceTable) (answer : Except ExpansionFault Answer) : Reply := ⟨t, [], answer⟩

/-- A command that changes the table and has nothing to answer. -/
def Effect.reply (e : Effect Unit) : Reply :=
  ⟨e.table, e.notices, (e.answer.mapError .table).map fun _ => .nothing⟩

/-- A command that makes another table and looks at it. -/
def compare (t : NamespaceTable) (other : Logged TableFault NamespaceTable)
    (answer : NamespaceTable → Answer) : Reply :=
  ⟨t, other.notices, (other.outcome.mapError .table).map answer⟩

/-- Does one command. -/
def run (t : NamespaceTable) : Command → Reply
  | .bind label uri => (t.bind label uri).reply
  | .addDefaults defaults => (t.addDefaults defaults).reply
  | .freeze => ⟨t.freeze, [], .ok .nothing⟩
  | .resolveLabel label => t.view (((t.resolveLabel label).mapError .table).map .text)
  | .resolveUri uri => t.view (((t.resolveUri uri).mapError .table).map .text)
  | .find label => t.view (.ok (.found (t.uriOf? label)))
  | .contains label => t.view (.ok (.truth (t.hasLabel label)))
  | .size => t.view (.ok (.number t.bindings.length))
  | .labels => t.view (.ok (.texts (t.bindings.map (·.1))))
  | .uris => t.view (.ok (.texts (t.bindings.map (·.2))))
  | .bindings => t.view (.ok (.pairs t.bindings))
  | .display => t.view (.ok (.text t.display))
  | .expand name => t.view ((t.expand name).map .text)
  | .sameAs pairs => t.compare (ofBindings pairs) fun other =>
    .truth (Dictionary.same t.uris other.uris)
  | .copy => t.compare (frozenOfBindings t.uris) fun other => .text other.display

/-- The table after some commands, failed ones included. -/
def runAll (t : NamespaceTable) (commands : List Command) : NamespaceTable :=
  commands.foldl (fun t command => (t.run command).table) t

end PrivilegeCatalog.NamespaceTable
