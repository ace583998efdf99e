import PrivilegeCatalog.Text.Quoted

/-!
# Notices

Remarks that are made along the way and do not stop the work: warnings about content that is
passed over or that would not read back, and a trace of what was done. Work that makes remarks has
type `Logged`: the remarks in order, and the outcome.
-/

namespace PrivilegeCatalog

open Text (quoted)

/-- A remark. -/
inductive Notice
  | bound (label uri : String)
  | defaultTaken (label uri : String)
  | defaultNamespaceIgnored (uri source : String)
  | documentRead (privileges namespaces : Nat) (source : String)
  | entrySkipped (tag source : String) (line : Nat)
  | memberSkipped (tag owner : String)
  | uriEmpty (label : String)
  | nameRepeated (name : String)
  | labelUnbound (owner label : String)
  | documentWritten (privileges namespaces bytes : Nat)
  deriving DecidableEq, Repr

namespace Notice

/-- The part of the library that makes a remark. -/
inductive Origin
  | namespaces
  | reader
  | writer
  deriving DecidableEq, Repr

/-- Warnings are about the caller's content; traces say what was done. -/
def isWarning : Notice → Bool
  | entrySkipped .. | memberSkipped .. | uriEmpty .. | nameRepeated .. | labelUnbound .. => true
  | _ => false

def origin : Notice → Origin
  | bound .. | defaultTaken .. => .namespaces
  | defaultNamespaceIgnored .. | documentRead .. | entrySkipped .. | memberSkipped .. => .reader
  | uriEmpty .. | nameRepeated .. | labelUnbound .. | documentWritten .. => .writer

/-- The wording of a remark. -/
def text : Notice → String
  | bound label uri => "Binding namespace prefix " ++ quoted label ++ " to " ++ quoted uri
  | defaultTaken label uri =>
    "Skipping default binding " ++ quoted label ++ " -> " ++ quoted uri ++ ": already taken"
  | defaultNamespaceIgnored uri source =>
    "Ignoring default namespace declaration " ++ quoted uri ++ " in " ++ source
  | documentRead privileges namespaces source =>
    "Read " ++ toString privileges ++ " privilege definitions and " ++ toString namespaces
      ++ " namespaces from " ++ source
  | entrySkipped tag source line =>
    "Skipping unexpected element '" ++ tag ++ "' in " ++ source
      ++ " (line " ++ toString line ++ ")"
  | memberSkipped tag owner =>
    "Skipping unexpected element '" ++ tag ++ "' in privilege " ++ quoted owner
  | uriEmpty label =>
    "Namespace prefix " ++ quoted label ++ " has an empty URI and is not declared"
  | nameRepeated name => "Duplicate privilege definition " ++ quoted name
  | labelUnbound owner label =>
    "Privilege " ++ quoted owner ++ " uses prefix " ++ quoted label
      ++ " which is not in the namespace mapping"
  | documentWritten privileges namespaces bytes =>
    "Wrote " ++ toString privileges ++ " privilege definitions with " ++ toString namespaces
      ++ " namespaces (" ++ toString bytes ++ " bytes)"

end Notice

/-- Work that makes remarks and then answers or fails. -/
structure Logged (ε α : Type) where
  notices : List Notice
  outcome : Except ε α

namespace Logged

variable {ε δ α β : Type}

/-- An answer without a remark. -/
protected def pure (a : α) : Logged ε α := ⟨[], .ok a⟩

/-- A failure without a remark. -/
def fail (e : ε) : Logged ε α := ⟨[], .error e⟩

/-- One remark. -/
def note (n : Notice) : Logged ε Unit := ⟨[n], .ok ()⟩

/-- An outcome without a remark. -/
def ofExcept (outcome : Except ε α) : Logged ε α := ⟨[], outcome⟩

/-- The second piece of work follows the first, unless that fails; its remarks come after. -/
protected def bind (x : Logged ε α) (f : α → Logged ε β) : Logged ε β :=
  match x.outcome with
  | .ok a => ⟨x.notices ++ (f a).notices, (f a).outcome⟩
  | .error e => ⟨x.notices, .error e⟩

/-- The same work, with its failure seen in another way. -/
def mapError (f : ε → δ) (x : Logged ε α) : Logged δ α :=
  ⟨x.notices, x.outcome.mapError f⟩

instance : Monad (Logged ε) where
  pure := Logged.pure
  bind := Logged.bind

@[simp] theorem pure_eq (a : α) : (pure a : Logged ε α) = ⟨[], .ok a⟩ := rfl

@[simp] theorem bind_ok (ns : List Notice) (a : α) (f : α → Logged ε β) :
    (Logged.mk ns (.ok a) >>= f) = ⟨ns ++ (f a).notices, (f a).outcome⟩ := rfl

@[simp] theorem bind_error (ns : List Notice) (e : ε) (f : α → Logged ε β) :
    (Logged.mk ns (.error e) >>= f) = ⟨ns, .error e⟩ := rfl

end Logged

end PrivilegeCatalog
