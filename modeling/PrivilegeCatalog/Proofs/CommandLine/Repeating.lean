import PrivilegeCatalog.Proofs.CommandLine.Output
import PrivilegeCatalog.Proofs.FileTree
import PrivilegeCatalog.Proofs.Formatting.Repetition

/-!
# Formatting what was formatted

When the command that formats a document succeeds, formatting what it handed out under the same
settings succeeds and hands out the same again, exactly when the document can be repeated
(`formatting_repeats_iff`). For a document that is formatted in its place this says that the
second time leaves all files as they are. Again only declarations by default stand in the way: a
label that they bind in a way that cannot be declared is left out the first time, and declared the
second time as the well-known one that it then is.
-/

namespace PrivilegeCatalog.CommandLine

open Formatting (CanRepeat Formatted)
open Writing (IsUtf8)

/-- The files after a command: what it stores is in its place. -/
def Report.leaves (r : Report) (w : Workspace) : Workspace :=
  match r.stored with
  | some (position, content) => w.store position content
  | none => w

section

variable {w : Workspace} {words : List String} {i : Invocation} {settings : Settings}
  {position : Position} {content bytes : Bytes} {catalog : Catalog} {output : Option String}

theorem Report.leaves_of_stored {r : Report} (stored : r.stored = some (position, content)) :
    r.leaves w = w.store position content := by
  rw [leaves, stored]

/-- The same words ask for a document after other content has been stored in its place, when the
same is settled for it. -/
theorem Asks.store (asks : Asks w words i output position content settings)
    (settled : settingsFor (w.store position bytes) i position = .ok settings) :
    Asks (w.store position bytes) words i output position bytes settings :=
  ⟨asks.asked, asks.action, Workspace.lookText_store asks.found, settled⟩

theorem CanHandOut.store {privileges : Nat} (handsOut : CanHandOut w output privileges)
    (there : w.tree.find? position = some (.file content)) :
    CanHandOut (w.store position bytes) output privileges := by
  intro path inside
  rw [Workspace.target_store there]
  exact handsOut path inside

/-- A command for a document that was formatted under its settings hands out that document when it
can be repeated. -/
theorem hands_out_again_iff (formatted : Formatted settings catalog bytes)
    (extras : ∀ b ∈ settings.namespaces, Xml.isOpen b = true)
    (known : (DocumentFormat.resolve (formatFor i settings)).isOk = true)
    (asks : Asks w words i output position bytes settings)
    (handsOut : CanHandOut w output catalog.privileges.length) :
    (run w words).exitCode = 0 ∧ (run w words).emitted = bytes
      ↔ CanRepeat catalog settings.namespaces := by
  rw [format_succeeds_iff asks formatted.utf8, ← formatted.repeats_iff extras (sourceOf i)]
  constructor
  · intro given
    obtain ⟨after, accepted, done, -⟩ := given
    exact ⟨after, (read_ok.mp accepted).2, done⟩
  · intro given
    obtain ⟨after, again, done⟩ := given
    refine ⟨after, read_ok.mpr ⟨known, again⟩, done, ?_⟩
    rw [(formatted.readAgain again).privileges]
    exact handsOut

/-- A command that formats a document in its place, for the second time, leaves all files as they
are when the document can be repeated. -/
theorem leaves_again_iff {path : String} (formatted : Formatted settings catalog bytes)
    (extras : ∀ b ∈ settings.namespaces, Xml.isOpen b = true)
    (known : (DocumentFormat.resolve (formatFor i settings)).isOk = true)
    (asks : Asks w words i (some path) position content settings)
    (handsOut : CanHandOut w (some path) catalog.privileges.length)
    (inPlace : w.target (FilePath.ofText path) = .ok position)
    (settled : settingsFor (w.store position bytes) i position = .ok settings) :
    let once := w.store position bytes
    (run once words).exitCode = 0 ∧ (run once words).leaves once = once
      ↔ CanRepeat catalog settings.namespaces := by
  intro once
  have there := Workspace.find?_of_lookText asks.found
  have asks' : Asks once words i (some path) position bytes settings := asks.store settled
  rw [← hands_out_again_iff formatted extras known asks' (handsOut.store there)]
  refine and_congr_right fun succeeded => ?_
  have target : once.target (FilePath.ofText path) = .ok position := by
    rw [Workspace.target_store there]
    exact inPlace
  rw [Report.leaves_of_stored (stored_of_format asks' target succeeded), Workspace.store_store,
    Workspace.store_inj]

end

/-- What a command that formats hands out is handed out again for a document of that content
exactly when the document can be repeated, and a document whose type gives no declarations by
default can be. A document that is formatted in its place is then left as it is the second
time. -/
theorem formatting_repeats_iff (w : Workspace) (words : List String) (i : Invocation)
    (output : Option String) (position : Position) (content : Bytes) (settings : Settings)
    (asks : Asks w words i output position content settings) (utf8 : IsUtf8 settings.layout)
    (extras : ∀ b ∈ settings.namespaces, Xml.isOpen b = true)
    (succeeded : (run w words).exitCode = 0) :
    ∃ catalog, (Reading.ofContent (sourceOf i) (.bytes content)).outcome = .ok catalog
      ∧ ((Reading.typeOf (.bytes content)).Silent → CanRepeat catalog settings.namespaces)
      ∧ (∀ w' words' i' output' position',
          Asks w' words' i' output' position' (run w words).emitted settings →
          i'.format = i.format → CanHandOut w' output' catalog.privileges.length →
          ((run w' words').exitCode = 0 ∧ (run w' words').emitted = (run w words).emitted
            ↔ CanRepeat catalog settings.namespaces))
      ∧ (∀ path once, output = some path → w.target (FilePath.ofText path) = .ok position →
          once = (run w words).leaves w → settingsFor once i position = .ok settings →
          ((run once words).exitCode = 0 ∧ (run once words).leaves once = once
            ↔ CanRepeat catalog settings.namespaces)) := by
  obtain ⟨catalog, known, read, formatted, handsOut⟩ := exists_formatted asks utf8 succeeded
  refine ⟨catalog, read, fun silent => ?_, ?_, ?_⟩
  · exact (Formatting.canRestate_of_silent read silent).canRepeat _
  · intro w' words' i' output' position' asks' sameFormat handsOut'
    have known' : (DocumentFormat.resolve (formatFor i' settings)).isOk = true := by
      rw [formatFor, sameFormat]
      exact known
    exact hands_out_again_iff formatted extras known' asks' handsOut'
  · intro path once file inPlace left settled
    subst file
    rw [Report.leaves_of_stored (stored_of_format asks inPlace succeeded)] at left
    subst left
    exact leaves_again_iff formatted extras known asks handsOut inPlace settled

/-- A document that is formatted in its place, with a namespace that its settings give as well. -/
theorem one_privilege_is_repeated :
    let content := contentOf ("<privileges xmlns:p='urn:p'>"
      ++ "<privilege name='p:a'><contains name='b'/></privilege></privileges>")
    let w : Workspace := { tree := .folder [("a.xml", .file content),
      ("privdefs.toml", .file (contentOf "[namespaces]\np = 'urn:p'\n"))], folder := [] }
    let words := ["format", "a.xml", "-o", "a.xml"]
    let i : Invocation := { action := .format (some "a.xml"), document := "a.xml" }
    let settings : Settings := { namespaces := [("p", "urn:p")] }
    let once := (run w words).leaves w
    Asks w words i (some "a.xml") ["a.xml"] content settings ∧ IsUtf8 settings.layout
      ∧ (∀ b ∈ settings.namespaces, Xml.isOpen b = true) ∧ (run w words).exitCode = 0
      ∧ (run once words).exitCode = 0 ∧ (run once words).leaves once = once := by
  intro content w words i settings once
  have found : w.lookText "a.xml" = .found ["a.xml"] (.file content) := by rfl
  have asks : Asks w words i (some "a.xml") ["a.xml"] content settings :=
    ⟨by decide +kernel, rfl, found, by decide +kernel⟩
  have utf8 : IsUtf8 settings.layout := by decide +kernel
  have extras : ∀ b ∈ settings.namespaces, Xml.isOpen b = true := by decide +kernel
  have succeeded : (run w words).exitCode = 0 := by decide +kernel
  have settled : settingsFor once i ["a.xml"] = .ok settings := by decide +kernel
  have silent : (Reading.typeOf (.bytes content)).Silent := by
    have none : Reading.typeOf (.bytes content) = {} := by decide +kernel
    rw [none]
    exact fun element a inside => nomatch inside
  obtain ⟨catalog, -, repeats, -, inPlace⟩ := formatting_repeats_iff w words i (some "a.xml")
    ["a.xml"] content settings asks utf8 extras succeeded
  have again := (inPlace "a.xml" once rfl (by decide +kernel) rfl settled).mpr (repeats silent)
  exact ⟨asks, utf8, extras, succeeded, again⟩

/-- A document whose type binds a label to no namespace by default: what is handed out for it does
not declare the label, and what is handed out for that does. -/
theorem empty_default_is_not_repeated :
    let content := contentOf ("<!DOCTYPE privileges [<!ATTLIST privileges xmlns:jcr CDATA ''>]>"
      ++ "<privileges><privilege name='jcr:read'/></privileges>")
    let w : Workspace := { tree := .folder [("a.xml", .file content)], folder := [] }
    let words := ["format", "a.xml"]
    let i : Invocation := { action := .format none, document := "a.xml" }
    let again := w.store ["a.xml"] (run w words).emitted
    Asks w words i none ["a.xml"] content {} ∧ (run w words).exitCode = 0
      ∧ Asks again words i none ["a.xml"] (run w words).emitted {}
      ∧ (run again words).emitted ≠ (run w words).emitted := by
  intro content w words i again
  have found : w.lookText "a.xml" = .found ["a.xml"] (.file content) := by rfl
  have asks : Asks w words i none ["a.xml"] content {} :=
    ⟨by decide +kernel, rfl, found, by decide +kernel⟩
  exact ⟨asks, by decide +kernel, asks.store (by decide +kernel), by decide +kernel⟩

end PrivilegeCatalog.CommandLine
