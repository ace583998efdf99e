import PrivilegeCatalog.Proofs.CommandLine.Output

/-!
# Formatting keeps what a document means

When the command that formats a document succeeds, what it hands out is read as the same
privileges with every name standing for the same, exactly when the document can be said again
without a type (`formatting_restates_iff`). Only declarations that the type of a document gives by
default stand in the way: they are bound without the checks that declarations in a tag have to
pass.
-/

namespace PrivilegeCatalog.CommandLine

open Formatting (CanRestate Restates)
open Writing (IsUtf8)
open Xml (Content)

/-- What a command that formats hands out says what its document said exactly when the document
can be said again, and a document whose type gives no declarations by default can be. -/
theorem formatting_restates_iff (w : Workspace) (words : List String) (i : Invocation)
    (output : Option String) (position : Position) (content : Bytes) (settings : Settings)
    (asks : Asks w words i output position content settings) (utf8 : IsUtf8 settings.layout)
    (extras : ∀ b ∈ settings.namespaces, Xml.isOpen b = true)
    (succeeded : (run w words).exitCode = 0) (source : String) :
    ∃ catalog, (Reading.ofContent (sourceOf i) (.bytes content)).outcome = .ok catalog
      ∧ ((∃ after, (Reading.ofContent source (.bytes (run w words).emitted)).outcome = .ok after
            ∧ Restates after catalog) ↔ CanRestate catalog)
      ∧ ((Reading.typeOf (.bytes content)).Silent → CanRestate catalog) := by
  obtain ⟨catalog, -, read, formatted, -⟩ := exists_formatted asks utf8 succeeded
  exact ⟨catalog, read, formatted.exists_restates_iff extras source,
    Formatting.canRestate_of_silent read⟩

/-- A document that is formatted with a namespace that its settings give as well. -/
theorem one_privilege_is_restated :
    let content := contentOf ("<privileges xmlns:p='urn:p'>"
      ++ "<privilege name='p:a'><contains name='b'/></privilege></privileges>")
    let w : Workspace := { tree := .folder [("a.xml", .file content),
      ("privdefs.toml", .file (contentOf "[namespaces]\np = 'urn:p'\n"))], folder := [] }
    let i : Invocation := { action := .format none, document := "a.xml" }
    let settings : Settings := { namespaces := [("p", "urn:p")] }
    Asks w ["format", "a.xml"] i none ["a.xml"] content settings ∧ IsUtf8 settings.layout
      ∧ (∀ b ∈ settings.namespaces, Xml.isOpen b = true)
      ∧ (run w ["format", "a.xml"]).exitCode = 0
      ∧ ∃ catalog, (Reading.ofContent (sourceOf i) (.bytes content)).outcome = .ok catalog
        ∧ ((∃ after, (Reading.ofContent "" (.bytes (run w ["format", "a.xml"]).emitted)).outcome
              = .ok after ∧ Restates after catalog) ↔ CanRestate catalog)
        ∧ ((Reading.typeOf (.bytes content)).Silent → CanRestate catalog) := by
  intro content w i settings
  have found : w.lookText "a.xml" = .found ["a.xml"] (.file content) := by rfl
  have asks : Asks w ["format", "a.xml"] i none ["a.xml"] content settings :=
    ⟨by decide +kernel, rfl, found, by decide +kernel⟩
  have utf8 : IsUtf8 settings.layout := by decide +kernel
  have extras : ∀ b ∈ settings.namespaces, Xml.isOpen b = true := by decide +kernel
  have succeeded : (run w ["format", "a.xml"]).exitCode = 0 := by decide +kernel
  have main :=
    formatting_restates_iff w ["format", "a.xml"] i none ["a.xml"] content settings asks
    utf8 extras succeeded ""
  exact ⟨asks, utf8, extras, succeeded, main⟩

/-- A document whose type binds a label to no namespace by default: it is formatted with success,
and what is handed out binds the label of its privilege to another namespace. -/
theorem empty_default_is_not_restated :
    ∃ (w : Workspace) (i : Invocation) (content : Bytes) (catalog : Catalog),
      Asks w ["format", "a.xml"] i none ["a.xml"] content {}
      ∧ (run w ["format", "a.xml"]).exitCode = 0
      ∧ (Reading.ofContent (sourceOf i) (.bytes content)).outcome = .ok catalog
      ∧ ¬ ∃ after, (Reading.ofContent "" (.bytes (run w ["format", "a.xml"]).emitted)).outcome
          = .ok after ∧ Restates after catalog := by
  let content := contentOf ("<!DOCTYPE privileges [<!ATTLIST privileges xmlns:jcr CDATA ''>]>"
    ++ "<privileges><privilege name='jcr:read'/></privileges>")
  let w : Workspace := { tree := .folder [("a.xml", .file content)], folder := [] }
  let privilege : Privilege := { name := ⟨"jcr:read", rfl⟩ }
  let free := wellKnown.filter fun b => b.1 ≠ "jcr"
  let before : Catalog :=
    ⟨[privilege], (NamespaceTable.ofPairs (("jcr", "") :: free.drop 1)).freeze⟩
  let after : Catalog := ⟨[privilege], (NamespaceTable.ofPairs wellKnown).freeze⟩
  let text := "<?xml version='1.0' encoding='UTF-8'?>\n<privileges>\n"
    ++ "    <privilege name=\"jcr:read\"/>\n</privileges>\n"
  have ran : run w ["format", "a.xml"] = { out := text, err := logLine (.uriEmpty "jcr") } := by
    decide +kernel
  have again : (Reading.ofContent "" (.bytes (contentOf text))).outcome = .ok after := by
    decide +kernel
  refine ⟨w, { action := .format none, document := "a.xml" }, content, before,
    ⟨by decide +kernel, rfl, rfl, by decide +kernel⟩, by rw [ran], by decide +kernel, ?_⟩
  intro given
  obtain ⟨after', read, restates⟩ := given
  have same : (run w ["format", "a.xml"]).emitted = contentOf text := by
    rw [ran, Report.emitted, contentOf]
  rw [same, again] at read
  cases read
  have expanded := restates.expanded privilege (List.mem_singleton_self _) privilege.name
    (List.mem_cons_self ..)
  exact absurd expanded (by decide +kernel)

end PrivilegeCatalog.CommandLine
