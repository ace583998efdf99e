import PrivilegeCatalog.Proofs.Privilege
import PrivilegeCatalog.Proofs.Toml.Numbers
import PrivilegeCatalog.Proofs.Utf8
import PrivilegeCatalog.Settings

/-!
# Settings from a file

The content of a file gives settings when it is a TOML text in UTF-8 whose section for them holds
values of the right form (`ofContent_eq_ok`). With other content the fault is reported, as long as
the content is a text in UTF-8, no number in it has too many digits, and the section that all
tools share is one; if not, something else than a failure comes of it (`isReported_iff`). Both are
read off from the steps at which the reading of content can end (`Comes`).
-/

namespace PrivilegeCatalog.Settings

variable {entries : List (String × Value)} {v : Value} {s : Settings} {path : FilePath}
  {content : Bytes} {cs : List Char}

/-! ## Values -/

/-- What is given under a key, or what holds when there is none of that name. -/
def Field (entries : List (String × Value)) (key : String) (given : Value → Prop)
    (standard : Prop) : Prop :=
  match Value.entry? key entries with
  | some v => given v
  | none => standard

theorem field_iff {α : Type} {key : String} {check : Value → Checked α} {standard a : α}
    {given : Value → Prop} (checked : ∀ v, check v = .ok a ↔ given v) :
    Value.field entries key check (.ok standard) = .ok a
      ↔ Field entries key given (a = standard) := by
  rw [Value.field_eq_ok, Field]
  cases Value.entry? key entries with
  | some v => simp [checked]
  | none => simp [eq_comm]

/-- A layout as it is settled. -/
structure SettlesLayout (fields : List (String × Value)) (l : Layout) : Prop where
  indent : Field fields "indent" (· = .text l.indent) (l.indent = ({} : Layout).indent)
  encoding : Field fields "encoding" (· = .text l.encoding) (l.encoding = ({} : Layout).encoding)
  declaration : Field fields "xml_declaration" (·.asBoolean = .ok l.declaration)
    (l.declaration = ({} : Layout).declaration)

theorem ofFields_eq_ok {fields : List (String × Value)} {l : Layout} :
    Layout.ofFields fields = .ok l ↔ SettlesLayout fields l := by
  have indent := @field_iff fields _ "indent" Value.asText ({} : Layout).indent l.indent _
    fun _ => Value.asText_eq_ok
  have encoding := @field_iff fields _ "encoding" Value.asText ({} : Layout).encoding l.encoding _
    fun _ => Value.asText_eq_ok
  have declaration :=
    @field_iff fields _ "xml_declaration" Value.asBoolean ({} : Layout).declaration
    l.declaration _ fun _ => Iff.rfl
  rw [Layout.ofFields, Checked.map_eq_ok]
  constructor
  · rintro ⟨⟨indent_, encoding_, declaration_⟩, parts, rfl⟩
    obtain ⟨first, others⟩ := Checked.both_eq_ok.mp parts
    obtain ⟨second, third⟩ := Checked.both_eq_ok.mp others
    exact ⟨indent.mp first, encoding.mp second, declaration.mp third⟩
  · intro settles
    exact ⟨(l.indent, l.encoding, l.declaration),
      Checked.both_eq_ok.mpr ⟨indent.mpr settles.indent, Checked.both_eq_ok.mpr
        ⟨encoding.mpr settles.encoding, declaration.mpr settles.declaration⟩⟩, rfl⟩

theorem checkFormat_eq_ok {identifier : String} :
    checkFormat v = .ok identifier
      ↔ v = .text identifier ∧ (DocumentFormat.resolve identifier).isOk = true := by
  rw [checkFormat, Checked.bind_eq_ok]
  constructor
  · rintro ⟨given, text, known⟩
    split at known
    case h_1 resolved =>
      cases known
      exact ⟨Value.asText_eq_ok.mp text, by rw [resolved]; rfl⟩
    case h_2 => cases known
  · rintro ⟨rfl, known⟩
    refine ⟨identifier, rfl, ?_⟩
    split
    case h_1 => rfl
    case h_2 unknown =>
      rw [unknown] at known
      cases known

theorem checkLayout_eq_ok {l : Layout} :
    checkLayout v = .ok l ↔ ∃ fields, v = .record fields ∧ SettlesLayout fields l := by
  cases v with
  | record fields => simp [checkLayout, ofFields_eq_ok]
  | _ => exact iff_of_false nofun nofun

/-- The section that gives namespaces. -/
def bindingEntries (namespaces : Dictionary) : List (String × Value) :=
  namespaces.map fun binding => (binding.1, .text binding.2)

theorem checkNamespaces_record_eq_ok {namespaces : Dictionary} :
    checkNamespaces (.record entries) = .ok namespaces ↔ entries = bindingEntries namespaces := by
  induction entries generalizing namespaces with
  | nil =>
    rw [checkNamespaces, List.map_nil, Checked.all, Except.ok.injEq, eq_comm, eq_comm (a := []),
      bindingEntries, List.map_eq_nil_iff]
  | cons entry rest ih =>
    obtain ⟨label, v⟩ := entry
    rw [checkNamespaces, List.map_cons, Checked.all, Checked.map_eq_ok]
    constructor
    · rintro ⟨⟨binding, more⟩, parts, rfl⟩
      obtain ⟨first, others⟩ := Checked.both_eq_ok.mp parts
      obtain ⟨uri, text, same⟩ := Checked.map_eq_ok.mp (Logged.mapError_eq_ok.mp first)
      have pair : (label, uri) = binding := same
      rw [ih.mp others, Value.asText_eq_ok.mp text, bindingEntries, bindingEntries, List.map_cons,
        ← pair]
    · intro same
      cases namespaces with
      | nil => cases same
      | cons binding more =>
        obtain ⟨first, others⟩ := List.cons.inj same
        obtain ⟨known, uri⟩ := binding
        cases first
        exact ⟨((known, uri), more), Checked.both_eq_ok.mpr ⟨rfl, ih.mpr others⟩, rfl⟩

/-- Namespaces are settled when all values are texts. -/
theorem checkNamespaces_eq_ok {namespaces : Dictionary} :
    checkNamespaces v = .ok namespaces ↔ v = .record (bindingEntries namespaces) := by
  cases v with
  | record entries => rw [checkNamespaces_record_eq_ok, Value.record.injEq]
  | _ => exact iff_of_false (fun done => by cases done) fun same => by cases same

/-- Settings as the entries of a section give them. -/
structure Settles (entries : List (String × Value)) (s : Settings) : Prop where
  format : Field entries (formatKey entries)
    (fun v => v = .text s.format ∧ (DocumentFormat.resolve s.format).isOk = true)
    (s.format = ({} : Settings).format)
  layout :
    Field entries "writer" (fun v => ∃ fields, v = .record fields ∧ SettlesLayout fields s.layout)
    (s.layout = ({} : Settings).layout)
  namespaces : Field entries "namespaces" (· = .record (bindingEntries s.namespaces))
    (s.namespaces = ({} : Settings).namespaces)

theorem ofEntries_eq_ok : ofEntries entries = .ok s ↔ Settles entries s := by
  have format :=
    @field_iff entries _ (formatKey entries) checkFormat ({} : Settings).format s.format _
    fun _ => checkFormat_eq_ok
  have layout := @field_iff entries _ "writer" checkLayout ({} : Settings).layout s.layout _
    fun _ => checkLayout_eq_ok
  have namespaces := @field_iff entries _ "namespaces" checkNamespaces ({} : Settings).namespaces
    s.namespaces _ fun _ => checkNamespaces_eq_ok
  rw [ofEntries, Checked.map_eq_ok]
  constructor
  · rintro ⟨⟨format_, layout_, namespaces_⟩, parts, rfl⟩
    obtain ⟨first, others⟩ := Checked.both_eq_ok.mp parts
    obtain ⟨second, third⟩ := Checked.both_eq_ok.mp others
    exact ⟨format.mp first, layout.mp second, namespaces.mp third⟩
  · intro settles
    exact ⟨(s.format, s.layout, s.namespaces), Checked.both_eq_ok.mpr ⟨format.mpr settles.format,
      Checked.both_eq_ok.mpr ⟨layout.mpr settles.layout, namespaces.mpr settles.namespaces⟩⟩, rfl⟩

theorem ofValue_eq_ok :
    ofValue v = .ok s ↔ ∃ entries, v = .record entries ∧ Settles entries s := by
  cases v with
  | record entries => simp [ofValue, ofEntries_eq_ok]
  | _ => exact iff_of_false nofun nofun

/-! ## Sections -/

/-- The section with the settings: all of a file of their own, or a part of a file that all tools
share, in which nothing needs to be said. -/
inductive IsSection (path : FilePath) (entries : List (String × Value)) : Value → Prop
  | own (name : path.name? ≠ some sharedFile) : IsSection path entries (.record entries)
  | noTools (name : path.name? = some sharedFile) (missing : Value.entry? "tool" entries = none) :
    IsSection path entries (.record [])
  | untold (name : path.name? = some sharedFile) {tools : List (String × Value)}
    (found : Value.entry? "tool" entries = some (.record tools))
    (missing : Value.entry? "privdefs" tools = none) : IsSection path entries (.record [])
  | told (name : path.name? = some sharedFile) {tools : List (String × Value)} {v : Value}
    (found : Value.entry? "tool" entries = some (.record tools))
    (inside : Value.entry? "privdefs" tools = some v) : IsSection path entries v

/-- In a file that all tools share, what is said of them is a section. -/
def ToolsAreSection (path : FilePath) (entries : List (String × Value)) : Prop :=
  path.name? = some sharedFile → ∀ v, Value.entry? "tool" entries = some v →
    ∃ tools, v = .record tools

theorem sectionFor_eq_ok : sectionFor path entries = .ok v ↔ IsSection path entries v := by
  unfold sectionFor sharedSection
  constructor
  · intro found
    split at found
    case isFalse own =>
      cases found
      exact .own own
    case isTrue shared =>
      split at found
      case h_1 missing =>
        cases found
        exact .noTools shared missing
      case h_2 tools given =>
        cases inside : Value.entry? "privdefs" tools with
        | none =>
          rw [inside] at found
          cases found
          exact .untold shared given inside
        | some v =>
          rw [inside] at found
          cases found
          exact .told shared given inside
      case h_3 => cases found
  · intro isSection
    cases isSection with
    | own name => rw [if_neg name]
    | noTools name missing => rw [if_pos name, missing]
    | untold name found missing =>
      rw [if_pos name, found]
      dsimp only
      rw [missing]
      rfl
    | told name found inside =>
      rw [if_pos name, found]
      dsimp only
      rw [inside]
      rfl

theorem sectionFor_eq_error {fault : SettingsFault}
    (refused : sectionFor path entries = .error fault) :
    ¬ ToolsAreSection path entries ∧ fault.failure? = none := by
  unfold sectionFor sharedSection at refused
  split at refused
  case isFalse => cases refused
  case isTrue shared =>
    split at refused
    case h_1 => cases refused
    case h_2 => cases refused
    case h_3 other noRecord given =>
      cases refused
      refine ⟨fun sections => ?_, rfl⟩
      obtain ⟨tools, rfl⟩ := sections shared other given
      exact noRecord tools rfl

theorem IsSection.tools (isSection : IsSection path entries v) :
    ToolsAreSection path entries := by
  intro shared given there
  cases isSection with
  | own name => exact absurd shared name
  | noTools name missing => cases missing.symm.trans there
  | untold name found missing => exact ⟨_, Option.some.inj (there.symm.trans found)⟩
  | told name found inside => exact ⟨_, Option.some.inj (there.symm.trans found)⟩

/-! ## Content -/

theorem ofContent_encode (cs : List Char) :
    ofContent path (Encoding.utf8.encode cs) = match Toml.read cs with
      | .ok entries => sectionFor path entries >>= fun v =>
        (ofValue v).mapError (.invalid path.text)
      | .error .malformed => .error (.notToml path.text)
      | .error (.numberTooLong digits) => .error (.numberTooLong digits) := by
  have decoded : Encoding.utf8.decode (Encoding.utf8.encode cs) = ⟨cs, true⟩ :=
    Encoding.decodeUtf8_encode cs
  rw [ofContent, decoded]
  cases read : Toml.read cs with
  | ok entries => rfl
  | error fault => cases fault <;> rfl

/-- Octets that are no text are refused, and all others are those of a text. -/
theorem ofContent_cases (path : FilePath) (content : Bytes) :
    (∃ cs, content = Encoding.utf8.encode cs)
      ∨ (∀ cs, content ≠ Encoding.utf8.encode cs) ∧ ofContent path content = .error .notUtf8 := by
  by_cases whole : (Encoding.utf8.decode content).complete = true
  · exact .inl ⟨_, (Encoding.encode_decodeUtf8 whole).symm⟩
  · refine .inr ⟨fun cs same => whole ?_, ?_⟩
    · rw [same]
      exact congrArg Decoded.complete (Encoding.decodeUtf8_encode cs)
    · rw [ofContent, if_neg whole]
      rfl

/-- What comes of content, by the step at which its reading ends. -/
inductive Comes (path : FilePath) : Bytes → Except SettingsFault Settings → Prop
  | notUtf8 {content : Bytes} (noText : ∀ cs, content ≠ Encoding.utf8.encode cs) :
    Comes path content (.error .notUtf8)
  | malformed {cs : List Char} (toml : Toml.read cs = .error .malformed) :
    Comes path (Encoding.utf8.encode cs) (.error (.notToml path.text))
  | longNumber {cs : List Char} {n : Nat} (toml : Toml.read cs = .error (.numberTooLong n)) :
    Comes path (Encoding.utf8.encode cs) (.error (.numberTooLong n))
  | noSection {cs : List Char} {entries : List (String × Value)} {fault : SettingsFault}
    (toml : Toml.read cs = .ok entries) (missing : sectionFor path entries = .error fault) :
    Comes path (Encoding.utf8.encode cs) (.error fault)
  | invalid {cs : List Char} {entries : List (String × Value)} {v : Value} {issues : List Issue}
    (toml : Toml.read cs = .ok entries) (found : sectionFor path entries = .ok v)
    (checked : ofValue v = .error issues) :
    Comes path (Encoding.utf8.encode cs) (.error (.invalid path.text issues))
  | settled {cs : List Char} {entries : List (String × Value)} {v : Value} {s : Settings}
    (toml : Toml.read cs = .ok entries) (found : sectionFor path entries = .ok v)
    (checked : ofValue v = .ok s) : Comes path (Encoding.utf8.encode cs) (.ok s)

theorem comes_ofContent (path : FilePath) (content : Bytes) :
    Comes path content (ofContent path content) := by
  rcases ofContent_cases path content with ⟨cs, rfl⟩ | ⟨noText, refused⟩
  · rw [ofContent_encode]
    cases toml : Toml.read cs with
    | error reason =>
      cases reason with
      | malformed => exact .malformed toml
      | numberTooLong n => exact .longNumber toml
    | ok entries =>
      dsimp only
      cases found : sectionFor path entries with
      | error fault => exact .noSection toml found
      | ok v =>
        change Comes path _ ((ofValue v).mapError (.invalid path.text))
        cases checked : ofValue v with
        | error issues => exact .invalid toml found checked
        | ok s => exact .settled toml found checked
  · rw [refused]
    exact .notUtf8 noText

/-- Content that gives settings. -/
structure Gives (path : FilePath) (content : Bytes) (s : Settings) (cs : List Char)
    (entries part : List (String × Value)) : Prop where
  octets : content = Encoding.utf8.encode cs
  toml : Toml.read cs = .ok entries
  isPart : IsSection path entries (.record part)
  settles : Settles part s

theorem ofContent_eq_ok :
    ofContent path content = .ok s ↔ ∃ cs entries part, Gives path content s cs entries part := by
  constructor
  · intro done
    have comes := comes_ofContent path content
    rw [done] at comes
    cases comes with
    | settled toml found checked =>
      obtain ⟨part, rfl, settles⟩ := ofValue_eq_ok.mp checked
      exact ⟨_, _, part, rfl, toml, sectionFor_eq_ok.mp found, settles⟩
  · rintro ⟨cs, entries, part, rfl, read, isSection, settles⟩
    rw [ofContent_encode, read]
    dsimp only
    rw [sectionFor_eq_ok.mpr isSection]
    exact Logged.mapError_eq_ok.mpr (ofValue_eq_ok.mpr ⟨part, rfl, settles⟩)

/-- Content of which settings or a failure come: a text in UTF-8 in which no number has too many
digits, and where the tools of a file that they share have a section. -/
structure Presentable (path : FilePath) (content : Bytes) (cs : List Char) : Prop where
  octets : content = Encoding.utf8.encode cs
  numbers : ∀ n, Toml.read cs ≠ .error (.numberTooLong n)
  tools : ∀ entries, Toml.read cs = .ok entries → ToolsAreSection path entries

/-- A fault that is reported is a failure of the configuration, with the wording of the fault. -/
theorem failure?_eq_some {fault : SettingsFault} {f : Failure} :
    fault.failure? = some f
      ↔ f = ⟨.configuration, fault.message, none⟩
        ∧ ((∃ path, fault = .notToml path) ∨ ∃ path issues, fault = .invalid path issues) := by
  cases fault with
  | notToml path => simp [SettingsFault.failure?, eq_comm]
  | invalid path issues => simp [SettingsFault.failure?, eq_comm]
  | _ => simp [SettingsFault.failure?]

theorem presentable_encode_iff :
    (∃ cs', Presentable path (Encoding.utf8.encode cs) cs')
      ↔ (∀ n, Toml.read cs ≠ .error (.numberTooLong n))
        ∧ ∀ entries, Toml.read cs = .ok entries → ToolsAreSection path entries := by
  constructor
  · rintro ⟨cs', octets, numbers, tools⟩
    rw [Encoding.utf8_injective octets]
    exact ⟨numbers, tools⟩
  · rintro ⟨numbers, tools⟩
    exact ⟨cs, rfl, numbers, tools⟩

/-- The fault in content is reported exactly when the content is presentable. -/
theorem isReported_iff {fault : SettingsFault} (refused : ofContent path content = .error fault) :
    (∃ f, fault.failure? = some f) ↔ ∃ cs, Presentable path content cs := by
  have comes := comes_ofContent path content
  rw [refused] at comes
  cases comes with
  | notUtf8 noText =>
    exact iff_of_false nofun fun ⟨cs, presentable⟩ => noText cs presentable.octets
  | malformed toml =>
    refine iff_of_true ⟨_, rfl⟩ (presentable_encode_iff.mpr ?_)
    rw [toml]
    exact ⟨nofun, nofun⟩
  | longNumber toml =>
    exact iff_of_false nofun fun presentable => (presentable_encode_iff.mp presentable).1 _ toml
  | noSection toml missing =>
    obtain ⟨noSection, unreported⟩ := sectionFor_eq_error missing
    rw [unreported]
    exact iff_of_false nofun fun presentable =>
      noSection ((presentable_encode_iff.mp presentable).2 _ toml)
  | invalid toml found checked =>
    refine iff_of_true ⟨_, rfl⟩ (presentable_encode_iff.mpr ?_)
    rw [toml]
    refine ⟨nofun, ?_⟩
    rintro _ ⟨⟩
    exact (sectionFor_eq_ok.mp found).tools

theorem Gives.presentable {part : List (String × Value)}
    (gives : Gives path content s cs entries part) : Presentable path content cs where
  octets := gives.octets
  numbers n refused := by cases gives.toml.symm.trans refused
  tools entries' read := by
    cases gives.toml.symm.trans read
    exact gives.isPart.tools

/-- Settings or a fault that is reported come of content exactly when it is presentable. -/
theorem answered_iff :
    (∃ s, ofContent path content = .ok s)
        ∨ (∃ fault f, ofContent path content = .error fault ∧ fault.failure? = some f)
      ↔ ∃ cs, Presentable path content cs := by
  cases outcome : ofContent path content with
  | ok s =>
    obtain ⟨cs, entries, part, gives⟩ := ofContent_eq_ok.mp outcome
    exact iff_of_true (.inl ⟨s, rfl⟩) ⟨cs, gives.presentable⟩
  | error fault =>
    rw [← isReported_iff outcome]
    constructor
    · rintro (⟨s, done⟩ | ⟨_, f, ⟨⟩, reported⟩)
      · cases done
      · exact ⟨f, reported⟩
    · exact fun ⟨f, reported⟩ => .inr ⟨fault, f, rfl, reported⟩

/-- What stands in the way of a report: content that is no text, a number of too many digits in
it, or tools without a section. -/
inductive Obstacle (path : FilePath) (content : Bytes) : Prop
  | noText (other : ∀ cs, content ≠ Encoding.utf8.encode cs)
  | longNumber (cs : List Char) (n : Nat) (octets : content = Encoding.utf8.encode cs)
    (digits : Toml.HoldsLongNumber n cs)
  | noSection (cs : List Char) (entries : List (String × Value)) (v : Value)
    (octets : content = Encoding.utf8.encode cs) (toml : Toml.read cs = .ok entries)
    (shared : path.name? = some sharedFile) (found : Value.entry? "tool" entries = some v)
    (other : ∀ tools, v ≠ .record tools)

theorem obstacle_of_not_presentable (stands : ¬ ∃ cs, Presentable path content cs) :
    Obstacle path content := by
  by_cases text : ∃ cs, content = Encoding.utf8.encode cs
  · obtain ⟨cs, rfl⟩ := text
    rw [presentable_encode_iff] at stands
    cases read : Toml.read cs with
    | error reason =>
      cases reason with
      | malformed => exact absurd ⟨by rw [read]; nofun, by rw [read]; nofun⟩ stands
      | numberTooLong n => exact .longNumber cs n rfl (Toml.read_number read)
    | ok entries =>
      have noSection : ¬ ToolsAreSection path entries := by
        refine fun tools => stands ⟨by rw [read]; nofun, fun entries' again => ?_⟩
        cases read.symm.trans again
        exact tools
      simp only [ToolsAreSection, Classical.not_imp, not_forall, not_exists] at noSection
      obtain ⟨shared, v, found, other⟩ := noSection
      exact .noSection cs entries v rfl read shared found other
  · exact .noText fun cs same => text ⟨cs, same⟩

end PrivilegeCatalog.Settings
