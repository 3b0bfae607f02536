import Numbering.Proofs.CommandLine.NumberFile

/-!
# Settings in effect

A setting is in a settings file when the section of the file has a value for it, and then it is that
value, whatever it is (`SettingsFile.gives_of_read`). Each setting in effect in a run is that of the
options, or else that of the settings file, or else the standard one, independently of the other
two (`NumberFile.settingsOf_cases`).
-/

namespace Numbering

namespace SettingsFile

/-! ## What a section gives -/

/-- The value that a section has for a setting: under its key in a table, and in its place in an
array. -/
def valueIn? (section? : Option Toml.Value) (key : String) (place : Nat) : Option Toml.Value :=
  match section? with
  | some (.table _ entries) => Toml.Entries.lookup? key entries
  | some (.array _ items) => items[place]?
  | _ => none

/-- The settings that a section gives: exactly those for which it has a value, a zero and an empty
text included. -/
structure Gives (section? : Option Toml.Value) (settings : PartialSettings) : Prop where
  format : Option.Rel (fun value text ↦ readText "formatstr" value = .ok text)
    (valueIn? section? "formatstr" 0) settings.format
  start : Option.Rel (fun value number ↦ readNumber "start" value = .ok number)
    (valueIn? section? "start" 1) settings.start
  step : Option.Rel (fun value number ↦ readNumber "step" value = .ok number)
    (valueIn? section? "step" 2) settings.step

/-- A setting that may be missing is read from the value, if there is one. -/
theorem rel_of_readOptional {α : Type} {read : Toml.Value → Except Toml.ReadError α}
    {value? : Option Toml.Value} {setting? : Option α}
    (hread : readOptional read value? = .ok setting?) :
    Option.Rel (fun value setting ↦ read value = .ok setting) value? setting? := by
  cases value? with
  | none =>
      cases hread
      exact .none
  | some value =>
      cases hvalue : read value with
      | error error =>
          rw [readOptional, hvalue] at hread
          cases hread
      | ok setting =>
          rw [readOptional, hvalue] at hread
          cases hread
          exact .some hvalue

/-- When a step and the next ones succeed, they do so with an answer of the first one. -/
theorem exists_of_bind_eq_ok {ε α β : Type} {step : Except ε α} {next : α → Except ε β} {answer : β}
    (hbind : step >>= next = .ok answer) : ∃ first, step = .ok first ∧ next first = .ok answer := by
  cases step with
  | error error => cases hbind
  | ok first => exact ⟨first, rfl, hbind⟩

/-- The settings that are read from three values are those that the section gives. -/
theorem gives_of_readSettings {section? : Option Toml.Value} {settings : PartialSettings}
    (hread : readSettings (valueIn? section? "formatstr" 0) (valueIn? section? "start" 1)
      (valueIn? section? "step" 2) = .ok settings) : Gives section? settings := by
  obtain ⟨format, hformat, hread⟩ := exists_of_bind_eq_ok hread
  obtain ⟨start, hstart, hread⟩ := exists_of_bind_eq_ok hread
  obtain ⟨step, hstep, hread⟩ := exists_of_bind_eq_ok hread
  cases hread
  exact ⟨rel_of_readOptional hformat, rel_of_readOptional hstart, rel_of_readOptional hstep⟩

/-- The settings that are read from a section are those that it gives. -/
theorem gives_of_readSection {value : Toml.Value} {settings : PartialSettings}
    (hread : readSection value = .ok settings) : Gives (some value) settings := by
  cases value with
  | table kind entries =>
      obtain ⟨found, hfound, hread⟩ := exists_of_bind_eq_ok hread
      dsimp only at hread
      split at hread
      · cases hread
        exact gives_of_readSettings hfound
      · cases hread
  | array ofTables items => exact gives_of_readSettings hread
  | dateTime =>
      cases hread
      exact ⟨.none, .none, .none⟩
  | string | integer | float | outsized | boolean => cases hread

/-- What is read of a document is what its section gives. -/
theorem gives_of_settingsOf {document : Toml.Entries} {settings : PartialSettings}
    (hread : settingsOf document = .ok settings) :
    Gives (document.lookup? sectionName) settings := by
  unfold settingsOf at hread
  dsimp only at hread
  split at hread
  · cases hsection : document.lookup? sectionName with
    | none =>
        rw [hsection] at hread
        cases hread
        exact ⟨.none, .none, .none⟩
    | some value =>
        rw [hsection] at hread
        exact gives_of_readSection hread
  · cases hread

/-- What is read from a settings file is what the section of its document gives. -/
theorem gives_of_read [Toml.Reader] {source : String} {settings : PartialSettings}
    (hread : read source = .ok settings) :
    ∃ document, Toml.Reader.readDocument source = .ok document ∧
      Gives (document.lookup? sectionName) settings := by
  unfold read at hread
  cases hdocument : Toml.Reader.readDocument source with
  | error message =>
      rw [hdocument] at hread
      cases hread
  | ok document =>
      rw [hdocument] at hread
      dsimp only at hread
      cases hsettings : settingsOf document with
      | error error =>
          rw [hsettings] at hread
          cases hread
      | ok found =>
          rw [hsettings] at hread
          cases hread
          exact ⟨document, rfl, gives_of_settingsOf hsettings⟩

end SettingsFile

/-! ## What prevails -/

/-- A setting in effect: that of the options, or else that of the settings file, or else the
standard one. -/
inductive Prevails {α : Type} (given fromFile : Option α) (standard : α) : α → Prop where
  | given {value : α} (hgiven : given = some value) : Prevails given fromFile standard value
  | fromFile {value : α} (hgiven : given = none) (hfile : fromFile = some value) :
      Prevails given fromFile standard value
  | standard (hgiven : given = none) (hfile : fromFile = none) :
      Prevails given fromFile standard standard

/-- The first of the three that is there prevails. -/
theorem prevails_getD {α : Type} (given fromFile : Option α) (standard : α) :
    Prevails given fromFile standard (given.getD (fromFile.getD standard)) := by
  cases given with
  | some value => exact .given rfl
  | none =>
      cases fromFile with
      | some value => exact .fromFile rfl rfl
      | none => exact .standard rfl rfl

/-- Each setting in effect is settled by itself. -/
structure InEffect (given fromFile : PartialSettings) (settings : Settings) : Prop where
  format : Prevails given.format fromFile.format Settings.standard.format settings.format
  start : Prevails given.start fromFile.start Settings.standard.start settings.start
  step : Prevails given.step fromFile.step Settings.standard.step settings.step

/-- The settings of the options, filled up by those of the settings file and the standard ones, are
in effect. -/
theorem inEffect_orElse (given fromFile : PartialSettings) :
    InEffect given fromFile (given.orElse fromFile.toSettings) :=
  ⟨prevails_getD _ _ _, prevails_getD _ _ _, prevails_getD _ _ _⟩

namespace NumberFile

variable [Libraries] {surroundings : Surroundings}

/-- The settings of the settings file of a run, if it has one. -/
inductive Configured (surroundings : Surroundings) : Option String → PartialSettings → Prop where
  | nowhere : Configured surroundings none .unset
  | document {path source : String} {content : ByteArray} {document : Toml.Entries}
      {settings : PartialSettings} (hread : surroundings.read path = .ok content)
      (htext : String.fromUTF8? content = some source)
      (hdocument : Toml.Reader.readDocument source = .ok document)
      (hgives : SettingsFile.Gives (document.lookup? SettingsFile.sectionName) settings) :
      Configured surroundings (some path) settings

/-- Settings that are loaded are those that the settings file gives. -/
theorem configured_of_loadSettings {path : String} {settings : PartialSettings}
    (hload : loadSettings surroundings path = .ok settings) :
    Configured surroundings (some path) settings := by
  unfold loadSettings at hload
  dsimp only at hload
  split at hload
  · cases hload
  · rename_i content hread
    split at hload
    · cases hload
    · rename_i source htext
      split at hload
      · rename_i found hfound
        cases hload
        obtain ⟨document, hdocument, hgives⟩ := SettingsFile.gives_of_read hfound
        exact .document hread htext hdocument hgives
      · cases hload

/-- The settings of a run are those in effect, or the run fails because its settings file cannot be
read. -/
theorem settingsOf_cases (options : Options) (surroundings : Surroundings) :
    (∃ path outcome, options.config.or surroundings.configPath = some path ∧
        loadSettings surroundings path = .error outcome ∧
        settingsOf options surroundings = .error outcome) ∨
      ∃ fromFile settings,
        Configured surroundings (options.config.or surroundings.configPath) fromFile ∧
        settingsOf options surroundings = .ok settings ∧
        InEffect options.settings fromFile settings := by
  have hpath : (options.config.orElse fun _ ↦ surroundings.configPath) =
      options.config.or surroundings.configPath := Option.or_eq_orElse.symm
  unfold settingsOf
  dsimp only
  rw [hpath]
  cases options.config.or surroundings.configPath with
  | none => exact .inr ⟨.unset, _, .nowhere, rfl, inEffect_orElse _ _⟩
  | some path =>
      dsimp only
      cases hload : loadSettings surroundings path with
      | error outcome => exact .inl ⟨path, outcome, rfl, hload, rfl⟩
      | ok fromFile =>
          exact .inr ⟨fromFile, _, configured_of_loadSettings hload, rfl, inEffect_orElse _ _⟩

/-- The first pass of a run is made with the settings of the run. -/
theorem exists_insert_of_firstPass {options : Options} {settings : Settings}
    {first : PassOutcome Unit} (hsettings : settingsOf options surroundings = .ok settings)
    (hfirst : firstPass options surroundings = .ok first) :
    ∃ text, first = settings.insert .empty text := by
  rcases firstPass_cases options surroundings with
    ⟨outcome, herror, -⟩ | ⟨found, finder, text, hfound, -, -, -, hinsert⟩
  · rw [hfirst] at herror
    cases herror
  · rw [hsettings] at hfound
    cases hfound
    rw [hfirst] at hinsert
    exact ⟨MarkedText.ofMatches text finder, Except.ok.inj hinsert⟩

end NumberFile

end Numbering
