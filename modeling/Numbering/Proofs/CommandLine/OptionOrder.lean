import Mathlib.Data.List.Basic
import Mathlib.Logic.Function.Basic
import Numbering.Proofs.CommandLine.FileWriting
import Numbering.Proofs.CommandLine.SettingsFile

/-!
# Options in any order

A command line of complete options in front of a file is always read to its end, and what is read
depends on the file and on the last option of each name only (`Options.parseFrom_commandLine`). So
the order of options with different names makes no difference to a run, and of the options with one
name all but the last make none (`NumberFile.options_in_any_order`). Each setting in effect is that
of its own option, or else that of the settings file, or else the standard one, where the settings
file has just the settings for which its section has a value (`SettingsFile.gives_of_read`).
-/

namespace Numbering

namespace Options

/-! ## Options as they are written -/

/-- The names of the options without a value. -/
def flagNames : List String := ["--dry-run", "--stdin", "--prompt"]

/-- The names of the options whose value may be any text. -/
def textNames : List String := ["--format", "--pattern", "--config", "--override"]

/-- The names of the options whose value is a number. -/
def numberNames : List String := ["--start", "--step"]

/-- A name and a value that make up an option. A text may look like an option itself. -/
inductive IsEntry : String → Option String → Prop where
  | flag {name : String} (hname : name ∈ flagNames) : IsEntry name none
  | text {name value : String} (hname : name ∈ textNames) : IsEntry name (some value)
  | number {name value : String} (hname : name ∈ numberNames)
      (hnumber : (Literal.readOption? value.toList).isSome = true) : IsEntry name (some value)

/-- An option as it is written, with its value if it takes one. -/
structure Entry where
  name : String
  value? : Option String
  isEntry : IsEntry name value?

/-- The words of an option. -/
def Entry.words (entry : Entry) : List String := entry.name :: entry.value?.toList

/-- The command line of some options in front of a file. -/
def commandLine (entries : List Entry) (file : String) : List String :=
  entries.flatMap Entry.words ++ [file]

/-- The last option of a name. -/
def lastOf (entries : List Entry) (name : String) : Option Entry :=
  (entries.filter (·.name = name)).getLast?

/-- The other options are the same ones in an order that keeps those of one name in their order. -/
structure Reordered (entries others : List Entry) : Prop where
  perm : entries.Perm others
  order (name : String) : entries.filter (·.name = name) = others.filter (·.name = name)

/-! ## The last option of each name -/

section Last

variable (last : String → Option Entry)

/-- The value of the last option of a name. -/
def lastText (name : String) : Option String := (last name).bind Entry.value?

/-- The number of the last option of a name. -/
def lastNumber (name : String) : Option Binary64 :=
  (lastText last name).bind fun value ↦ Literal.readOption? value.toList

/-- What the last options of each name and a file stand for. -/
def ofLast (file : String) : Options where
  dryRun := (last "--dry-run").isSome
  textFromInput := (last "--stdin").isSome
  prompt := (last "--prompt").isSome
  settings := ⟨lastText last "--format", lastNumber last "--start", lastNumber last "--step"⟩
  pattern := lastText last "--pattern"
  config := lastText last "--config"
  override := lastText last "--override"
  file := file

end Last

/-- Options in another order have the same last ones. -/
theorem lastOf_eq_of_reordered {entries others : List Entry}
    (hreordered : Reordered entries others) : lastOf others = lastOf entries := by
  funext name
  unfold lastOf
  rw [hreordered.order]

/-- One more option is the last one of its name, and the last ones of other names stay. -/
theorem lastOf_append_singleton (entries : List Entry) (entry : Entry) :
    lastOf (entries ++ [entry]) = Function.update (lastOf entries) entry.name (some entry) := by
  funext name
  unfold lastOf
  rw [List.filter_append]
  by_cases hname : entry.name = name
  · subst hname
    simp
  · rw [Function.update_of_ne (Ne.symm hname)]
    simp [hname]

/-! ## Reading the options -/

section Reading

variable {last : String → Option Entry} {entry : Entry} {name value file : String}

/-- A flag that is read is the last one of its name. -/
theorem setFlag?_ofLast (hname : name ∈ flagNames) :
    (ofLast last file).setFlag? name =
      some (ofLast (Function.update last name (some entry)) file) := by
  simp only [flagNames, List.mem_cons, List.not_mem_nil, or_false] at hname
  rcases hname with rfl | rfl | rfl <;> simp [setFlag?, ofLast, lastText, lastNumber]

/-- An option with a value takes a value. -/
theorem takesValue_of_isEntry (hentry : IsEntry name (some value)) : takesValue name = true := by
  have htexts : ∀ other ∈ textNames, takesValue other = true := by decide
  have hnumbers : ∀ other ∈ numberNames, takesValue other = true := by decide
  cases hentry with
  | text hname => exact htexts name hname
  | number hname => exact hnumbers name hname

/-- An option that is read with its value is the last one of its name. -/
theorem setValue_ofLast (hentry : IsEntry name (some value)) (hvalue : entry.value? = some value) :
    (ofLast last file).setValue name value =
      .ok (ofLast (Function.update last name (some entry)) file) := by
  cases hentry with
  | text hname =>
      simp only [textNames, List.mem_cons, List.not_mem_nil, or_false] at hname
      rcases hname with rfl | rfl | rfl | rfl <;>
        simp [setValue, ofLast, lastText, lastNumber, hvalue]
  | number hname hnumber =>
      obtain ⟨number, hread⟩ := Option.isSome_iff_exists.1 hnumber
      simp only [numberNames, List.mem_cons, List.not_mem_nil, or_false] at hname
      rcases hname with rfl | rfl <;>
        simp [setValue, numberOf, ofLast, lastText, lastNumber, hvalue, hread, Except.map]

/-- An option without a value is a flag. -/
theorem Entry.mem_flagNames (hvalue : entry.value? = none) : entry.name ∈ flagNames := by
  have hentry := entry.isEntry
  rw [hvalue] at hentry
  cases hentry with
  | flag hname => exact hname

/-- Reading one option, with its value, makes it the last one of its name. -/
theorem parseFrom_words (last : String → Option Entry) (entry : Entry) (file : String)
    (rest : List String) :
    parseFrom (ofLast last file) (entry.words ++ rest) =
      parseFrom (ofLast (Function.update last entry.name (some entry)) file) rest := by
  cases hvalue : entry.value? with
  | none =>
      rw [Entry.words, hvalue]
      exact parseFrom_of_setFlag? (setFlag?_ofLast (Entry.mem_flagNames hvalue))
  | some value =>
      have hentry : IsEntry entry.name (some value) := hvalue ▸ entry.isEntry
      rw [Entry.words, hvalue]
      -- The value is the next word, and it is taken as it stands.
      refine (parseFrom_of_takesValue (takesValue_of_isEntry hentry)).trans ?_
      rw [setValue_ofLast hentry hvalue]
      rfl

/-- Behind some options, reading further ones leaves the last option of each name. -/
theorem parseFrom_flatMap_words (front back : List Entry) (file : String) (rest : List String) :
    parseFrom (ofLast (lastOf front) file) (back.flatMap Entry.words ++ rest) =
      parseFrom (ofLast (lastOf (front ++ back)) file) rest := by
  induction back generalizing front with
  | nil => rw [List.append_nil, List.flatMap_nil, List.nil_append]
  | cons entry back ih =>
      rw [List.flatMap_cons, List.append_assoc, parseFrom_words, ← lastOf_append_singleton, ih,
        List.append_assoc, List.singleton_append]

/-- A command line of options in front of a file is read to its end. -/
theorem parseFrom_commandLine (entries : List Entry) (hfile : isFlag file = false) :
    parseFrom unset (commandLine entries file) = .ok (ofLast (lastOf entries) file) := by
  have hunset : unset = ofLast (lastOf []) "" := rfl
  rw [hunset, commandLine, parseFrom_flatMap_words, List.nil_append, parseFrom_file hfile]
  rfl

end Reading

end Options

namespace NumberFile

variable [Libraries]

/-- Two command lines make the same run everywhere: it ends with the same code, prints the same, and
leaves the same files. -/
def SameRuns (arguments others : List String) : Prop :=
  ∀ (faults : FileFaults) (process : Nat) (tree : FileTree) (input : ByteArray)
    (environment : Environment),
    runAmong faults process others tree input environment =
      runAmong faults process arguments tree input environment

/-- A run depends on what its command line is read as. -/
theorem sameRuns_of_parseFrom {arguments others : List String}
    (hparse : Options.parseFrom .unset others = Options.parseFrom .unset arguments) :
    SameRuns arguments others := by
  intro faults process tree input environment
  unfold runAmong run Options.parse
  rw [hparse]

/-- The order of options does not matter, and of the options with one name only the last one does.
For all options with their values, whatever these look like, in front of a file: the command line is
read to its end, as options that depend on the file and the last option of each name; all options
with the same last ones of each name make the same run, and so do these options in any other order
that keeps the order of those with one name; and unless the settings file cannot be read, the first
pass is made with settings each of which is that of its own last option, or else that of the
settings file, or else the standard one. -/
theorem options_in_any_order (entries : List Options.Entry) (file : String)
    (hfile : Options.isFlag file = false) :
    let last := Options.lastOf entries
    let arguments := Options.commandLine entries file
    Options.parseFrom .unset arguments = .ok (.ofLast last file) ∧
      (∀ others, (∀ name, Options.lastOf others name = last name) →
        SameRuns arguments (Options.commandLine others file)) ∧
      (∀ others, Options.Reordered entries others →
        SameRuns arguments (Options.commandLine others file)) ∧
      ∀ surroundings : Surroundings,
        let path? := (Options.lastText last "--config").or surroundings.configPath
        (∃ path outcome, path? = some path ∧ loadSettings surroundings path = .error outcome ∧
            settingsOf (.ofLast last file) surroundings = .error outcome) ∨
          ∃ fromFile settings, Configured surroundings path? fromFile ∧
            settingsOf (.ofLast last file) surroundings = .ok settings ∧
            (∀ first, firstPass (.ofLast last file) surroundings = .ok first →
              ∃ text, first = settings.insert .empty text) ∧
            InEffect ⟨Options.lastText last "--format", Options.lastNumber last "--start",
              Options.lastNumber last "--step"⟩ fromFile settings := by
  intro last arguments
  have hlast : ∀ others, (∀ name, Options.lastOf others name = last name) →
      SameRuns arguments (Options.commandLine others file) := by
    intro others hsame
    refine sameRuns_of_parseFrom ?_
    rw [Options.parseFrom_commandLine others hfile, Options.parseFrom_commandLine entries hfile,
      funext hsame]
  refine ⟨Options.parseFrom_commandLine entries hfile, hlast, fun others hreordered ↦ ?_,
    fun surroundings ↦ ?_⟩
  · exact hlast others (congrFun (Options.lastOf_eq_of_reordered hreordered))
  · rcases settingsOf_cases (.ofLast last file) surroundings with
      hunread | ⟨fromFile, settings, hconfigured, hsettings, heffect⟩
    · exact .inl hunread
    · exact .inr ⟨fromFile, settings, hconfigured, hsettings,
        fun first hfirst ↦ exists_insert_of_firstPass hsettings hfirst, heffect⟩

/-- A text of two lines, and a settings file with a start and a step in the working directory. -/
def configuredTree : FileTree where
  workingDirectory := ["home"]
  directories := []
  files := [(["tmp", "a"], "x\ny".toUTF8),
    (["home", "c"], "[insertnum]\nstart = 5\nstep = 0\n".toUTF8)]

/-- A format that looks like an option. -/
def formatEntry : Options.Entry := ⟨"--format", some "--prompt%d", .text (by decide)⟩

/-- The path of the settings file. -/
def configEntry : Options.Entry := ⟨"--config", some "c", .text (by decide)⟩

/-- A start that another one follows. -/
def earlierStart : Options.Entry := ⟨"--start", some "7", .number (by decide) (by decide +kernel)⟩

/-- A start that is a zero. -/
def laterStart : Options.Entry := ⟨"--start", some "0", .number (by decide) (by decide +kernel)⟩

omit [Libraries] in
/-- The start is the later one, although it is zero, and the step is that of the settings file. -/
theorem options_in_any_order_zero :
    letI := Libraries.standard
    let run := fun arguments ↦ runAmong .none 7 arguments configuredTree .empty .unset
    let inOrder := run
      ["--format", "--prompt%d", "--start", "7", "--config", "c", "--start", "0", "/tmp/a"]
    let reordered := run
      ["--config", "c", "--format", "--prompt%d", "--start", "7", "--start", "0", "/tmp/a"]
    let shortened := run ["--start", "0", "--format", "--prompt%d", "--config", "c", "/tmp/a"]
    inOrder.1.output = "--prompt0\n--prompt0\n" ∧ reordered = inOrder ∧ shortened = inOrder := by
  let := Libraries.standard
  intro run inOrder reordered shortened
  have houtput : inOrder.1.output = "--prompt0\n--prompt0\n" := by decide +kernel
  obtain ⟨-, hlast, horder, -⟩ :=
    options_in_any_order [formatEntry, earlierStart, configEntry, laterStart] "/tmp/a" (by decide)
  have hreordered : Options.Reordered [formatEntry, earlierStart, configEntry, laterStart]
      [configEntry, formatEntry, earlierStart, laterStart] := by
    refine ⟨@List.perm_middle _ _ [formatEntry, earlierStart] [laterStart], fun name ↦ ?_⟩
    by_cases hname : name = "--config"
    · subst hname
      rfl
    · simp [List.filter_cons, configEntry, Ne.symm hname]
  have hlastOf : ∀ name, Options.lastOf [laterStart, formatEntry, configEntry] name =
      Options.lastOf [formatEntry, earlierStart, configEntry, laterStart] name := by
    intro name
    by_cases hstart : name = "--start"
    · subst hstart
      rfl
    · simp [Options.lastOf, List.filter_cons, earlierStart, laterStart, Ne.symm hstart]
  exact ⟨houtput, horder _ hreordered .none 7 configuredTree .empty .unset,
    hlast _ hlastOf .none 7 configuredTree .empty .unset⟩

end NumberFile

end Numbering
