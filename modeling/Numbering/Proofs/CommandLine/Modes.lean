import Numbering.Proofs.CommandLine.FileWriting

/-!
# The modes of the numbering command

A dry run and a run that takes its text from the input make the same edit as a run that replaces its
file: what both passes come to depends on the environment, the settings, the finder, the text and
the override, and on nothing else (`edit_congr`). So the modes differ only in where the text comes
from and where the edited text goes (`modes_agree`).
-/

namespace Numbering

namespace Options

/-- Options without a prompt and without a mode, whose file is the input, are in conflict with
neither mode. -/
theorem conflict?_of_no_prompt {options : Options} (hprompt : options.prompt = false)
    (hfile : options.textFromInput = false ∨ options.file = "-") : options.conflict? = none := by
  unfold conflict?
  rw [hprompt, if_neg (by rintro ⟨hinput, hother⟩; rcases hfile with hnot | hsame <;> simp_all),
    if_neg (by simp), if_neg (by simp)]

/-- Options without a prompt and without a mode are read in the same way in front of a file and,
with `--stdin`, in front of the input. -/
theorem parse_stdin_cases {front : List String} {file : String} (hfront : IsOptionList front)
    (hfile : isFlag file = false) (hstdin : "--stdin" ∉ wordsOf front)
    (hprompt : "--prompt" ∉ wordsOf front) :
    (∃ outcome, parse (front ++ [file]) = .error outcome ∧
        parse ("--stdin" :: (front ++ ["-"])) = .error outcome) ∨
      ∃ options : Options, options.prompt = false ∧ options.textFromInput = false ∧
        parse (front ++ [file]) = .ok { options with file := file } ∧
        parse ("--stdin" :: (front ++ ["-"])) = .ok (options.inMode false true) := by
  have hhyphen : isFlag "-" = false := rfl
  have hparseInput : parseFrom unset ("--stdin" :: (front ++ ["-"])) =
      (parseFrom unset (front ++ ["-"])).map (inMode false true) :=
    (parseFrom_of_setFlag? rfl).trans (parseFrom_inMode false true unset _)
  have hparseFile := parseFrom_append_file hfront hfile hhyphen unset
  cases hparse : parseFrom unset (front ++ ["-"]) with
  | error outcome =>
      rw [hparse] at hparseInput hparseFile
      exact .inl ⟨outcome, parse_of_parseFrom_error hparseFile,
        parse_of_parseFrom_error hparseInput⟩
  | ok options =>
      have hfollow := followFrom_of_parseFrom hparse
      rw [← wordsOf_append_file hhyphen front] at hprompt hstdin
      have hnoPrompt := hfollow.prompt_eq_false hprompt
      have hnoInput := hfollow.textFromInput_eq_false hstdin
      have hlast : options.file = "-" := by
        have hsome := hfollow.file
        rw [List.getLast?_concat] at hsome
        exact (Option.some.inj hsome).symm
      rw [hparse] at hparseInput hparseFile
      exact .inr ⟨options, hnoPrompt, hnoInput,
        parse_eq_ok_iff.2 ⟨hparseFile, conflict?_of_no_prompt hnoPrompt (.inl hnoInput)⟩,
        parse_eq_ok_iff.2 ⟨hparseInput, conflict?_of_no_prompt hnoPrompt (.inr hlast)⟩⟩

end Options

namespace NumberFile

variable [Libraries] {options other : Options} {surroundings others : Surroundings}

/-- The first pass depends on the environment, the settings, the finder and the text. -/
theorem firstPass_congr (henvironment : surroundings.toEnvironment = others.toEnvironment)
    (hsettings : settingsOf options surroundings = settingsOf other others)
    (hfinder : finderOf options = finderOf other)
    (htext : textOf options surroundings = textOf other others) :
    firstPass options surroundings = firstPass other others := by
  unfold firstPass
  rw [henvironment, hsettings, hfinder, htext]

/-- Both passes depend on the environment, the settings, the finder, the text and the override. -/
theorem edit_congr (henvironment : surroundings.toEnvironment = others.toEnvironment)
    (hsettings : settingsOf options surroundings = settingsOf other others)
    (hfinder : finderOf options = finderOf other)
    (htext : textOf options surroundings = textOf other others)
    (hoverride : overrideOf options surroundings.input = overrideOf other others.input)
    (hquestion : question options = question other) :
    edit options surroundings = edit other others := by
  unfold edit printed
  rw [firstPass_congr henvironment hsettings hfinder htext, hoverride, hquestion, henvironment]

omit [Libraries] in
/-- Without a prompt the override is that of the options. -/
theorem overrideOf_of_no_prompt (hprompt : options.prompt = false) (input : ByteArray) :
    overrideOf options input = options.override := by
  unfold overrideOf
  rw [hprompt]
  rfl

omit [Libraries] in
/-- A file without zero bytes is read as the text that its bytes are as an input. -/
theorem readFile_eq {path : String} {content : ByteArray}
    (hread : surroundings.read path = .ok content) (hbytes : (0 : UInt8) ∉ content.data)
    (htext : (String.fromUTF8? content).isSome = true) :
    readFile surroundings path =
      match String.fromUTF8? content with
      | some text => .ok text
      | none => .error (.failed 1 ("failed to read stdin: " ++ FileError.invalidUtf8.message)) := by
  have hcontains : ¬ content.data.contains 0 = true := by
    rw [Array.contains_iff_mem]
    exact hbytes
  unfold readFile
  rw [hread]
  dsimp only
  rw [if_neg hcontains]
  cases htextOf : String.fromUTF8? content with
  | some text => rfl
  | none =>
      rw [htextOf] at htext
      cases htext

section Runs

variable {faults : FileFaults} {process : Nat} {arguments front : List String} {file : String}
  {tree : FileTree} {input content : ByteArray} {environment : Environment}

/-- A dry run prints what a run that succeeds leaves in its file. -/
theorem dry_run_of_success (hwords : ∀ word ∈ keepingWords, word ∉ Options.wordsOf arguments)
    (hlast : arguments.getLast? = some file)
    (hcode : (runAmong faults process arguments tree input environment).1.code = 0) :
    (runAmong faults process ("--dry-run" :: arguments) tree input environment).1.code = 0 ∧
      (runAmong faults process arguments tree input environment).2.read file =
        .ok (runAmong faults process ("--dry-run" :: arguments) tree input
          environment).1.output.toUTF8 := by
  have hparseDry := Options.parse_dryRun arguments
  cases hparse : Options.parse arguments with
  | error outcome =>
      rw [runAmong_of_parse_error hparse] at hcode
      exact absurd hcode (code_ne_zero_of_parse_error hparse hwords)
  | ok options =>
      rw [hparse] at hparseDry
      have hfollow := Options.followFrom_of_parseFrom (Options.parse_eq_ok_iff.1 hparse).1
      have hsame : options.file = file := Option.some.inj (hfollow.file.symm.trans hlast)
      cases hedit : edit options (.among faults tree input environment) with
      | error outcome =>
          rw [runAmong_of_edit_error hparse hedit] at hcode
          exact absurd hcode (isFailure_of_edit hedit).code
      | ok shownEdited =>
          obtain ⟨shown, edited⟩ := shownEdited
          obtain ⟨hinput, hdry⟩ := mode_of_not_mem hparse hwords
          obtain ⟨place, present, hlocate, -, hput⟩ :=
            exists_put_of_file hparse hedit hinput hdry hcode
          have heditDry : edit { options with dryRun := true }
              (.among faults tree input environment) = .ok (shown, edited) := hedit
          rw [runAmong_of_printing hparseDry heditDry (.inr rfl), hput, ← hsame]
          exact ⟨rfl, FileTree.read_put hlocate⟩

/-- A run in the file fails in the way the dry run fails. -/
theorem failure_of_dry_run
    (hcode : (runAmong faults process ("--dry-run" :: arguments) tree input
      environment).1.code ≠ 0) :
    (runAmong faults process arguments tree input environment).1 =
      (runAmong faults process ("--dry-run" :: arguments) tree input environment).1 := by
  have hparseDry := Options.parse_dryRun arguments
  cases hparse : Options.parse arguments with
  | error outcome =>
      rw [hparse] at hparseDry
      rw [runAmong_of_parse_error hparse, runAmong_of_parse_error hparseDry]
  | ok options =>
      rw [hparse] at hparseDry
      cases hedit : edit options (.among faults tree input environment) with
      | error outcome =>
          have heditDry : edit { options with dryRun := true }
              (.among faults tree input environment) = .error outcome := hedit
          rw [runAmong_of_edit_error hparse hedit, runAmong_of_edit_error hparseDry heditDry]
      | ok shownEdited =>
          obtain ⟨shown, edited⟩ := shownEdited
          have heditDry : edit { options with dryRun := true }
              (.among faults tree input environment) = .ok (shown, edited) := hedit
          rw [runAmong_of_printing hparseDry heditDry (.inr rfl)] at hcode
          exact absurd rfl hcode

/-- The text of a file is edited in the same way when it comes from the input. -/
theorem edit_inMode_input (hprompt : options.prompt = false)
    (hinput : options.textFromInput = false) (hread : tree.readUnder faults file = .ok content)
    (hbytes : (0 : UInt8) ∉ content.data) (htext : (String.fromUTF8? content).isSome = true) :
    edit (options.inMode false true) (.among faults tree content environment) =
      edit { options with file := file, dryRun := true }
        (.among faults tree input environment) := by
  refine edit_congr rfl rfl rfl ?_ ?_ rfl
  · have hmode : (options.inMode false true).textFromInput = true :=
      Bool.or_true options.textFromInput
    have hfileMode : ¬ options.textFromInput = true := by
      rw [hinput]
      exact Bool.false_ne_true
    unfold textOf
    rw [if_pos hmode, if_neg hfileMode]
    exact (readFile_eq hread hbytes htext).symm
  · have hpiped : overrideOf (options.inMode false true) content = options.override :=
      overrideOf_of_no_prompt hprompt content
    exact hpiped.trans (overrideOf_of_no_prompt hprompt input).symm

/-- A run that takes the text of the file from its input does what the dry run does. -/
theorem input_run_eq_dry_run (hfront : Options.IsOptionList front)
    (hfile : Options.isFlag file = false) (hstdin : "--stdin" ∉ Options.wordsOf front)
    (hprompt : "--prompt" ∉ Options.wordsOf front)
    (hread : tree.readUnder faults file = .ok content) (hbytes : (0 : UInt8) ∉ content.data)
    (htext : (String.fromUTF8? content).isSome = true) :
    (runAmong faults process ("--stdin" :: (front ++ ["-"])) tree content environment).1 =
      (runAmong faults process ("--dry-run" :: (front ++ [file])) tree input environment).1 := by
  have hparseDry := Options.parse_dryRun (front ++ [file])
  rcases Options.parse_stdin_cases hfront hfile hstdin hprompt with
    ⟨outcome, hnamed, hinput⟩ | ⟨options, hnoPrompt, hnoInput, hnamed, hinput⟩
  · rw [hnamed] at hparseDry
    rw [runAmong_of_parse_error hinput, runAmong_of_parse_error hparseDry]
  · rw [hnamed] at hparseDry
    have hsame : edit (options.inMode false true) (.among faults tree content environment) =
        edit { options with file := file, dryRun := true } (.among faults tree input environment) :=
      edit_inMode_input hnoPrompt hnoInput hread hbytes htext
    cases hedit : edit { options with file := file, dryRun := true }
        (.among faults tree input environment) with
    | error outcome =>
        rw [runAmong_of_edit_error hparseDry hedit,
          runAmong_of_edit_error hinput (hsame.trans hedit)]
    | ok shownEdited =>
        obtain ⟨shown, edited⟩ := shownEdited
        rw [runAmong_of_printing hparseDry hedit (.inr rfl),
          runAmong_of_printing hinput (hsame.trans hedit) (.inl (Bool.or_true _))]

end Runs

/-- The three modes make the same edit. For options without a mode and without help, in front of a
file: when the run in the file succeeds, the dry run succeeds and prints exactly what that run
leaves in the file; when the dry run fails, the run in the file fails with the same code and
message; and when the options are complete and without a prompt, the run that takes the bytes of the
file from its input ends and prints as the dry run does. -/
theorem modes_agree (faults : FileFaults) (process : Nat) (front : List String) (file : String)
    (tree : FileTree) (input : ByteArray) (environment : Environment)
    (hfile : Options.isFlag file = false)
    (hwords : ∀ word ∈ keepingWords, word ∉ Options.wordsOf front) :
    let inFile := runAmong faults process (front ++ [file]) tree input environment
    let dry := runAmong faults process ("--dry-run" :: (front ++ [file])) tree input environment
    (inFile.1.code = 0 → dry.1.code = 0 ∧ inFile.2.read file = .ok dry.1.output.toUTF8) ∧
      (dry.1.code ≠ 0 → inFile.1.code = dry.1.code ∧ inFile.1.errors = dry.1.errors) ∧
      ∀ content, Options.IsOptionList front → "--prompt" ∉ Options.wordsOf front →
        tree.readUnder faults file = .ok content → (0 : UInt8) ∉ content.data →
        (String.fromUTF8? content).isSome = true →
          let piped :=
            runAmong faults process ("--stdin" :: (front ++ ["-"])) tree content environment
          piped.1.code = dry.1.code ∧ piped.1.output = dry.1.output ∧
            piped.1.errors = dry.1.errors := by
  intro inFile dry
  have hall : ∀ word ∈ keepingWords, word ∉ Options.wordsOf (front ++ [file]) := by
    rw [Options.wordsOf_append_file hfile]
    exact hwords
  refine ⟨dry_run_of_success hall List.getLast?_concat, fun hcode ↦ ?_,
    fun content hfront hprompt hread hbytes htext ↦ ?_⟩
  · have hsame : inFile.1 = dry.1 := failure_of_dry_run hcode
    rw [hsame]
    exact ⟨rfl, rfl⟩
  · intro piped
    have hstdin := hwords "--stdin" (by simp [keepingWords])
    have hsame : piped.1 = dry.1 :=
      input_run_eq_dry_run hfront hfile hstdin hprompt hread hbytes htext
    rw [hsame]
    exact ⟨rfl, rfl, rfl⟩

omit [Libraries] in
/-- The three modes on one file, with an override that is refused and logged: the numbers go to the
places that the pattern finds, and all of them print the same warnings. -/
theorem modes_agree_numbered :
    letI := Libraries.standard
    let front := ["--pattern", "y|z", "--override", "5"]
    let inFile := runAmong .none 7 (front ++ ["/tmp/a"]) sampleTree .empty .unset
    let dry := runAmong .none 7 ("--dry-run" :: (front ++ ["/tmp/a"])) sampleTree .empty .unset
    let piped := runAmong .none 7 ("--stdin" :: (front ++ ["-"])) sampleTree "xy\nz".toUTF8 .unset
    let reason := (OverrideError.noPercentSign "5").message
    (dry.1.output = "x0\n1" ∧
        dry.1.errors = "[WARN] override rejected, keeping default sequence: " ++ reason ++
          "\nwarning: " ++ reason ++ "; keeping the default sequence\n") ∧
      inFile.2.read "/tmp/a" = .ok dry.1.output.toUTF8 ∧
      piped.1.output = dry.1.output ∧ piped.1.errors = dry.1.errors := by
  let := Libraries.standard
  intro front inFile dry piped reason
  have hcode : inFile.1.code = 0 := by decide +kernel
  have hdry : dry.1.output = "x0\n1" ∧
      dry.1.errors = "[WARN] override rejected, keeping default sequence: " ++ reason ++
        "\nwarning: " ++ reason ++ "; keeping the default sequence\n" := by decide +kernel
  obtain ⟨hsuccess, -, hpiped⟩ := modes_agree .none 7 front "/tmp/a" sampleTree .empty .unset
    (by decide) (by decide +kernel)
  have hbytes : (0 : UInt8) ∉ "xy\nz".toUTF8.data := by decide +kernel
  have htext : (String.fromUTF8? "xy\nz".toUTF8).isSome = true := by decide +kernel
  have hfront : Options.IsOptionList front := .value (by decide) (.value (by decide) .nil)
  obtain ⟨-, hsame, herrors⟩ := hpiped "xy\nz".toUTF8 hfront (by decide +kernel) rfl hbytes htext
  exact ⟨hdry, (hsuccess hcode).2, hsame, herrors⟩

end NumberFile

end Numbering
