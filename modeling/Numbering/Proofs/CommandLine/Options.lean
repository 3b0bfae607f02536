import Numbering.CommandLine.Options

/-!
# Command lines read word by word

The words of a command line that are read as options, `Options.wordsOf`, decide in which mode the
command runs (`Options.followFrom_of_parseFrom`). The options in front of a word do not change what
the word does, so that a change of the options which the words do not notice may be made before or
after reading them (`Options.parseFrom_change`), behind other options as well
(`Options.parseFrom_append_change`).
-/

namespace Numbering.Options

/-- The words that are read as options: those in front of the file, without the values. -/
def wordsOf : List String → List String
  | [] => []
  | word :: rest =>
      if takesValue word then
        match rest with
        | [] => [word]
        | _ :: rest => word :: wordsOf rest
      else if isFlag word then word :: wordsOf rest
      else []

/-- Options with all their values, known or not. -/
inductive IsOptionList : List String → Prop where
  | nil : IsOptionList []
  | flag {word : String} {rest : List String} (hflag : isFlag word = true)
      (hvalue : takesValue word = false) (hrest : IsOptionList rest) : IsOptionList (word :: rest)
  | value {word value : String} {rest : List String} (hvalue : takesValue word = true)
      (hrest : IsOptionList rest) : IsOptionList (word :: value :: rest)

/-! ## Single words -/

variable {options after : Options} {word value file : String} {arguments : List String}

/-- A flag sets its own field. -/
theorem setFlag?_eq_some_iff : options.setFlag? word = some after ↔
    (word = "--dry-run" ∧ after = { options with dryRun := true }) ∨
      (word = "--stdin" ∧ after = { options with textFromInput := true }) ∨
      (word = "--prompt" ∧ after = { options with prompt := true }) := by
  unfold setFlag?
  split <;> grind

/-- The options that take a value, in a list. -/
theorem takesValue_iff : takesValue word = true ↔
    word ∈ ["--format", "--start", "--step", "--pattern", "--config", "--override"] := by
  simp [takesValue, or_assoc]

/-- A word that is set without a value looks like an option and takes no value. -/
theorem isFlag_of_setFlag? (hflag : options.setFlag? word = some after) :
    isFlag word = true ∧ takesValue word = false := by
  rcases setFlag?_eq_some_iff.1 hflag with ⟨rfl, -⟩ | ⟨rfl, -⟩ | ⟨rfl, -⟩ <;> decide

/-- A word that takes a value looks like an option. -/
theorem isFlag_of_takesValue (hvalue : takesValue word = true) : isFlag word = true := by
  simp only [takesValue_iff, List.mem_cons, List.not_mem_nil, or_false] at hvalue
  rcases hvalue with rfl | rfl | rfl | rfl | rfl | rfl <;> decide

/-- A value leaves the mode of the run as it is. -/
theorem mode_of_setValue (hset : options.setValue word value = .ok after) :
    after.dryRun = options.dryRun ∧ after.textFromInput = options.textFromInput ∧
      after.prompt = options.prompt := by
  unfold setValue at hset
  dsimp only at hset
  cases hnumber : numberOf word value <;> rw [hnumber] at hset <;> split at hset <;> cases hset <;>
    exact ⟨rfl, rfl, rfl⟩

/-- A word that takes a value is not set without one. -/
theorem setFlag?_of_takesValue (hvalue : takesValue word = true) :
    options.setFlag? word = none := by
  cases hflag : options.setFlag? word with
  | none => rfl
  | some after =>
      rw [(isFlag_of_setFlag? hflag).2] at hvalue
      cases hvalue

/-- A word that does not look like an option is not set as one. -/
theorem setFlag?_of_not_isFlag (hword : isFlag word = false) : options.setFlag? word = none := by
  cases hflag : options.setFlag? word with
  | none => rfl
  | some after =>
      rw [(isFlag_of_setFlag? hflag).1] at hword
      cases hword

/-! ## Reading one word -/

section Word

variable {rest : List String}

/-- Reading goes on behind an option without a value. -/
theorem parseFrom_of_setFlag? (hset : options.setFlag? word = some after) :
    parseFrom options (word :: rest) = parseFrom after rest := by
  rw [parseFrom.eq_def]
  dsimp only
  rw [hset]

/-- Reading goes on behind an option and its value, if the value is accepted. -/
theorem parseFrom_of_takesValue (hvalue : takesValue word = true) :
    parseFrom options (word :: value :: rest) =
      match options.setValue word value with
      | .ok after => parseFrom after rest
      | .error outcome => .error outcome := by
  rw [parseFrom.eq_def]
  dsimp only
  rw [setFlag?_of_takesValue hvalue]
  exact if_pos hvalue

/-- A word that is no option of either kind ends the reading in the same way, whatever options stand
in front of it. -/
theorem parseFrom_of_other (hset : options.setFlag? word = none)
    (hvalue : ¬ takesValue word = true) : parseFrom options (word :: rest) =
      if word = "--help" ∨ word = "-h" then .error (.plain 0 "" usage)
      else if isFlag word then
        .error (.plain 2 "" ("error: unknown flag " ++ word ++ "\n" ++ usage))
      else if rest.isEmpty then .ok { options with file := word }
      else .error (.plain 2 "" usage) := by
  rw [parseFrom.eq_def]
  dsimp only
  rw [hset, if_neg hvalue]

end Word

/-! ## Options changed in front of others -/

/-- An option without a value is one of the words, and so are those behind it. -/
theorem wordsOf_of_isFlag {rest : List String} (hvalue : takesValue word = false)
    (hflag : isFlag word = true) : wordsOf (word :: rest) = word :: wordsOf rest := by
  rw [wordsOf.eq_def]
  dsimp only
  rw [if_neg (by rw [hvalue]; exact Bool.false_ne_true), if_pos hflag]

/-- An option with a value is one of the words, and its value is none. -/
theorem wordsOf_of_takesValue {rest : List String} (hvalue : takesValue word = true) :
    wordsOf (word :: value :: rest) = word :: wordsOf rest := by
  rw [wordsOf.eq_def]
  dsimp only
  rw [if_pos hvalue]

/-- A file is no word, and it ends the words. -/
theorem wordsOf_of_file {rest : List String} (hfile : isFlag file = false) :
    wordsOf (file :: rest) = [] := by
  have hvalue : ¬ takesValue file = true := fun hvalue ↦ by
    rw [isFlag_of_takesValue hvalue] at hfile
    cases hfile
  rw [wordsOf.eq_def]
  dsimp only
  rw [if_neg hvalue, if_neg (by rw [hfile]; exact Bool.false_ne_true)]

/-- A change of the options that makes no difference to some words: each of them does after the
change what it does before it. -/
structure PassesBy (change : Options → Options) (words : List String) : Prop where
  flag (options : Options) (word : String) :
    (change options).setFlag? word = (options.setFlag? word).map change
  value (options : Options) (word value : String) (hword : word ∈ words)
    (hvalue : takesValue word = true) :
    (change options).setValue word value = (options.setValue word value).map change
  file (options : Options) (file : String) :
    { change options with file := file } = change { options with file := file }

/-- A change that makes no difference to some words makes none to fewer of them. -/
theorem PassesBy.tail {change : Options → Options} {words : List String}
    (hchange : PassesBy change (word :: words)) : PassesBy change words :=
  { hchange with
    value := fun options other value hother ↦
      hchange.value options other value (List.mem_cons_of_mem word hother) }

/-- A change that makes no difference to the words of a command line may as well be made after
reading it. -/
theorem parseFrom_change {change : Options → Options}
    (hchange : PassesBy change (wordsOf arguments)) (options : Options) :
    parseFrom (change options) arguments = (parseFrom options arguments).map change := by
  fun_induction parseFrom options arguments with
  | case1 options => rfl
  | case2 options word rest after hset ih =>
      obtain ⟨hflag, hvalue⟩ := isFlag_of_setFlag? hset
      rw [wordsOf_of_isFlag hvalue hflag] at hchange
      rw [parseFrom_of_setFlag? ((hchange.flag ..).trans (congrArg _ hset))]
      exact ih hchange.tail
  | case3 options word hset hvalue =>
      rw [parseFrom.eq_def]
      dsimp only
      rw [setFlag?_of_takesValue hvalue, if_pos hvalue]
      rfl
  | case4 options word hset hvalue value rest after hok ih =>
      rw [wordsOf_of_takesValue hvalue] at hchange
      rw [parseFrom_of_takesValue hvalue,
        hchange.value options word value List.mem_cons_self hvalue, hok]
      exact ih hchange.tail
  | case5 options word hset hvalue value rest outcome herror =>
      rw [wordsOf_of_takesValue hvalue] at hchange
      rw [parseFrom_of_takesValue hvalue,
        hchange.value options word value List.mem_cons_self hvalue, herror]
      rfl
  | case6 options word rest hset hvalue hhelp =>
      rw [parseFrom_of_other ((hchange.flag ..).trans (congrArg _ hset)) hvalue, if_pos hhelp]
      rfl
  | case7 options word rest hset hvalue hhelp hflag =>
      rw [parseFrom_of_other ((hchange.flag ..).trans (congrArg _ hset)) hvalue, if_neg hhelp,
        if_pos hflag]
      rfl
  | case8 options word rest hset hvalue hhelp hflag hlast =>
      rw [parseFrom_of_other ((hchange.flag ..).trans (congrArg _ hset)) hvalue, if_neg hhelp,
        if_neg hflag, if_pos hlast, hchange.file]
      rfl
  | case9 options word rest hset hvalue hhelp hflag hmore =>
      rw [parseFrom_of_other ((hchange.flag ..).trans (congrArg _ hset)) hvalue, if_neg hhelp,
        if_neg hflag, if_neg hmore]
      rfl

/-- What the arguments behind some options come to, changed, is what the whole command line comes
to, changed in the same way. -/
theorem parseFrom_append_change {change : Options → Options} {front back others : List String}
    (hfront : IsOptionList front)
    (hback : ∀ options, parseFrom options back = (parseFrom options others).map change)
    (options : Options) :
    parseFrom options (front ++ back) = (parseFrom options (front ++ others)).map change := by
  induction hfront generalizing options with
  | nil => exact hback options
  | @flag word rest hflag hvalue hrest ih =>
      rw [List.cons_append, List.cons_append]
      cases hset : options.setFlag? word with
      | some after =>
          rw [parseFrom_of_setFlag? hset, parseFrom_of_setFlag? hset]
          exact ih after
      | none =>
          -- Help and an unknown flag end the reading there.
          have hnotValue : ¬ takesValue word = true := by
            rw [hvalue]
            exact Bool.false_ne_true
          rw [parseFrom_of_other hset hnotValue, parseFrom_of_other hset hnotValue, if_pos hflag,
            if_pos hflag]
          by_cases hhelp : word = "--help" ∨ word = "-h"
          · rw [if_pos hhelp]
            rfl
          · rw [if_neg hhelp]
            rfl
  | @value word value rest hvalue hrest ih =>
      rw [List.cons_append, List.cons_append, List.cons_append, List.cons_append,
        parseFrom_of_takesValue hvalue, parseFrom_of_takesValue hvalue]
      cases options.setValue word value with
      | ok after => exact ih after
      | error outcome => rfl

/-! ## The mode of a run -/

/-- The options with a mode chosen in front of them. -/
def inMode (dryRun textFromInput : Bool) (options : Options) : Options :=
  { options with
    dryRun := options.dryRun || dryRun
    textFromInput := options.textFromInput || textFromInput }

/-- A mode makes no difference to any words. -/
theorem passesBy_inMode (dryRun textFromInput : Bool) (words : List String) :
    PassesBy (inMode dryRun textFromInput) words where
  flag options word := by
    unfold setFlag?
    split <;> rfl
  value options word value _ _ := by
    unfold setValue
    dsimp only
    cases numberOf word value <;> split <;> rfl
  file _ _ := rfl

/-- A mode chosen in front is kept, and everything else is read as without it. -/
theorem parseFrom_inMode (dryRun textFromInput : Bool) (options : Options)
    (arguments : List String) :
    parseFrom (options.inMode dryRun textFromInput) arguments =
      (parseFrom options arguments).map (inMode dryRun textFromInput) :=
  parseFrom_change (passesBy_inMode dryRun textFromInput _) options

/-! ## The words of a command line -/

/-- The file is no word that is read as an option, and neither is a value in its place. -/
theorem wordsOf_append_file (hfile : isFlag file = false) (front : List String) :
    wordsOf (front ++ [file]) = wordsOf front := by
  fun_induction wordsOf front with
  | case1 => exact wordsOf_of_file hfile
  | case2 word hvalue =>
      show wordsOf [word, file] = [word]
      rw [wordsOf_of_takesValue hvalue]
      rfl
  | case3 word hvalue value rest ih =>
      show wordsOf (word :: value :: (rest ++ [file])) = word :: wordsOf rest
      rw [wordsOf_of_takesValue hvalue, ih]
  | case4 word rest hvalue hflag ih =>
      show wordsOf (word :: (rest ++ [file])) = word :: wordsOf rest
      rw [wordsOf_of_isFlag (by simpa using hvalue) hflag, ih]
  | case5 word rest hvalue hflag => exact wordsOf_of_file (by simpa using hflag)

/-- What the words of a command line that is read to its end say about the options after it, given
those in front: in which mode the command runs, that help is not asked for, and that the file is the
last argument of all. -/
structure FollowFrom (options : Options) (arguments : List String) (after : Options) : Prop where
  dryRun : after.dryRun = true ↔ options.dryRun = true ∨ "--dry-run" ∈ wordsOf arguments
  textFromInput :
    after.textFromInput = true ↔ options.textFromInput = true ∨ "--stdin" ∈ wordsOf arguments
  prompt : after.prompt = true ↔ options.prompt = true ∨ "--prompt" ∈ wordsOf arguments
  help : "--help" ∉ wordsOf arguments ∧ "-h" ∉ wordsOf arguments
  file : arguments.getLast? = some after.file

/-- Options come from at least one argument. -/
theorem FollowFrom.ne_nil (hfollow : FollowFrom options arguments after) : arguments ≠ [] := by
  intro hnil
  have hfile := hfollow.file
  rw [hnil] at hfile
  cases hfile

/-- Without the word for it there is no prompt. -/
theorem FollowFrom.prompt_eq_false (hfollow : FollowFrom unset arguments after)
    (hwords : "--prompt" ∉ wordsOf arguments) : after.prompt = false := by
  rw [← Bool.not_eq_true, hfollow.prompt]
  simpa [unset] using hwords

/-- Without the word for it the text is that of the file. -/
theorem FollowFrom.textFromInput_eq_false (hfollow : FollowFrom unset arguments after)
    (hwords : "--stdin" ∉ wordsOf arguments) : after.textFromInput = false := by
  rw [← Bool.not_eq_true, hfollow.textFromInput]
  simpa [unset] using hwords

/-- Options that are read follow from the words. -/
theorem followFrom_of_parseFrom (hparse : parseFrom options arguments = .ok after) :
    FollowFrom options arguments after := by
  fun_induction parseFrom options arguments with
  | case1 | case3 | case5 | case6 | case7 | case9 => cases hparse
  | case2 options word rest between hset ih =>
      obtain ⟨hflag, hvalue⟩ := isFlag_of_setFlag? hset
      have hrest := ih hparse
      have hwords : wordsOf (word :: rest) = word :: wordsOf rest :=
        wordsOf_of_isFlag hvalue hflag
      have hlast := (List.getLast?_cons_of_ne_nil (x := word) hrest.ne_nil).trans hrest.file
      obtain ⟨hdry, hinput, hprompt, hhelp, -⟩ := hrest
      rcases setFlag?_eq_some_iff.1 hset with ⟨rfl, rfl⟩ | ⟨rfl, rfl⟩ | ⟨rfl, rfl⟩
      · refine ⟨?_, ?_, ?_, ?_, hlast⟩ <;> rw [hwords] <;> simp [hdry, hinput, hprompt, hhelp]
      · refine ⟨?_, ?_, ?_, ?_, hlast⟩ <;> rw [hwords] <;> simp [hdry, hinput, hprompt, hhelp]
      · refine ⟨?_, ?_, ?_, ?_, hlast⟩ <;> rw [hwords] <;> simp [hdry, hinput, hprompt, hhelp]
  | case4 options word hset hvalue value rest between hok ih =>
      have hrest := ih hparse
      have hwords : wordsOf (word :: value :: rest) = word :: wordsOf rest :=
        wordsOf_of_takesValue hvalue
      have hlast := (List.getLast?_cons_of_ne_nil (x := value) hrest.ne_nil).trans hrest.file
      obtain ⟨hdry, hinput, hprompt, hhelp, -⟩ := hrest
      obtain ⟨hsameDry, hsameInput, hsamePrompt⟩ := mode_of_setValue hok
      -- No option with a value is one of the words that say what to do.
      have hother : word ≠ "--dry-run" ∧ word ≠ "--stdin" ∧ word ≠ "--prompt" ∧ word ≠ "--help" ∧
          word ≠ "-h" := by
        refine ⟨?_, ?_, ?_, ?_, ?_⟩ <;> rintro rfl <;> exact absurd hvalue (by decide)
      obtain ⟨hnotDry, hnotInput, hnotPrompt, hnotHelp, hnotShort⟩ := hother
      refine ⟨?_, ?_, ?_, ?_, hlast⟩ <;> rw [hwords]
      · rw [hdry, hsameDry, List.mem_cons, or_iff_right (Ne.symm hnotDry)]
      · rw [hinput, hsameInput, List.mem_cons, or_iff_right (Ne.symm hnotInput)]
      · rw [hprompt, hsamePrompt, List.mem_cons, or_iff_right (Ne.symm hnotPrompt)]
      · rw [List.mem_cons, List.mem_cons, or_iff_right (Ne.symm hnotHelp),
          or_iff_right (Ne.symm hnotShort)]
        exact hhelp
  | case8 options word rest hset hvalue hhelp hflag hlast =>
      cases hparse
      rw [List.isEmpty_iff.1 hlast]
      have hwords : wordsOf [word] = [] := wordsOf_of_file (by simpa using hflag)
      refine ⟨?_, ?_, ?_, ?_, rfl⟩ <;> rw [hwords] <;> simp

/-! ## The file -/

/-- A file is read as the file. -/
theorem parseFrom_file (hfile : isFlag file = false) (options : Options) :
    parseFrom options [file] = .ok { options with file := file } := by
  have hvalue : ¬ takesValue file = true := fun hvalue ↦ by
    rw [isFlag_of_takesValue hvalue] at hfile
    cases hfile
  have hhelp : ¬ (file = "--help" ∨ file = "-h") := by
    rintro (rfl | rfl) <;> cases hfile
  rw [parseFrom_of_other (setFlag?_of_not_isFlag hfile) hvalue, if_neg hhelp,
    if_neg (by rw [hfile]; exact Bool.false_ne_true)]
  rfl

/-- Behind options with all their values, the file is only named. -/
theorem parseFrom_append_file {front : List String} {other : String} (hfront : IsOptionList front)
    (hfile : isFlag file = false) (hother : isFlag other = false) (options : Options) :
    parseFrom options (front ++ [file]) =
      (parseFrom options (front ++ [other])).map fun after ↦ { after with file := file } :=
  parseFrom_append_change hfront (fun options ↦ by
    rw [parseFrom_file hfile, parseFrom_file hother]
    rfl) options

/-! ## A mode chosen in front -/

/-- The mode of a dry run alone. -/
theorem inMode_dryRun (options : Options) :
    options.inMode true false = { options with dryRun := true } := by
  unfold inMode
  rw [Bool.or_true, Bool.or_false]

/-- A flag in front that asks for a dry run changes nothing else. -/
theorem parse_dryRun (arguments : List String) :
    parse ("--dry-run" :: arguments) =
      (parse arguments).map fun options ↦ { options with dryRun := true } := by
  have hfront : parseFrom unset ("--dry-run" :: arguments) =
      (parseFrom unset arguments).map (inMode true false) :=
    (parseFrom_of_setFlag? rfl).trans (parseFrom_inMode true false unset arguments)
  unfold parse
  rw [hfront]
  cases parseFrom unset arguments with
  | error outcome => rfl
  | ok options =>
      have hconflict : (options.inMode true false).conflict? = options.conflict? := by
        rw [inMode_dryRun]
        rfl
      dsimp only [Except.map]
      rw [hconflict, inMode_dryRun]
      cases options.conflict? <;> rfl

end Numbering.Options
