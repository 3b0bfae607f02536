import Numbering.Proofs.CommandLine.InputLine
import Numbering.Proofs.CommandLine.Modes

/-!
# The override from a prompt

A run that asks for its override on the way is the run that has the answer as its override from the
start: both read the rest of the command line in the same way (`Options.parse_asking_cases`), both
make the same first pass, and what the second pass and the writing come to depends on the override
and not on its source (`prompt_eq_override`). The two differ by the question, which is printed only
when the first pass succeeds, behind what that pass has logged.
-/

namespace Numbering

namespace Options

variable {front back : List String} {options : Options}

/-! ## The override in front of other arguments -/

/-- A prompt makes no difference to the other words. -/
theorem passesBy_prompt (words : List String) :
    PassesBy (fun options ↦ { options with prompt := true }) words where
  flag options word := by
    unfold setFlag?
    split <;> rfl
  value options word value _ _ := by
    unfold setValue
    dsimp only
    cases numberOf word value <;> split <;> rfl
  file _ _ := rfl

/-- An override makes no difference to other words than the one that sets it. -/
theorem passesBy_override (override : Option String) {words : List String}
    (hwords : "--override" ∉ words) :
    PassesBy (fun options ↦ { options with override := override }) words where
  flag options word := by
    unfold setFlag?
    split <;> rfl
  value options word value hword hvalue := by
    simp only [takesValue_iff, List.mem_cons, List.not_mem_nil, or_false] at hvalue
    rcases hvalue with rfl | rfl | rfl | rfl | rfl | rfl
    · rfl
    · cases hnumber : numberOf "--start" value <;> simp only [setValue, hnumber] <;> rfl
    · cases hnumber : numberOf "--step" value <;> simp only [setValue, hnumber] <;> rfl
    · rfl
    · rfl
    · exact absurd hword hwords
  file _ _ := rfl

/-- A prompt among other arguments sets the prompt and nothing else. -/
theorem parseFrom_prompt (hfront : IsOptionList front) (back : List String) (options : Options) :
    parseFrom options (front ++ "--prompt" :: back) =
      (parseFrom options (front ++ back)).map fun after ↦ { after with prompt := true } := by
  refine parseFrom_append_change hfront (fun options ↦ ?_) options
  rw [parseFrom_of_setFlag? rfl]
  exact parseFrom_change (passesBy_prompt _) options

/-- An override in front of arguments without another one sets the override and nothing else. -/
theorem parseFrom_override (text : String) (hfront : IsOptionList front)
    (hback : "--override" ∉ wordsOf back) (options : Options) :
    parseFrom options (front ++ "--override" :: text :: back) =
      (parseFrom options (front ++ back)).map fun after ↦ { after with override := some text } := by
  refine parseFrom_append_change hfront (fun options ↦ ?_) options
  rw [parseFrom_of_takesValue (by decide)]
  exact parseFrom_change (passesBy_override (some text) hback) options

/-- Without the word that sets it there is no override. -/
theorem override_of_parseFrom {arguments : List String}
    (hwords : "--override" ∉ wordsOf arguments) (hparse : parseFrom unset arguments = .ok options) :
    options.override = none := by
  have hsame := parseFrom_change (passesBy_override none hwords) unset
  have hunset : { unset with override := none } = unset := rfl
  rw [hunset, hparse] at hsame
  exact congrArg Options.override (Except.ok.inj hsame)

/-- The words of options and of what follows them come one after the other. -/
theorem wordsOf_append (hfront : IsOptionList front) (back : List String) :
    wordsOf (front ++ back) = wordsOf front ++ wordsOf back := by
  induction hfront with
  | nil => rfl
  | flag hflag hvalue hrest ih =>
      rw [List.cons_append, wordsOf_of_isFlag hvalue hflag, ih, wordsOf_of_isFlag hvalue hflag,
        List.cons_append]
  | value hvalue hrest ih =>
      rw [List.cons_append, List.cons_append, wordsOf_of_takesValue hvalue, ih,
        wordsOf_of_takesValue hvalue, List.cons_append]

/-- The words that say where the override comes from, or that the text takes up the input. -/
def sourceWords : List String := ["--prompt", "--override", "--stdin"]

/-- A prompt, an override and neither of them lead to the same options but for themselves. -/
theorem parse_asking_cases (hfront : IsOptionList front)
    (hwords : ∀ word ∈ sourceWords, word ∉ wordsOf (front ++ back)) :
    (∃ outcome, parse (front ++ back) = .error outcome ∧
        parse (front ++ "--prompt" :: back) = .error outcome ∧
        ∀ text, parse (front ++ "--override" :: text :: back) = .error outcome) ∨
      ∃ options : Options, options.prompt = false ∧ options.textFromInput = false ∧
        options.override = none ∧ parse (front ++ back) = .ok options ∧
        parse (front ++ "--prompt" :: back) = .ok { options with prompt := true } ∧
        ∀ text, parse (front ++ "--override" :: text :: back) =
          .ok { options with override := some text } := by
  have hoverride := hwords "--override" (by simp [sourceWords])
  have hback : "--override" ∉ wordsOf back := by
    rw [wordsOf_append hfront] at hoverride
    exact fun hword ↦ hoverride (List.mem_append_right _ hword)
  have hasking := parseFrom_prompt hfront back unset
  have hgiven := fun text ↦ parseFrom_override text hfront hback unset
  cases hparse : parseFrom unset (front ++ back) with
  | error outcome =>
      rw [hparse] at hasking
      exact .inl ⟨outcome, parse_of_parseFrom_error hparse, parse_of_parseFrom_error hasking,
        fun text ↦ parse_of_parseFrom_error ((hgiven text).trans (congrArg _ hparse))⟩
  | ok options =>
      have hfollow := followFrom_of_parseFrom hparse
      have hprompt := hfollow.prompt_eq_false (hwords "--prompt" (by simp [sourceWords]))
      have hinput := hfollow.textFromInput_eq_false (hwords "--stdin" (by simp [sourceWords]))
      have hnone := override_of_parseFrom hoverride hparse
      rw [hparse] at hasking
      refine .inr ⟨options, hprompt, hinput, hnone, ?_, ?_, fun text ↦ ?_⟩
      · exact parse_eq_ok_iff.2 ⟨hparse, conflict?_of_no_prompt hprompt (.inl hinput)⟩
      · refine parse_eq_ok_iff.2 ⟨hasking, ?_⟩
        simp [conflict?, hinput, hnone]
      · refine parse_eq_ok_iff.2 ⟨(hgiven text).trans (congrArg _ hparse), ?_⟩
        exact conflict?_of_no_prompt hprompt (.inl hinput)

end Options

namespace NumberFile

/-- A run that asks does what a run that does not ask does, and prints nothing more than its
question among the errors. -/
structure SameButQuestion (asking given : RunOutcome × FileTree) : Prop where
  code : asking.1.code = given.1.code
  output : asking.1.output = given.1.output
  replaced : asking.1.replaced = given.1.replaced
  tree : asking.2 = given.2
  errors : asking.1.errors = given.1.errors ∨
    ∃ before after, asking.1.errors = before ++ (promptText ++ after) ∧
      given.1.errors = before ++ after

/-- A run does what it does itself. -/
theorem SameButQuestion.refl (given : RunOutcome × FileTree) : SameButQuestion given given :=
  ⟨rfl, rfl, rfl, rfl, .inl rfl⟩

variable {faults : FileFaults} {process : Nat} {asking given : List String} {tree : FileTree}
  {input other : ByteArray} {environment : Environment} {options : Options}
  {override : Option String}

/-- What a run still has to do does not depend on what it has printed as errors. -/
theorem run_carryOut_afterErrors (outcome : RunOutcome) (shown : String) :
    (carryOut (FileTree.operations faults) process (outcome.afterErrors shown)).run tree =
      (((carryOut (FileTree.operations faults) process outcome).run tree).1.afterErrors shown,
        ((carryOut (FileTree.operations faults) process outcome).run tree).2) := by
  cases hreplaced : outcome.replaced with
  | none =>
      have hkept : (outcome.afterErrors shown).replaced = none := hreplaced
      unfold carryOut
      rw [hreplaced, hkept]
      rfl
  | some written =>
      obtain ⟨path, content⟩ := written
      have hkept : (outcome.afterErrors shown).replaced = some (path, content) := hreplaced
      obtain ⟨⟨result, after⟩, hreplace⟩ :
          ∃ step, tree.replace faults process path content.toUTF8 = step := ⟨_, rfl⟩
      rw [run_carryOut_of_replaced hreplaced hreplace, run_carryOut_of_replaced hkept hreplace]
      cases result with
      | ok done => rfl
      | error error =>
          exact congrArg (·, after) (RunOutcome.afterErrors_afterErrors _ _ _).symm

variable [Libraries]

/-- The same options with a prompt and with an override make the same run, when the answer is the
override, but for the question behind the log of the first pass. -/
theorem run_asking (faults : FileFaults) (tree : FileTree) (other : ByteArray)
    (environment : Environment)
    (hasking : Options.parse asking = .ok { options with prompt := true })
    (hgiven : Options.parse given = .ok { options with override := override })
    (hprompt : options.prompt = false) (hinput : options.textFromInput = false)
    (hanswer : lineOf input = override) :
    run asking (.among faults tree input environment) =
        run given (.among faults tree other environment) ∨
      ∃ (outcome : RunOutcome) (shown : String),
        run asking (.among faults tree input environment) =
          (outcome.afterErrors promptText).afterErrors shown ∧
        run given (.among faults tree other environment) = outcome.afterErrors shown := by
  have hfile : ¬ options.textFromInput = true := by
    rw [hinput]
    exact Bool.false_ne_true
  have htext : textOf { options with prompt := true } (.among faults tree input environment) =
      textOf { options with override := override } (.among faults tree other environment) := by
    unfold textOf
    rw [if_neg hfile, if_neg hfile]
    rfl
  have hfirst : firstPass { options with prompt := true } (.among faults tree input environment) =
      firstPass { options with override := override } (.among faults tree other environment) :=
    firstPass_congr rfl rfl rfl htext
  unfold run
  rw [hasking, hgiven]
  dsimp only
  rw [hfirst]
  cases firstPass { options with override := override } (.among faults tree other environment) with
  | error outcome => exact .inl rfl
  | ok first =>
      refine .inr ⟨secondPass options (.among faults tree other environment) override first,
        Environment.shown environment first.log, ?_, ?_⟩
      · rw [← hanswer]
        rfl
      · dsimp only
        rw [hprompt, if_neg Bool.false_ne_true]
        rfl

/-- Among the files of a tree the two runs leave the same files as well. -/
theorem runAmong_asking (hasking : Options.parse asking = .ok { options with prompt := true })
    (hgiven : Options.parse given = .ok { options with override := override })
    (hprompt : options.prompt = false) (hinput : options.textFromInput = false)
    (hanswer : lineOf input = override) :
    SameButQuestion (runAmong faults process asking tree input environment)
      (runAmong faults process given tree other environment) := by
  unfold runAmong
  dsimp only
  rcases run_asking faults tree other environment hasking hgiven hprompt hinput hanswer with
    hsame | ⟨outcome, shown, hask, hgive⟩
  · rw [hsame]
    exact .refl _
  · rw [hask, hgive, run_carryOut_afterErrors, run_carryOut_afterErrors, run_carryOut_afterErrors]
    exact ⟨rfl, rfl, rfl, rfl, .inr ⟨_, _, rfl, rfl⟩⟩

/-- A prompt and an override are the same. For options without either of them and without `--stdin`,
whatever arguments follow and whatever files there are: a run that asks for its override and reads a
line, whatever follows the line break, does what the run with this line as its override does, one
carriage return in front of the line break apart; so it does when the input ends after a line that
is not empty; and when there is no input at all, it does what the run without an override does. -/
theorem prompt_eq_override (faults : FileFaults) (process : Nat) (front back : List String)
    (tree : FileTree) (environment : Environment) (hfront : Options.IsOptionList front)
    (hwords : ∀ word ∈ Options.sourceWords, word ∉ Options.wordsOf (front ++ back)) :
    let asking := fun input ↦
      runAmong faults process (front ++ "--prompt" :: back) tree input environment
    let given := fun override input ↦
      runAmong faults process (front ++ "--override" :: override :: back) tree input environment
    (∀ (line : String) (rest input : ByteArray), '\n' ∉ line.toList →
      SameButQuestion (asking (line.toUTF8 ++ "\n".toUTF8 ++ rest))
        (given (withoutReturn line) input)) ∧
      (∀ (line : String) (input : ByteArray), '\n' ∉ line.toList → line ≠ "" →
        SameButQuestion (asking line.toUTF8) (given line input)) ∧
      ∀ input, SameButQuestion (asking .empty)
        (runAmong faults process (front ++ back) tree input environment) := by
  intro asking given
  rcases Options.parse_asking_cases hfront hwords with
    ⟨outcome, hnone, hasking, hgiven⟩ |
    ⟨options, hprompt, hinput, hoverride, hnone, hasking, hgiven⟩
  · have hask : ∀ input, asking input = (outcome, tree) :=
      fun input ↦ runAmong_of_parse_error hasking
    have hgive : ∀ override input, given override input = (outcome, tree) :=
      fun override input ↦ runAmong_of_parse_error (hgiven override)
    refine ⟨fun line rest input _ ↦ ?_, fun line input _ _ ↦ ?_, fun input ↦ ?_⟩
    · rw [hask, hgive]
      exact .refl _
    · rw [hask, hgive]
      exact .refl _
    · rw [hask, runAmong_of_parse_error hnone]
      exact .refl _
  · refine ⟨fun line rest input hline ↦ ?_, fun line input hline hsome ↦ ?_, fun input ↦ ?_⟩
    · exact runAmong_asking hasking (hgiven _) hprompt hinput (lineOf_append hline rest)
    · exact runAmong_asking hasking (hgiven _) hprompt hinput (lineOf_whole hline hsome)
    · have hsame : { options with override := none } = options := by
        rw [← hoverride]
      exact runAmong_asking hasking (hnone.trans (congrArg _ hsame.symm)) hprompt hinput
        lineOf_empty

omit [Libraries] in
/-- The answer may end with a carriage return and a line break. Its question stands behind the log
of the first pass. -/
theorem prompt_eq_override_answered :
    letI := Libraries.standard
    let environment : Environment := ⟨none, some "info"⟩
    let asking := runAmong .none 7 (["--pattern", "y|z"] ++ "--prompt" :: ["/tmp/a"]) sampleTree
      ("%d:5\r".toUTF8 ++ "\n".toUTF8 ++ "more".toUTF8) environment
    let given := runAmong .none 7 (["--pattern", "y|z"] ++ "--override" :: "%d:5" :: ["/tmp/a"])
      sampleTree .empty environment
    given.1.output = "5\n6\n" ∧ asking.1.output = "5\n6\n" ∧ asking.2 = given.2 ∧
      asking.1.errors = "[INFO] inserted 2 value(s) with \"%d\" from 0 step 1\n" ++ promptText ++
        "[INFO] inserted 2 value(s) with \"%d\" from 5 step 1\n" := by
  let := Libraries.standard
  intro environment asking given
  have houtput : given.1.output = "5\n6\n" := by decide +kernel
  have hanswer : withoutReturn "%d:5\r" = "%d:5" := by decide +kernel
  obtain ⟨hanswered, -, -⟩ := prompt_eq_override .none 7 ["--pattern", "y|z"] ["/tmp/a"] sampleTree
    environment (.value (by decide) .nil) (by decide +kernel)
  have hsame := hanswered "%d:5\r" "more".toUTF8 .empty (by decide +kernel)
  rw [hanswer] at hsame
  exact ⟨houtput, hsame.output.trans houtput, hsame.tree, by decide +kernel⟩

end NumberFile

end Numbering
