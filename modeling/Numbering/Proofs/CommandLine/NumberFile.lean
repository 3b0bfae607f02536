import Numbering.CommandLine.NumberFile
import Numbering.Proofs.CommandLine.Options
import Numbering.Proofs.MarkedText.Places
import Numbering.Proofs.NumberingPass.AllOrNothing
import Numbering.Proofs.NumberingPass.Override

/-!
# Runs of the numbering command

What the command makes of a text is the same in every mode: `edit` has what is printed on the way
and the edited text, or the run that a failure comes to, and `run_eq` says that a run reads its
options, edits the text, and writes the result. The edited text is the text of the run with a number
in the place of every match (`IsEdit`). A run that fails before it writes replaces no file.
-/

namespace Numbering

namespace RunOutcome

/-- Printing nothing in front of the errors changes nothing. -/
theorem afterErrors_empty (outcome : RunOutcome) : outcome.afterErrors "" = outcome := by
  unfold afterErrors
  rw [String.empty_append]

/-- What is printed later in front of the errors stands in front of the rest. -/
theorem afterErrors_afterErrors (shown earlier : String) (outcome : RunOutcome) :
    (outcome.afterErrors shown).afterErrors earlier = outcome.afterErrors (earlier ++ shown) := by
  unfold afterErrors
  rw [String.append_assoc]

/-- The run fails and replaces no file. -/
structure IsFailure (outcome : RunOutcome) : Prop where
  code : outcome.code ≠ 0
  replaced : outcome.replaced = none

/-- A run that ends with an error message is a failure. -/
theorem isFailure_failed (code : Nat) (message : String) :
    (failed (code + 1) message).IsFailure :=
  ⟨Nat.succ_ne_zero code, rfl⟩

/-- A failure stays one, whatever is printed in front of it. -/
theorem IsFailure.afterErrors {outcome : RunOutcome} (hfailure : outcome.IsFailure)
    (shown : String) : (outcome.afterErrors shown).IsFailure :=
  ⟨hfailure.code, hfailure.replaced⟩

end RunOutcome

namespace Options

variable {options : Options} {arguments : List String} {outcome : RunOutcome}

/-- A value that is no number makes the run fail. -/
theorem isFailure_of_setValue {word value : String}
    (hset : options.setValue word value = .error outcome) : outcome.IsFailure := by
  unfold setValue numberOf at hset
  cases hnumber : Literal.readOption? value.toList with
  | some number =>
      rw [hnumber] at hset
      dsimp only at hset
      split at hset <;> cases hset
  | none =>
      rw [hnumber] at hset
      dsimp only at hset
      split at hset <;> cases hset <;> exact RunOutcome.isFailure_failed _ _

/-- A command line that is not read to its end replaces no file, and it is only help that is not a
failure. -/
theorem of_parseFrom_eq_error (hparse : parseFrom options arguments = .error outcome) :
    outcome.replaced = none ∧
      (outcome.code = 0 → "--help" ∈ wordsOf arguments ∨ "-h" ∈ wordsOf arguments) := by
  fun_induction parseFrom options arguments with
  | case1 | case3 | case9 =>
      cases hparse
      exact ⟨rfl, fun hcode ↦ by cases hcode⟩
  | case2 options word rest after hset ih =>
      obtain ⟨hflag, hvalue⟩ := isFlag_of_setFlag? hset
      obtain ⟨hreplaced, hhelp⟩ := ih hparse
      rw [wordsOf_of_isFlag hvalue hflag]
      exact ⟨hreplaced, fun hcode ↦
        (hhelp hcode).imp (List.mem_cons_of_mem word) (List.mem_cons_of_mem word)⟩
  | case4 options word hset hvalue value rest after hok ih =>
      obtain ⟨hreplaced, hhelp⟩ := ih hparse
      rw [wordsOf_of_takesValue hvalue]
      exact ⟨hreplaced, fun hcode ↦
        (hhelp hcode).imp (List.mem_cons_of_mem word) (List.mem_cons_of_mem word)⟩
  | case5 options word hset hvalue value rest refused herror =>
      cases hparse
      have hfailure := isFailure_of_setValue herror
      exact ⟨hfailure.replaced, fun hcode ↦ absurd hcode hfailure.code⟩
  | case6 options word rest hset hvalue hhelp =>
      cases hparse
      refine ⟨rfl, fun _ ↦ ?_⟩
      have hmem : word ∈ wordsOf (word :: rest) := by
        have hflag : isFlag word = true := by
          rcases hhelp with rfl | rfl <;> decide
        rw [wordsOf_of_isFlag (by simpa using hvalue) hflag]
        exact List.mem_cons_self
      rcases hhelp with rfl | rfl
      · exact .inl hmem
      · exact .inr hmem
  | case7 options word rest hset hvalue hhelp hflag =>
      cases hparse
      exact ⟨rfl, fun hcode ↦ by cases hcode⟩
  | case8 => cases hparse

/-- A command line that is refused replaces no file, and it is only help that is not a failure. -/
theorem of_parse_eq_error (hparse : parse arguments = .error outcome) :
    outcome.replaced = none ∧
      (outcome.code = 0 → "--help" ∈ wordsOf arguments ∨ "-h" ∈ wordsOf arguments) := by
  unfold parse at hparse
  split at hparse
  · rename_i refused hrefused
    cases hparse
    exact of_parseFrom_eq_error hrefused
  · split at hparse
    · cases hparse
      exact ⟨rfl, fun hcode ↦ by cases hcode⟩
    · cases hparse

/-- A command line that is not read to its end is refused. -/
theorem parse_of_parseFrom_error (hparse : parseFrom unset arguments = .error outcome) :
    parse arguments = .error outcome := by
  unfold parse
  rw [hparse]

/-- A command line is accepted when it is read to its end, as options without a conflict. -/
theorem parse_eq_ok_iff : parse arguments = .ok options ↔
    parseFrom unset arguments = .ok options ∧ options.conflict? = none := by
  unfold parse
  cases parseFrom unset arguments with
  | error outcome => simp
  | ok other =>
      dsimp only
      cases hconflict : other.conflict? with
      | some message =>
          constructor
          · intro hparse
            cases hparse
          · rintro ⟨hsame, hnone⟩
            cases hsame
            rw [hconflict] at hnone
            cases hnone
      | none =>
          constructor
          · intro hparse
            cases hparse
            exact ⟨rfl, hconflict⟩
          · rintro ⟨hsame, -⟩
            exact hsame

end Options

namespace NumberFile

variable [Libraries]

/-- The override of a run: that of the options, or the line that the user is asked for. -/
def overrideOf (options : Options) (input : ByteArray) : Option String :=
  if options.prompt then lineOf input else options.override

/-- What the user is asked on the way. -/
def question (options : Options) : String := if options.prompt then promptText else ""

/-- What is printed up to the end of the second pass: the log of the first pass, the question, and
the log of the second pass. -/
def printed (options : Options) (surroundings : Surroundings) (first : PassOutcome Unit)
    (second : PassOutcome (Option Settings)) : String :=
  surroundings.shown first.log ++ (question options ++ surroundings.shown second.log)

/-- What both passes come to: what is printed on the way and the edited text, or the run that a
failure comes to. -/
def edit (options : Options) (surroundings : Surroundings) :
    Except RunOutcome (String × MarkedText) :=
  match firstPass options surroundings with
  | .error outcome => .error outcome
  | .ok first =>
      let second := Override.insert (overrideOf options surroundings.input) first.cache first.text
      let printed := printed options surroundings first second
      match second.result with
      | .ok _ => .ok (printed, second.text)
      | .error (.override error) =>
          .ok (printed ++ ("warning: " ++ error.message ++ "; keeping the default sequence\n"),
            second.text)
      | .error error => .error ((RunOutcome.failed 2 error.message).afterErrors printed)

/-- A run reads its options, edits the text and writes the result. -/
theorem run_eq (arguments : List String) (surroundings : Surroundings) :
    run arguments surroundings =
      match Options.parse arguments with
      | .error outcome => outcome
      | .ok options =>
          match edit options surroundings with
          | .error outcome => outcome
          | .ok (shown, text) => (finish options text).afterErrors shown := by
  unfold run
  cases Options.parse arguments with
  | error outcome => rfl
  | ok options =>
      dsimp only
      unfold edit printed
      cases firstPass options surroundings with
      | error outcome => rfl
      | ok first =>
          have hasked : (if options.prompt then
              (secondPass options surroundings (lineOf surroundings.input) first).afterErrors
                promptText
            else secondPass options surroundings options.override first) =
              (secondPass options surroundings (overrideOf options surroundings.input)
                first).afterErrors (question options) := by
            unfold overrideOf question
            cases options.prompt with
            | true => rfl
            | false => exact (RunOutcome.afterErrors_empty _).symm
          dsimp only
          rw [hasked]
          unfold secondPass
          dsimp only
          cases (Override.insert (overrideOf options surroundings.input) first.cache
            first.text).result with
          | ok settings => simp only [RunOutcome.afterErrors_afterErrors]
          | error error =>
              cases error with
              | override error =>
                  simp only [RunOutcome.afterErrors_afterErrors, String.append_assoc]
              | template error | render error | marks error =>
                  simp only [RunOutcome.afterErrors_afterErrors]

/-! ## Failures -/

variable {options : Options} {surroundings : Surroundings} {outcome : RunOutcome}

/-- A run without settings is a failure. -/
theorem isFailure_of_settingsOf (hsettings : settingsOf options surroundings = .error outcome) :
    outcome.IsFailure := by
  have hloaded : ∀ path, loadSettings surroundings path = .error outcome → outcome.IsFailure := by
    intro path hload
    unfold loadSettings at hload
    dsimp only at hload
    split at hload
    · cases hload
      exact RunOutcome.isFailure_failed _ _
    · split at hload
      · cases hload
        exact RunOutcome.isFailure_failed _ _
      · split at hload
        · cases hload
        · cases hload
          exact RunOutcome.isFailure_failed _ _
  unfold settingsOf at hsettings
  dsimp only at hsettings
  split at hsettings
  · rename_i path _
    cases hload : loadSettings surroundings path with
    | ok settings =>
        rw [hload] at hsettings
        cases hsettings
    | error refused =>
        rw [hload] at hsettings
        cases hsettings
        exact hloaded path hload
  · cases hsettings

/-- A run whose pattern is refused is a failure. -/
theorem isFailure_of_finderOf (hfinder : finderOf options = .error outcome) :
    outcome.IsFailure := by
  unfold finderOf at hfinder
  split at hfinder
  · cases hfinder
  · cases hfinder
    exact RunOutcome.isFailure_failed _ _

omit [Libraries] in
/-- A run without a text is a failure. -/
theorem isFailure_of_textOf (htext : textOf options surroundings = .error outcome) :
    outcome.IsFailure := by
  unfold textOf readFile at htext
  split at htext
  · split at htext
    · cases htext
    · cases htext
      exact RunOutcome.isFailure_failed _ _
  · split at htext
    · cases htext
      exact RunOutcome.isFailure_failed _ _
    · split at htext
      · cases htext
        exact RunOutcome.isFailure_failed _ _
      · split at htext
        · cases htext
        · cases htext
          exact RunOutcome.isFailure_failed _ _

/-- The first half of a run makes the pass by the settings in effect over the text, or fails. -/
theorem firstPass_cases (options : Options) (surroundings : Surroundings) :
    (∃ outcome, firstPass options surroundings = .error outcome ∧ outcome.IsFailure) ∨
      ∃ settings finder text, settingsOf options surroundings = .ok settings ∧
        finderOf options = .ok finder ∧ textOf options surroundings = .ok text ∧
        (settings.insert .empty (MarkedText.ofMatches text finder)).result = .ok () ∧
        firstPass options surroundings =
          .ok (settings.insert .empty (MarkedText.ofMatches text finder)) := by
  unfold firstPass
  cases hsettings : settingsOf options surroundings with
  | error outcome => exact .inl ⟨outcome, rfl, isFailure_of_settingsOf hsettings⟩
  | ok settings =>
      cases hfinder : finderOf options with
      | error outcome => exact .inl ⟨outcome, rfl, isFailure_of_finderOf hfinder⟩
      | ok finder =>
          cases htext : textOf options surroundings with
          | error outcome => exact .inl ⟨outcome, rfl, isFailure_of_textOf htext⟩
          | ok text =>
              simp only [bind, Except.bind]
              cases hresult :
                  (settings.insert .empty (MarkedText.ofMatches text finder)).result with
              | error error =>
                  exact .inl ⟨_, rfl, (RunOutcome.isFailure_failed _ _).afterErrors _⟩
              | ok done => exact .inr ⟨settings, finder, text, rfl, rfl, rfl, hresult, rfl⟩

/-! ## The edited text -/

omit [Libraries] in
/-- The settings of the numbers that stay: those of an override, and the settings in effect when the
line for the override is missing, empty or without a percent sign. -/
inductive LastSettings (defaults : Settings) (line : Option String) : Settings → Prop where
  | defaults (hline : ∀ text ∈ line, text = "" ∨ '%' ∉ text.toList) :
      LastSettings defaults line defaults
  | override {text : String} {settings : Settings} (hline : line = some text)
      (hparse : Override.parse text = .ok (some settings)) : LastSettings defaults line settings

/-- The edited text is the text of the run, with the elements of the last number sequence in the
place of the matches of the pattern, and as it was between them. -/
inductive IsEdit (options : Options) (surroundings : Surroundings) (edited : MarkedText) :
    Prop where
  | intro {settings last : Settings} {finder : Finder} {text : String} {template : Template}
      {gaps numbers : List String}
      (hsettings : settingsOf options surroundings = .ok settings)
      (hfinder : finderOf options = .ok finder)
      (htext : textOf options surroundings = .ok text)
      (hlast : LastSettings settings (overrideOf options surroundings.input) last)
      (hparse : Template.parse last.format = .ok template)
      (hgaps : MarkedText.gaps? text 0 (MarkedText.matchRanges text finder) = some gaps)
      (hlength : numbers.length = (MarkedText.matchRanges text finder).length)
      (hnumbers : ∀ index (hindex : index < numbers.length),
        last.elementAt template index = .ok numbers[index])
      (hedited : edited.text = MarkedText.interleave gaps numbers)
      (hmarks : edited.marks = numbers) : IsEdit options surroundings edited

/-- A second pass that is done, or refused as an override, leaves what the pass by the last settings
makes of the text as it was at the start. -/
theorem exists_lastSettings {defaults : Settings} {text : MarkedText} {line : Option String}
    {first : PassOutcome Unit} {second : PassOutcome (Option Settings)}
    (hfirst : defaults.insert .empty text = first) (hdone : first.result = .ok ())
    (hsecond : Override.insert line first.cache first.text = second)
    (hresult : ∀ error, second.result = .error error → ∃ fault, error = .override fault) :
    ∃ last, LastSettings defaults line last ∧ (last.insert .empty text).result = .ok () ∧
      second.text = (last.insert .empty text).text := by
  have hfaithful := TemplateCache.Reachable.empty.faithful
  subst hfirst hsecond
  cases line with
  | none => exact ⟨defaults, .defaults nofun, hdone, rfl⟩
  | some line =>
      by_cases hsign : '%' ∈ line.toList
      · have hparse := Override.parse_of_mem hsign
        have hother : (defaults.insert .empty text).cache.Faithful := by
          rw [Settings.insert_cache]
          exact hfaithful.fetch defaults.format
        obtain ⟨hok, hfail⟩ := Settings.insert_after hfaithful hother hdone
          (Override.settingsOf (Override.fields line.toList))
        obtain ⟨hsame, htext⟩ := Prod.mk.inj (Override.insert_of_parse hparse)
        refine ⟨_, .override rfl hparse, ?_⟩
        cases hdirect : ((Override.settingsOf (Override.fields line.toList)).insert .empty
            text).result with
        | ok done => exact ⟨rfl, htext.trans (hok hdirect).2⟩
        | error error =>
            -- A pass by settings fails in other ways than by being refused.
            rw [(hfail error hdirect).1] at hsame
            obtain ⟨fault, rfl⟩ := hresult error hsame
            rcases Settings.applyTo_eq_error_iff.1
                (Settings.applyTo_of_insert_error hfaithful hdirect) with
              ⟨_, -, herror⟩ | ⟨_, _, -, -, herror⟩
            · cases herror
            · cases herror
      · refine ⟨defaults, .defaults ?_, hdone, ?_⟩
        · rintro _ ⟨⟩
          exact .inr hsign
        · by_cases hempty : line = ""
          · subst hempty
            rfl
          · exact (Prod.mk.inj (Override.insert_of_not_mem hempty hsign)).2

/-- What a pass makes of the matches in a text is an edit of it. -/
theorem isEdit_of_insert {settings last : Settings} {finder : Finder} {text : String}
    (hsettings : settingsOf options surroundings = .ok settings)
    (hfinder : finderOf options = .ok finder) (htext : textOf options surroundings = .ok text)
    (hlast : LastSettings settings (overrideOf options surroundings.input) last)
    (hdone : (last.insert .empty (MarkedText.ofMatches text finder)).result = .ok ()) :
    IsEdit options surroundings (last.insert .empty (MarkedText.ofMatches text finder)).text := by
  obtain ⟨template, numbers, hparse, hlength, hnumbers, hedited, hmarks⟩ :=
    Settings.exists_of_insert_ok TemplateCache.Reachable.empty.faithful hdone
  have hgaps := MarkedText.gaps?_ranges (MarkedText.ofMatches text finder)
  rw [MarkedText.text_ofMatches, MarkedText.ranges_ofMatches] at hgaps
  refine .intro hsettings hfinder htext hlast hparse hgaps ?_ hnumbers hedited hmarks
  rw [hlength, ← MarkedText.ranges_ofMatches, MarkedText.length_ranges]

/-- Both passes edit the text, or the run fails. -/
theorem edit_cases (options : Options) (surroundings : Surroundings) :
    (∃ outcome, edit options surroundings = .error outcome ∧ outcome.IsFailure) ∨
      ∃ shown edited, edit options surroundings = .ok (shown, edited) ∧
        IsEdit options surroundings edited := by
  unfold edit
  rcases firstPass_cases options surroundings with
    ⟨outcome, hfirst, hfailure⟩ |
    ⟨settings, finder, text, hsettings, hfinder, htext, hdone, hfirst⟩
  · rw [hfirst]
    exact .inl ⟨outcome, rfl, hfailure⟩
  · rw [hfirst]
    dsimp only
    obtain ⟨second, hsecond⟩ : ∃ second, Override.insert (overrideOf options surroundings.input)
        (settings.insert .empty (MarkedText.ofMatches text finder)).cache
        (settings.insert .empty (MarkedText.ofMatches text finder)).text = second := ⟨_, rfl⟩
    -- A second pass that is not stopped leaves an edit of the text.
    have hedit : (∀ error, second.result = .error error → ∃ fault, error = .override fault) →
        IsEdit options surroundings second.text := by
      intro hresult
      obtain ⟨last, hlast, hlastDone, hsame⟩ := exists_lastSettings rfl hdone hsecond hresult
      rw [hsame]
      exact isEdit_of_insert hsettings hfinder htext hlast hlastDone
    rw [hsecond]
    cases hresult : second.result with
    | ok applied => exact .inr ⟨_, _, rfl, hedit (by simp [hresult])⟩
    | error error =>
        cases error with
        | override error => exact .inr ⟨_, _, rfl, hedit (by simp [hresult])⟩
        | template error | render error | marks error =>
            exact .inl ⟨_, rfl, (RunOutcome.isFailure_failed _ _).afterErrors _⟩

/-- A run that does not edit its text is a failure. -/
theorem isFailure_of_edit (hedit : edit options surroundings = .error outcome) :
    outcome.IsFailure := by
  rcases edit_cases options surroundings with ⟨refused, herror, hfailure⟩ | ⟨shown, edited, hok, -⟩
  · rw [hedit] at herror
    cases herror
    exact hfailure
  · rw [hedit] at hok
    cases hok

/-- What both passes come to is an edit of the text. -/
theorem isEdit_of_edit {shown : String} {edited : MarkedText}
    (hedit : edit options surroundings = .ok (shown, edited)) :
    IsEdit options surroundings edited := by
  rcases edit_cases options surroundings with ⟨outcome, herror, -⟩ | ⟨asked, other, hok, hother⟩
  · rw [hedit] at herror
    cases herror
  · rw [hedit] at hok
    cases hok
    exact hother

/-- The text of a file is read from the file. -/
theorem exists_read_of_isEdit {edited : MarkedText} (hedit : IsEdit options surroundings edited)
    (hfile : options.textFromInput = false) :
    ∃ content, surroundings.read options.file = .ok content := by
  obtain ⟨-, -, htext, -⟩ := hedit
  unfold textOf readFile at htext
  rw [hfile, if_neg Bool.false_ne_true] at htext
  split at htext
  · cases htext
  · rename_i content hread
    exact ⟨content, hread⟩

end NumberFile

end Numbering
