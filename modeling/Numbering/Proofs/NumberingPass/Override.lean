import Numbering.Json.Writing
import Numbering.Proofs.NumberingPass.Pass

/-!
# Two passes

The second pass is independent of the first one. Whoever is asked for the line of user input is
asked once, after the first pass, and never when the first pass fails; the asking is an action of
any monad, so that the number of times it happens can be told from a run. An override is what its
settings make of the text as it was at the start, and when it is refused the text of the first
pass stays (`numberTextAsking_independent`).
-/

namespace Numbering

/-- What a user sees of a pass: its result and the text. -/
def PassOutcome.seen {α : Type} (outcome : PassOutcome α) : Except NumberingError α × MarkedText :=
  (outcome.result, outcome.text)

namespace Override

/-! ## Reading a line -/

section Parse

variable {line : String}

/-- A line other than the empty one is not empty. -/
theorem isEmpty_of_ne (hline : line ≠ "") : line.isEmpty = false := by
  rw [← Bool.not_eq_true, String.isEmpty_iff]
  exact hline

/-- A line without a percent sign is refused. -/
theorem parse_of_not_mem (hline : line ≠ "") (hsign : '%' ∉ line.toList) :
    parse line = .error (.noPercentSign line) := by
  unfold parse
  rw [isEmpty_of_ne hline]
  simp [hsign]

/-- A line with a percent sign stands for the settings of its fields. -/
theorem parse_of_mem (hsign : '%' ∈ line.toList) :
    parse line = .ok (some (settingsOf (fields line.toList))) := by
  have hline : line ≠ "" := by
    rintro rfl
    cases hsign
  unfold parse
  rw [isEmpty_of_ne hline]
  simp [hsign]

end Parse

/-! ## The pass for a line -/

section Insert

variable [Json.Writer] {cache : TemplateCache} {text : MarkedText}

/-- Without a line there is no pass. -/
theorem insert_none : (insert none cache text).seen = (.ok none, text) := rfl

/-- For an empty line there is no pass. -/
theorem insert_empty : (insert (some "") cache text).seen = (.ok none, text) := rfl

/-- A line without a percent sign is refused. -/
theorem insert_of_not_mem {line : String} (hline : line ≠ "") (hsign : '%' ∉ line.toList) :
    (insert (some line) cache text).seen = (.error (.override (.noPercentSign line)), text) := by
  unfold insert
  simp only [parse_of_not_mem hline hsign, PassOutcome.seen]

/-- The pass for a line with settings is the pass for the settings. -/
theorem insert_of_parse {line : String} {settings : Settings}
    (hparse : parse line = .ok (some settings)) :
    (insert (some line) cache text).seen =
      ((settings.insert cache text).result.map fun _ ↦ some settings,
        (settings.insert cache text).text) := by
  unfold insert
  simp only [hparse, PassOutcome.seen]

end Insert

end Override

/-! ## Both passes -/

section Both

variable [Json.Writer] {m : Type → Type} [Monad m] [LawfulMonad m]
  {ask : MarkedText → m (Option String)} {defaults : Settings} {cache : TemplateCache}
  {text : MarkedText}

/-- When the first pass fails nobody is asked. -/
theorem seen_numberTextAsking_of_error {error : NumberingError}
    (hfirst : (defaults.insert cache text).result = .error error) :
    PassOutcome.seen <$> numberTextAsking ask defaults cache text =
      pure (.error error, (defaults.insert cache text).text) := by
  unfold numberTextAsking
  simp only [hfirst, map_pure, PassOutcome.seen]

/-- When the first pass succeeds its text is shown once, and the answer decides what follows. -/
theorem seen_numberTextAsking_of_ok (hfirst : (defaults.insert cache text).result = .ok ()) :
    PassOutcome.seen <$> numberTextAsking ask defaults cache text =
      (fun input ↦ (Override.insert input (defaults.insert cache text).cache
        (defaults.insert cache text).text).seen) <$> ask (defaults.insert cache text).text := by
  unfold numberTextAsking
  simp only [hfirst, ← bind_pure_comp, bind_assoc, pure_bind]
  rfl

end Both

/-- A pass over the text of a first pass comes to what it comes to over the text at the start,
except that a failed one leaves the text of the first pass. -/
theorem Settings.insert_after [Json.Writer] {defaults : Settings} {cache other : TemplateCache}
    (hcache : cache.Faithful) (hother : other.Faithful) {text : MarkedText}
    (hfirst : (defaults.insert cache text).result = .ok ()) (settings : Settings) :
    ((settings.insert cache text).result = .ok () →
      (settings.insert other (defaults.insert cache text).text).result = .ok () ∧
        (settings.insert other (defaults.insert cache text).text).text =
          (settings.insert cache text).text) ∧
    ∀ error, (settings.insert cache text).result = .error error →
      (settings.insert other (defaults.insert cache text).text).result = .error error ∧
        (settings.insert other (defaults.insert cache text).text).text =
          (defaults.insert cache text).text := by
  cases happly : defaults.applyTo text with
  | error error =>
      rw [(insert_of_applyTo_error hcache happly).1] at hfirst
      cases hfirst
  | ok first =>
      -- Without a cache the pass over the first text is the pass over the text at the start.
      rw [(insert_of_applyTo_ok hcache happly).2]
      have hagain := applyTo_of_applyTo happly settings
      cases hdirect : settings.applyTo text with
      | error error =>
          rw [hdirect] at hagain
          rw [(insert_of_applyTo_error hcache hdirect).1]
          have hsecond := insert_of_applyTo_error hother hagain
          exact ⟨fun hok ↦ (nomatch hok), fun _ hsame ↦ by cases hsame; exact hsecond⟩
      | ok filled =>
          rw [hdirect] at hagain
          obtain ⟨hresult, htext⟩ := insert_of_applyTo_ok hcache hdirect
          rw [hresult, htext]
          have hsecond := insert_of_applyTo_ok hother hagain
          exact ⟨fun _ ↦ hsecond, fun _ herror ↦ (nomatch herror)⟩

/-- Both passes over a text, for whatever is asked. When the defaults fail on the text, the error
is the result, the text is as it was, and nobody is asked. Otherwise the text of the first pass is
shown and an answer asked for exactly once. Without one, and for an empty one, the text of the
first pass stays; it also stays, with an error, for a line without a percent sign. Any other line
stands for settings, and these come to what they would come to on the text at the start: the same
marked text, with nothing of the first pass left, or the same error, and then the text of the first
pass stays. -/
theorem numberTextAsking_independent [Json.Writer] {m : Type → Type} [Monad m] [LawfulMonad m]
    (ask : MarkedText → m (Option String)) (defaults : Settings) {cache : TemplateCache}
    (hcache : cache.Reachable) (text : MarkedText) :
    (∀ error, (defaults.insert cache text).result = .error error →
      PassOutcome.seen <$> numberTextAsking ask defaults cache text =
        pure (.error error, text)) ∧
    ((defaults.insert cache text).result = .ok () →
      ∃ finish : Option String → Except NumberingError (Option Settings) × MarkedText,
        PassOutcome.seen <$> numberTextAsking ask defaults cache text =
          finish <$> ask (defaults.insert cache text).text ∧
        finish none = (.ok none, (defaults.insert cache text).text) ∧
        finish (some "") = (.ok none, (defaults.insert cache text).text) ∧
        (∀ line, line ≠ "" → '%' ∉ line.toList →
          finish (some line) = (.error (.override (.noPercentSign line)),
            (defaults.insert cache text).text)) ∧
        ∀ line, '%' ∈ line.toList → ∃ settings, Override.parse line = .ok (some settings) ∧
          ((settings.insert cache text).result = .ok () →
            finish (some line) = (.ok (some settings), (settings.insert cache text).text)) ∧
          ∀ error, (settings.insert cache text).result = .error error →
            finish (some line) = (.error error, (defaults.insert cache text).text)) := by
  have hfaithful := hcache.faithful
  constructor
  · intro error herror
    rw [seen_numberTextAsking_of_error herror, Settings.text_of_insert_error hfaithful herror]
  · intro hfirst
    refine ⟨_, seen_numberTextAsking_of_ok hfirst, Override.insert_none, Override.insert_empty,
      fun line hline hsign ↦ Override.insert_of_not_mem hline hsign, ?_⟩
    intro line hsign
    have hparse := Override.parse_of_mem hsign
    -- The second pass runs on the cache that the first one left, which is faithful as well.
    have hother : (defaults.insert cache text).cache.Faithful := by
      rw [Settings.insert_cache]
      exact hfaithful.fetch defaults.format
    obtain ⟨hok, hfail⟩ := Settings.insert_after hfaithful hother hfirst
      (Override.settingsOf (Override.fields line.toList))
    refine ⟨_, hparse, ?_, ?_⟩
    · intro hdirect
      obtain ⟨hresult, htext⟩ := hok hdirect
      rw [Override.insert_of_parse hparse, hresult, htext]
      rfl
    · intro error hdirect
      obtain ⟨hresult, htext⟩ := hfail error hdirect
      rw [Override.insert_of_parse hparse, hresult, htext]
      rfl

/-- A result that passes as true is a success. -/
theorem ok_of_toBool {ε : Type} {result : Except ε Unit} (hresult : result.toBool = true) :
    result = .ok () := by
  cases result with
  | error error => cases hresult
  | ok done => rfl

/-- An override of one mark, with the askings counted. -/
theorem numberTextAsking_independent_counted :
    letI := Json.Writer.shortest
    TemplateCache.empty.Reachable ∧
      (PassOutcome.seen <$> numberTextAsking
        (fun _ ↦ do modify (· + 1); pure (some "<%%>") : MarkedText → StateM Nat (Option String))
        ⟨"-", .zero, .one⟩ .empty ⟨[⟨"é", "#"⟩], "."⟩).run 0 =
      ((.ok (some ⟨"<%%>", .zero, .one⟩), ⟨[⟨"é", "<%>"⟩], "."⟩), 1) := by
  let := Json.Writer.shortest
  refine ⟨.empty, ?_⟩
  obtain ⟨-, hasked⟩ := numberTextAsking_independent
    (fun _ ↦ do modify (· + 1); pure (some "<%%>") : MarkedText → StateM Nat (Option String))
    ⟨"-", .zero, .one⟩ .empty ⟨[⟨"é", "#"⟩], "."⟩
  obtain ⟨finish, hrun, -, -, -, hline⟩ := hasked (ok_of_toBool (by decide +kernel))
  obtain ⟨settings, hparse, hok, -⟩ := hline "<%%>" (by decide)
  have hsettings : Override.parse "<%%>" = .ok (some ⟨"<%%>", .zero, .one⟩) := by rfl
  rw [hsettings] at hparse
  cases hparse
  have htext : (Settings.insert ⟨"<%%>", .zero, .one⟩ .empty ⟨[⟨"é", "#"⟩], "."⟩).text =
      ⟨[⟨"é", "<%>"⟩], "."⟩ := by decide +kernel
  rw [hrun]
  show (finish (some "<%%>"), 1) = _
  rw [hok (ok_of_toBool (by decide +kernel)), htext]

end Numbering
