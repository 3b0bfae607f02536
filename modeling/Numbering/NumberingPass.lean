import Numbering.MarkedText
import Numbering.NumberSequence
import Numbering.Numeral.Notation
import Numbering.Override
import Numbering.Template.Cache

/-!
# Numbering passes

A pass puts the elements of a number sequence in the place of the marks of a text, all of them or
none. Numbering a text takes two passes: the first one by the default settings, and a second one,
on the same marks, by an override that the user is asked for in between. When there is no override
or it is refused, the first pass stays.
-/

namespace Numbering

/-- Why a pass changes nothing. -/
inductive NumberingError where
  | template (error : TemplateError)
  | render (error : RenderError)
  | override (error : OverrideError)
  | marks (error : MarkError)
deriving DecidableEq

/-- The message of an error. -/
def NumberingError.message : NumberingError → String
  | .template error => error.message
  | .render error => error.message
  | .override error => error.message
  | .marks error => error.message

/-- What a pass comes to: its result, the text and the cache afterwards, and what was logged. -/
structure PassOutcome (α : Type) where
  result : Except NumberingError α
  text : MarkedText
  cache : TemplateCache
  log : List LogRecord

variable [Json.Writer]

namespace Settings

/-- The report of a finished pass over some marks. -/
def report (settings : Settings) (count : Nat) : LogRecord :=
  ⟨.info, "inserted " ++ Digits.text count ++ " value(s) with " ++ Text.quoted settings.format ++
    " from " ++ String.ofList (Numeral.ungrouped settings.start) ++ " step " ++
    String.ofList (Numeral.ungrouped settings.step)⟩

/-- The text with the elements of a sequence in the place of the marks. -/
def fill (settings : Settings) (template : Template) (text : MarkedText) :
    Except NumberingError MarkedText :=
  let sequence : NumberSequence := ⟨template, settings.start, settings.step⟩
  match sequence.renderAll text.size with
  | .error error => .error (.render error)
  | .ok texts => (text.replace texts).mapError .marks

/-- One pass over a text. -/
def insert (settings : Settings) (cache : TemplateCache) (text : MarkedText) : PassOutcome Unit :=
  let step := cache.fetch settings.format
  match step.result with
  | .error error => ⟨.error (.template error), text, step.cache, step.log⟩
  | .ok kept =>
      match settings.fill kept.template text with
      | .error error => ⟨.error error, text, step.cache, step.log⟩
      | .ok filled => ⟨.ok (), filled, step.cache, step.log ++ [settings.report text.size]⟩

end Settings

namespace Override

/-- The pass for a line of user input, if there is one; the result says which settings were
applied. -/
def insert (input : Option String) (cache : TemplateCache) (text : MarkedText) :
    PassOutcome (Option Settings) :=
  match input with
  | none => ⟨.ok none, text, cache, []⟩
  | some line =>
      match parse line with
      | .ok none => ⟨.ok none, text, cache, []⟩
      | .error error =>
          ⟨.error (.override error), text, cache,
            [⟨.warn, "override rejected, keeping default sequence: " ++ error.message⟩]⟩
      | .ok (some settings) =>
          let pass := settings.insert cache text
          { pass with result := pass.result.map fun _ ↦ some settings }

end Override

/-- Both passes over a text. After the first pass, and only when it succeeds, a line of user input
is asked for; whoever is asked may look at the text of the first pass. -/
def numberTextAsking {m : Type → Type} [Monad m] (ask : MarkedText → m (Option String))
    (defaults : Settings) (cache : TemplateCache) (text : MarkedText) :
    m (PassOutcome (Option Settings)) :=
  let first := defaults.insert cache text
  match first.result with
  | .error error => pure { first with result := .error error }
  | .ok () => do
      let input ← ask first.text
      let second := Override.insert input first.cache first.text
      pure { second with log := first.log ++ second.log }

/-- Both passes over a text, with a given line of user input. The flag of the answer says whether
it was asked for. -/
def numberText (defaults : Settings) (input : Option String) (cache : TemplateCache)
    (text : MarkedText) : Bool × PassOutcome (Option Settings) :=
  let answer (_ : MarkedText) : StateM Bool (Option String) := do
    set true
    pure input
  let run := (numberTextAsking answer defaults cache text).run false
  (run.2, run.1)

end Numbering
