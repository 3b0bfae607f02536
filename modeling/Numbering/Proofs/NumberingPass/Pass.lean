import Numbering.NumberingPass
import Numbering.Proofs.MarkedText.Editing
import Numbering.Proofs.NumberSequence.Elements
import Numbering.Proofs.Template.Cache

/-!
# One pass

What a pass does to a text depends on the settings alone: `Settings.applyTo` is the pass without a
cache, and inserting with a faithful cache has the same result. A pass looks at the number of marks
and at the gaps, never at the marks themselves, so that a pass over the text of another pass is a
pass over the text as it was before (`Settings.applyTo_of_applyTo`).
-/

namespace Numbering

namespace Settings

variable [Json.Writer]

/-- The text that a pass makes, without a cache. -/
def applyTo (settings : Settings) (text : MarkedText) : Except NumberingError MarkedText :=
  match Template.parse settings.format with
  | .error error => .error (.template error)
  | .ok template => settings.fill template text

/-- The sequence that a pass renders with a template. -/
def sequence (settings : Settings) (template : Template) : NumberSequence :=
  ⟨template, settings.start, settings.step⟩

/-- The element for the mark with a given index: the rendering of the start and so many steps. -/
def elementAt (settings : Settings) (template : Template) (index : Nat) :
    Except RenderError String :=
  template.render [.number (settings.start.add ((Binary64.ofNat index).mul settings.step))]

/-- A text is filled when all elements render, and the marks then are the elements. -/
theorem fill_eq_ok_iff {settings : Settings} {template : Template} {text filled : MarkedText} :
    settings.fill template text = .ok filled ↔
      ∃ texts, (settings.sequence template).renderAll text.size = .ok texts ∧
        filled = { text with pieces := MarkedText.replacePieces text.pieces texts } := by
  unfold Settings.fill
  rw [sequence]
  dsimp only
  split
  · rename_i error herror
    simp [herror]
  · rename_i texts hrender
    have hlength := NumberSequence.length_of_renderAll hrender
    rw [MarkedText.replace_eq_ok hlength, hrender]
    constructor
    · intro hfilled
      cases hfilled
      exact ⟨texts, rfl, rfl⟩
    · rintro ⟨_, hsame, rfl⟩
      cases hsame
      rfl

/-- A text is not filled when an element does not render, and the error is the one of rendering. -/
theorem fill_eq_error_iff {settings : Settings} {template : Template} {text : MarkedText}
    {error : NumberingError} : settings.fill template text = .error error ↔
      ∃ fault, (settings.sequence template).renderAll text.size = .error fault ∧
        error = .render fault := by
  unfold Settings.fill
  rw [sequence]
  dsimp only
  split
  · rename_i fault hrender
    rw [hrender]
    constructor
    · intro herror
      cases herror
      exact ⟨fault, rfl, rfl⟩
    · rintro ⟨_, hsame, rfl⟩
      cases hsame
      rfl
  · rename_i texts hrender
    -- There are as many texts as marks, so that replacing the marks does not fail.
    rw [MarkedText.replace_eq_ok (NumberSequence.length_of_renderAll hrender), hrender]
    constructor
    · intro herror
      cases herror
    · rintro ⟨_, hsame, -⟩
      cases hsame

/-- Filling a text whose marks were replaced is filling the text. -/
theorem fill_replacePieces (settings : Settings) (template : Template) {text : MarkedText}
    {texts : List String} (hlength : texts.length = text.size) :
    settings.fill template { text with pieces := MarkedText.replacePieces text.pieces texts } =
      settings.fill template text := by
  -- The marks that were put in are counted, but they are never read.
  have hsize : MarkedText.size
      { text with pieces := MarkedText.replacePieces text.pieces texts } = text.size :=
    MarkedText.length_replacePieces hlength
  unfold Settings.fill
  dsimp only
  rw [hsize]
  split
  · rfl
  · rename_i others hrender
    have hothers := NumberSequence.length_of_renderAll hrender
    rw [MarkedText.replace_eq_ok hothers, MarkedText.replace_eq_ok (hothers.trans hsize.symm)]
    rw [MarkedText.replacePieces_replacePieces others hlength]

/-- A pass comes to a text when the template can be read and all elements render. -/
theorem applyTo_eq_ok_iff {settings : Settings} {text filled : MarkedText} :
    settings.applyTo text = .ok filled ↔
      ∃ template texts, Template.parse settings.format = .ok template ∧
        (settings.sequence template).renderAll text.size = .ok texts ∧
        filled = { text with pieces := MarkedText.replacePieces text.pieces texts } := by
  unfold applyTo
  split
  · rename_i error hparse
    simp [hparse]
  · rename_i template hparse
    rw [fill_eq_ok_iff, hparse]
    constructor
    · rintro ⟨texts, hrender, hfilled⟩
      exact ⟨template, texts, rfl, hrender, hfilled⟩
    · rintro ⟨_, texts, hsame, hrender, hfilled⟩
      cases hsame
      exact ⟨texts, hrender, hfilled⟩

/-- A pass fails when the template cannot be read or an element does not render. -/
theorem applyTo_eq_error_iff {settings : Settings} {text : MarkedText} {error : NumberingError} :
    settings.applyTo text = .error error ↔
      (∃ fault, Template.parse settings.format = .error fault ∧ error = .template fault) ∨
      ∃ template fault, Template.parse settings.format = .ok template ∧
        (settings.sequence template).renderAll text.size = .error fault ∧
        error = .render fault := by
  unfold applyTo
  split
  · rename_i fault hparse
    rw [hparse]
    constructor
    · intro herror
      cases herror
      exact .inl ⟨fault, rfl, rfl⟩
    · rintro (⟨_, hsame, rfl⟩ | ⟨_, _, hsame, -⟩)
      · cases hsame
        rfl
      · cases hsame
  · rename_i template hparse
    rw [fill_eq_error_iff, hparse]
    constructor
    · rintro ⟨fault, hrender, herror⟩
      exact .inr ⟨template, fault, rfl, hrender, herror⟩
    · rintro (⟨_, hsame, -⟩ | ⟨_, fault, hsame, hrender, herror⟩)
      · cases hsame
      · cases hsame
        exact ⟨fault, hrender, herror⟩

/-- A pass over the text of another pass is a pass over the text as it was before. -/
theorem applyTo_of_applyTo {first : Settings} {text filled : MarkedText}
    (hfirst : first.applyTo text = .ok filled) (settings : Settings) :
    settings.applyTo filled = settings.applyTo text := by
  unfold applyTo at hfirst
  split at hfirst
  · cases hfirst
  · obtain ⟨texts, hrender, rfl⟩ := fill_eq_ok_iff.1 hfirst
    have hlength := NumberSequence.length_of_renderAll hrender
    simp only [applyTo, fill_replacePieces settings _ hlength]

section Insert

variable {cache : TemplateCache}

/-- Inserting leaves the cache that fetching the template leaves. -/
theorem insert_cache (settings : Settings) (cache : TemplateCache) (text : MarkedText) :
    (settings.insert cache text).cache = (cache.fetch settings.format).cache := by
  unfold Settings.insert
  dsimp only
  split
  · rfl
  · split <;> rfl

/-- Inserting is the pass without a cache: it fails with the same error and then leaves the text
as it is, or it comes to the same text. -/
theorem insert_eq (hcache : cache.Faithful) (settings : Settings) (text : MarkedText) :
    ((settings.insert cache text).result, (settings.insert cache text).text) =
      match settings.applyTo text with
      | .error error => (.error error, text)
      | .ok filled => (.ok (), filled) := by
  have hfetch := TemplateCache.fetch_result hcache settings.format
  unfold Settings.insert applyTo
  dsimp only
  cases hresult : (cache.fetch settings.format).result with
  | error error =>
      rw [hresult] at hfetch
      rw [← hfetch]
      rfl
  | ok kept =>
      rw [hresult] at hfetch
      rw [← hfetch]
      show _ = match settings.fill kept.template text with
        | .error error => (Except.error error, text)
        | .ok filled => (.ok (), filled)
      cases hfill : settings.fill kept.template text with
      | error error => simp only [hfill]
      | ok filled => simp only [hfill]

/-- A pass that fails leaves the text as it is. -/
theorem text_of_insert_error (hcache : cache.Faithful) {settings : Settings} {text : MarkedText}
    {error : NumberingError} (hresult : (settings.insert cache text).result = .error error) :
    (settings.insert cache text).text = text := by
  have hinsert := insert_eq hcache settings text
  split at hinsert
  · exact (Prod.mk.inj hinsert).2
  · rw [hresult] at hinsert
    cases (Prod.mk.inj hinsert).1

/-- When the pass without a cache fails, so does inserting, and the text stays. -/
theorem insert_of_applyTo_error (hcache : cache.Faithful) {settings : Settings}
    {text : MarkedText} {error : NumberingError} (happly : settings.applyTo text = .error error) :
    (settings.insert cache text).result = .error error ∧
      (settings.insert cache text).text = text := by
  have hinsert := insert_eq hcache settings text
  rw [happly] at hinsert
  exact Prod.mk.inj hinsert

/-- When the pass without a cache comes to a text, so does inserting. -/
theorem insert_of_applyTo_ok (hcache : cache.Faithful) {settings : Settings}
    {text filled : MarkedText} (happly : settings.applyTo text = .ok filled) :
    (settings.insert cache text).result = .ok () ∧
      (settings.insert cache text).text = filled := by
  have hinsert := insert_eq hcache settings text
  rw [happly] at hinsert
  exact Prod.mk.inj hinsert

/-- A pass fails as the pass without a cache does. -/
theorem applyTo_of_insert_error (hcache : cache.Faithful) {settings : Settings} {text : MarkedText}
    {error : NumberingError} (hresult : (settings.insert cache text).result = .error error) :
    settings.applyTo text = .error error := by
  cases happly : settings.applyTo text with
  | ok filled =>
      rw [(insert_of_applyTo_ok hcache happly).1] at hresult
      cases hresult
  | error other =>
      rw [(insert_of_applyTo_error hcache happly).1] at hresult
      cases hresult
      rfl

end Insert

end Settings

end Numbering
