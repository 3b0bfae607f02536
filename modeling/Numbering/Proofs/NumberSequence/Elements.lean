import Numbering.NumberSequence

/-!
# Elements of a number sequence

The elements of a sequence are rendered each from its own index, and collected in order: there is
one text for each element, or the first element that has no text decides the error
(`renderAll_eq_ok_iff`, `renderAll_eq_error_iff`).
-/

namespace Numbering

namespace NumberSequence

/-! ## Collecting -/

section Collect

variable {items : List (Except RenderError String)}

/-- Texts alone are collected as they are. -/
theorem collect_map_ok (texts : List String) : collect (texts.map .ok) = .ok texts := by
  induction texts with
  | nil => rfl
  | cons text texts ih =>
      show (collect (texts.map .ok)).map (text :: ·) = .ok (text :: texts)
      rw [ih]
      rfl

/-- The first error decides, whatever comes after it. -/
theorem collect_append_error (texts : List String) (error : RenderError)
    (rest : List (Except RenderError String)) :
    collect (texts.map .ok ++ .error error :: rest) = .error error := by
  induction texts with
  | nil => rfl
  | cons text texts ih =>
      show (collect (texts.map .ok ++ .error error :: rest)).map (text :: ·) = .error error
      rw [ih]
      rfl

/-- A list of renderings holds texts alone, or texts up to a first error. -/
theorem texts_or_error (items : List (Except RenderError String)) :
    (∃ texts : List String, items = texts.map .ok) ∨
      ∃ (texts : List String) (error : RenderError) (rest : List (Except RenderError String)),
        items = texts.map .ok ++ .error error :: rest := by
  induction items with
  | nil => exact .inl ⟨[], rfl⟩
  | cons item items ih =>
      cases item with
      | error error => exact .inr ⟨[], error, items, rfl⟩
      | ok text =>
          rcases ih with ⟨texts, rfl⟩ | ⟨texts, error, rest, rfl⟩
          · exact .inl ⟨text :: texts, rfl⟩
          · exact .inr ⟨text :: texts, error, rest, rfl⟩

/-- Items are collected when all of them are texts. -/
theorem collect_eq_ok_iff {texts : List String} :
    collect items = .ok texts ↔ items = texts.map .ok := by
  constructor
  · intro hcollect
    rcases texts_or_error items with ⟨others, rfl⟩ | ⟨others, error, rest, rfl⟩
    · rw [collect_map_ok] at hcollect
      cases hcollect
      rfl
    · rw [collect_append_error] at hcollect
      cases hcollect
  · intro hitems
    rw [hitems, collect_map_ok]

/-- The first item that is an error is the error of collecting. -/
theorem collect_eq_error_iff {error : RenderError} : collect items = .error error ↔
    ∃ (texts : List String) (rest : List (Except RenderError String)),
      items = texts.map .ok ++ .error error :: rest := by
  constructor
  · intro hcollect
    rcases texts_or_error items with ⟨texts, rfl⟩ | ⟨texts, first, rest, rfl⟩
    · rw [collect_map_ok] at hcollect
      cases hcollect
    · rw [collect_append_error] at hcollect
      cases hcollect
      exact ⟨texts, rest, rfl⟩
  · rintro ⟨texts, rest, hitems⟩
    rw [hitems, collect_append_error]

end Collect

/-! ## Rendering by index -/

section Rendering

variable [Json.Writer] {sequence : NumberSequence} {count : Nat}

/-- Every element is rendered from its own index. -/
theorem renderFrom_eq_map (sequence : NumberSequence) (index count : Nat) :
    sequence.renderFrom index count = (List.range' index count).map sequence.renderAt := by
  induction count generalizing index with
  | zero => rfl
  | succ count ih => rw [renderFrom, ih, List.range'_succ, List.map_cons]

/-- Rendering all elements is collecting them. -/
theorem renderAll_eq_collect (sequence : NumberSequence) (count : Nat) :
    sequence.renderAll count = collect ((List.range count).map sequence.renderAt) := by
  rw [renderAll, renderFrom_eq_map, List.range_eq_range']

/-- All elements have a text precisely when each one has, and the texts stand in the order of the
elements. -/
theorem renderAll_eq_ok_iff {texts : List String} : sequence.renderAll count = .ok texts ↔
    texts.length = count ∧
      ∀ index (hindex : index < texts.length), sequence.renderAt index = .ok texts[index] := by
  rw [renderAll_eq_collect, collect_eq_ok_iff]
  constructor
  · intro hitems
    have hlength := congrArg List.length hitems
    simp only [List.length_map, List.length_range] at hlength
    refine ⟨hlength.symm, fun index hindex ↦ ?_⟩
    have helement := List.getElem_of_eq hitems (by simpa [hlength] using hindex)
    simpa using helement
  · rintro ⟨hlength, helements⟩
    apply List.ext_getElem
    · simp [hlength]
    · intro index hcount hindex
      simpa using helements index (by simpa using hindex)

/-- There is one text for each element. -/
theorem length_of_renderAll {texts : List String} (hrender : sequence.renderAll count = .ok texts) :
    texts.length = count :=
  (renderAll_eq_ok_iff.1 hrender).1

/-- The error of a collection is that of an element behind elements with a text. -/
theorem exists_of_renderAll_eq_error {error : RenderError}
    (hrender : sequence.renderAll count = .error error) :
    ∃ index, index < count ∧ sequence.renderAt index = .error error ∧
      ∀ earlier, earlier < index → ∃ text, sequence.renderAt earlier = .ok text := by
  rw [renderAll_eq_collect, collect_eq_error_iff] at hrender
  obtain ⟨texts, rest, hitems⟩ := hrender
  have hlength := congrArg List.length hitems
  simp only [List.length_map, List.length_range, List.length_append, List.length_cons] at hlength
  have helement : ∀ index, index < count →
      (texts.map .ok ++ .error error :: rest)[index]? = some (sequence.renderAt index) := by
    intro index hindex
    rw [← hitems, List.getElem?_map, List.getElem?_range hindex, Option.map_some]
  refine ⟨texts.length, by omega, ?_, ?_⟩
  · have herror := helement texts.length (by omega)
    simpa using herror.symm
  · intro earlier hearlier
    have htext := helement earlier (by omega)
    rw [List.getElem?_append_left (by simpa using hearlier), List.getElem?_map,
      List.getElem?_eq_getElem hearlier] at htext
    exact ⟨texts[earlier], (Option.some.inj htext).symm⟩

/-- There is an error precisely when some element has one, and it is that of the first such
element. -/
theorem renderAll_eq_error_iff {error : RenderError} :
    sequence.renderAll count = .error error ↔
      ∃ index, index < count ∧ sequence.renderAt index = .error error ∧
        ∀ earlier, earlier < index → ∃ text, sequence.renderAt earlier = .ok text := by
  constructor
  · exact exists_of_renderAll_eq_error
  · rintro ⟨index, hindex, herror, hfront⟩
    cases hrender : sequence.renderAll count with
    | ok texts =>
        obtain ⟨hlength, helements⟩ := renderAll_eq_ok_iff.1 hrender
        rw [helements index (by omega)] at herror
        cases herror
    | error other =>
        obtain ⟨first, -, hother, hothers⟩ := exists_of_renderAll_eq_error hrender
        -- Neither of the two elements can stand in front of the other one.
        rcases Nat.lt_trichotomy index first with hlt | rfl | hlt
        · obtain ⟨text, htext⟩ := hothers index hlt
          rw [htext] at herror
          cases herror
        · rw [hother] at herror
          cases herror
          rfl
        · obtain ⟨text, htext⟩ := hfront first hlt
          rw [htext] at hother
          cases hother

end Rendering

end NumberSequence

/-! ## Asking a cursor to its end -/

section Asking

variable [Json.Writer]

/-- All elements that a cursor gives when it is asked again and again. -/
def SequenceCursor.drain (cursor : SequenceCursor) : List (Except RenderError String) :=
  match _hnext : cursor.next? with
  | none => []
  | some (item, moved) => item :: moved.drain
termination_by cursor.remaining
decreasing_by
  rw [SequenceCursor.remaining_of_next? _hnext]
  exact Nat.lt_succ_self _

namespace NumberSequence

/-- Asking again and again gives all elements that are left. -/
theorem drain_eq_rest (cursor : SequenceCursor) : cursor.drain = cursor.rest := by
  fun_induction SequenceCursor.drain cursor with
  | case1 cursor hnext =>
      unfold SequenceCursor.next? at hnext
      split at hnext
      · cases hnext
      · have hnothing : cursor.remaining = 0 := by
          unfold SequenceCursor.remaining
          omega
        rw [SequenceCursor.rest, hnothing, renderFrom]
  | case2 cursor item moved hnext ih =>
      rw [ih, SequenceCursor.rest, SequenceCursor.rest, SequenceCursor.remaining_of_next? hnext,
        renderFrom]
      unfold SequenceCursor.next? at hnext
      split at hnext
      · cases hnext
        rfl
      · cases hnext

/-- The elements of a sequence are collected by asking a cursor in front of the first of them. -/
theorem renderAll_eq_collect_drain (sequence : NumberSequence) (count : Nat) :
    sequence.renderAll count = collect (SequenceCursor.start sequence count).drain := by
  rw [drain_eq_rest]
  rfl

end NumberSequence

end Asking

end Numbering
