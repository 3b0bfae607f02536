import Mathlib.Control.Monad.Basic
import Mathlib.Data.List.Induction
import Numbering.Json.Writing
import Numbering.Proofs.Template.Cache

/-!
# What a program sees of a cache

A program fetches templates, reads and renders texts in one go, renders again what it fetched
before, and clears the cache, in any order and any number of times. Apart from the stamps, all it
sees is what reading the texts anew gives, and what it holds outlives a clearing; the stamps tell
exactly whether the cache was cleared between two fetches of one text, and the size of the cache is
the number of texts that were read since (`cache_invisible`).
-/

namespace Numbering

/-- One use of a cache. What was fetched before is rendered again by the place of that fetch among
the uses. -/
inductive CacheUse where
  | fetch (source : String)
  | format (source : String) (arguments : List Value)
  | render (place : Nat) (arguments : List Value)
  | clear

/-- The text that a use reads. -/
def CacheUse.source? : CacheUse → Option String
  | .fetch source | .format source _ => some source
  | .render _ _ | .clear => none

/-- What a use comes to. Nothing is rendered again when nothing was fetched at the place. -/
inductive CacheAnswer where
  | fetched (result : Except TemplateError KeptTemplate)
  | formatted (result : Except FormatError String)
  | rendered (result : Option (Except RenderError String))
  | cleared

/-- A cache in use, with the answers that were given so far. -/
structure CacheHistory where
  cache : TemplateCache
  answers : List CacheAnswer

/-- Read a text and render it, without a cache. -/
def Template.formatAnew [Json.Writer] (source : String) (arguments : List Value) :
    Except FormatError String :=
  match Template.parse source with
  | .ok template => (template.render arguments).mapError .render
  | .error error => .error (.template error)

namespace CacheHistory

/-- Nothing has happened yet. -/
def start : CacheHistory := ⟨.empty, []⟩

/-- What was fetched at a place. -/
def held? (history : CacheHistory) (place : Nat) : Option KeptTemplate :=
  match history.answers[place]? with
  | some (.fetched (.ok kept)) => some kept
  | _ => none

/-- The cache is cleared after a place. -/
def ClearedAfter (uses : List CacheUse) (place : Nat) : Prop :=
  ∃ later, place < later ∧ uses[later]? = some .clear

/-- A text is a template, and was read since the cache was cleared for the last time. -/
def ReadSince (uses : List CacheUse) (source : String) : Prop :=
  (∃ template, Template.parse source = .ok template) ∧
    ∃ place use, uses[place]? = some use ∧ use.source? = some source ∧ ¬ ClearedAfter uses place

/-! ## Clearing -/

/-- An element of a list with one more at the end is an element of the list, or the last one. -/
theorem getElem?_append_singleton_cases {α : Type} {list : List α} {last element : α} {place : Nat}
    (helement : (list ++ [last])[place]? = some element) :
    (place < list.length ∧ list[place]? = some element) ∨
      (place = list.length ∧ element = last) := by
  rcases Nat.lt_trichotomy place list.length with hbefore | rfl | hbehind
  · rw [List.getElem?_append_left hbefore] at helement
    exact .inl ⟨hbefore, helement⟩
  · rw [List.getElem?_concat_length] at helement
    exact .inr ⟨rfl, (Option.some.inj helement).symm⟩
  · have hplace := (List.getElem?_eq_some_iff.1 helement).1
    rw [List.length_append, List.length_singleton] at hplace
    omega

/-- Nothing comes after the last use. -/
theorem not_clearedAfter_length (uses : List CacheUse) : ¬ ClearedAfter uses uses.length := by
  rintro ⟨later, hlater, hclear⟩
  have hinside := (List.getElem?_eq_some_iff.1 hclear).1
  omega

/-- One more use clears the cache after every place in front of it, or leaves things as they are. -/
theorem clearedAfter_append_iff {uses : List CacheUse} {use : CacheUse} {place : Nat} :
    ClearedAfter (uses ++ [use]) place ↔
      ClearedAfter uses place ∨ (place < uses.length ∧ use = .clear) := by
  constructor
  · rintro ⟨later, hlater, hclear⟩
    rcases getElem?_append_singleton_cases hclear with ⟨-, hbefore⟩ | ⟨rfl, hlast⟩
    · exact .inl ⟨later, hlater, hbefore⟩
    · exact .inr ⟨hlater, hlast.symm⟩
  · rintro (⟨later, hlater, hclear⟩ | ⟨hplace, rfl⟩)
    · refine ⟨later, hlater, ?_⟩
      rwa [List.getElem?_append_left (List.getElem?_eq_some_iff.1 hclear).1]
    · exact ⟨uses.length, hplace, List.getElem?_concat_length⟩

/-- Among the first uses the cache is cleared after a place when one of them behind it does so. -/
theorem clearedAfter_take_iff {uses : List CacheUse} {place count : Nat} :
    ClearedAfter (uses.take count) place ↔
      ∃ between, place < between ∧ between < count ∧ uses[between]? = some .clear := by
  constructor
  · rintro ⟨between, hplace, hclear⟩
    have hinside := (List.getElem?_eq_some_iff.1 hclear).1
    have hcount : between < count := Nat.lt_of_lt_of_le hinside (List.length_take_le count uses)
    rw [List.getElem?_take_of_lt hcount] at hclear
    exact ⟨between, hplace, hcount, hclear⟩
  · rintro ⟨between, hplace, hcount, hclear⟩
    exact ⟨between, hplace, by rwa [List.getElem?_take_of_lt hcount]⟩

/-- Nothing was read since a clearing, and otherwise one more use adds the template that it
reads. -/
theorem readSince_append_iff {uses : List CacheUse} {use : CacheUse} {source : String} :
    ReadSince (uses ++ [use]) source ↔ use ≠ .clear ∧ (ReadSince uses source ∨
      (use.source? = some source ∧ ∃ template, Template.parse source = .ok template)) := by
  constructor
  · rintro ⟨htemplate, place, reader, hreader, hsource, hsince⟩
    rw [clearedAfter_append_iff, not_or] at hsince
    rcases getElem?_append_singleton_cases hreader with ⟨hplace, hbefore⟩ | ⟨rfl, rfl⟩
    · refine ⟨fun hclear ↦ hsince.2 ⟨hplace, hclear⟩, .inl ?_⟩
      exact ⟨htemplate, place, reader, hbefore, hsource, hsince.1⟩
    · refine ⟨?_, .inr ⟨hsource, htemplate⟩⟩
      rintro rfl
      cases hsource
  · rintro ⟨hclear, ⟨htemplate, place, reader, hreader, hsource, hsince⟩ | ⟨hsource, htemplate⟩⟩
    · refine ⟨htemplate, place, reader, ?_, hsource, ?_⟩
      · rwa [List.getElem?_append_left (List.getElem?_eq_some_iff.1 hreader).1]
      · rw [clearedAfter_append_iff]
        rintro (hcleared | ⟨-, hlast⟩)
        · exact hsince hcleared
        · exact hclear hlast
    · refine ⟨htemplate, uses.length, use, List.getElem?_concat_length, hsource, ?_⟩
      rw [clearedAfter_append_iff]
      rintro (hcleared | ⟨hlast, -⟩)
      · exact not_clearedAfter_length uses hcleared
      · exact absurd hlast (Nat.lt_irrefl _)

/-! ## Histories -/

/-- What is held from a place is what was fetched there. -/
theorem held?_eq_some_iff {history : CacheHistory} {place : Nat} {kept : KeptTemplate} :
    history.held? place = some kept ↔ history.answers[place]? = some (.fetched (.ok kept)) := by
  unfold held?
  grind

variable [Json.Writer]

/-- The answer to the next use. -/
def answer (history : CacheHistory) : CacheUse → CacheAnswer
  | .fetch source => .fetched (history.cache.fetch source).result
  | .format source arguments => .formatted (history.cache.format source arguments).result
  | .render place arguments =>
      .rendered ((history.held? place).map fun kept ↦ kept.template.render arguments)
  | .clear => .cleared

/-- The cache after the next use. -/
def cacheAfter (history : CacheHistory) : CacheUse → TemplateCache
  | .fetch source => (history.cache.fetch source).cache
  | .format source arguments => (history.cache.format source arguments).cache
  | .render _ _ => history.cache
  | .clear => history.cache.clear

/-- The history after the next use. -/
def after (history : CacheHistory) (use : CacheUse) : CacheHistory :=
  ⟨history.cacheAfter use, history.answers ++ [history.answer use]⟩

/-- The history of a new cache. -/
def run (uses : List CacheUse) : CacheHistory := uses.foldl after start

/-- One more use is the next use of the history so far. -/
theorem run_append_singleton (uses : List CacheUse) (use : CacheUse) :
    run (uses ++ [use]) = (run uses).after use := by
  unfold run
  rw [List.foldl_append]
  rfl

/-- Every use has an answer. -/
theorem length_answers (uses : List CacheUse) : (run uses).answers.length = uses.length := by
  induction uses using List.reverseRecOn with
  | nil => rfl
  | append_singleton uses use ih =>
      rw [run_append_singleton, after, List.length_append, List.length_append, ih]
      rfl

/-- Later uses leave the answers that were given. -/
theorem answers_take (uses : List CacheUse) (count : Nat) :
    (run (uses.take count)).answers = (run uses).answers.take count := by
  induction uses using List.reverseRecOn with
  | nil =>
      rw [List.take_nil]
      exact List.take_nil.symm
  | append_singleton uses use ih =>
      rcases Nat.lt_or_ge uses.length count with hlong | hshort
      · have hlength : (run (uses ++ [use])).answers.length ≤ count := by
          rw [length_answers, List.length_append]
          exact hlong
        rw [List.take_of_length_le hlength, List.take_of_length_le]
        rw [List.length_append]
        exact hlong
      · rw [List.take_append_of_le_length hshort, ih, run_append_singleton, after,
          List.take_append_of_le_length]
        rwa [length_answers]

/-- The answer to a use depends on the uses in front of it. -/
theorem getElem?_answers {uses : List CacheUse} {place : Nat} {use : CacheUse}
    (huse : uses[place]? = some use) :
    (run uses).answers[place]? = some ((run (uses.take place)).answer use) := by
  have hplace : place < uses.length := (List.getElem?_eq_some_iff.1 huse).1
  have htake : uses.take (place + 1) = uses.take place ++ [use] := by
    rw [List.take_add_one, huse]
    rfl
  have hlength : (run (uses.take place)).answers.length = place := by
    rw [length_answers, List.length_take_of_le (Nat.le_of_lt hplace)]
  have hanswers := answers_take uses (place + 1)
  rw [htake, run_append_singleton] at hanswers
  rw [← List.getElem?_take_of_lt (Nat.lt_succ_self place), ← hanswers]
  have hlast := List.getElem?_concat_length (l := (run (uses.take place)).answers)
    (a := (run (uses.take place)).answer use)
  rwa [hlength] at hlast

/-- What was fetched at a place is held from then on. -/
theorem held?_take (uses : List CacheUse) {place count : Nat} (hplace : place < count) :
    (run (uses.take count)).held? place = (run uses).held? place := by
  unfold held?
  rw [answers_take, List.getElem?_take_of_lt hplace]

/-- What is held after a use was held before it, or is what the use fetches. -/
theorem held?_after {history : CacheHistory} {use : CacheUse} {place : Nat} {kept : KeptTemplate}
    (hkept : (history.after use).held? place = some kept) :
    (place < history.answers.length ∧ history.held? place = some kept) ∨
      (place = history.answers.length ∧
        ∃ source, use = .fetch source ∧ (history.cache.fetch source).result = .ok kept) := by
  rw [held?_eq_some_iff] at hkept ⊢
  rcases getElem?_append_singleton_cases hkept with hbefore | ⟨hplace, hanswer⟩
  · exact .inl hbefore
  · refine .inr ⟨hplace, ?_⟩
    cases use with
    | fetch source => exact ⟨source, rfl, (CacheAnswer.fetched.inj hanswer).symm⟩
    | format source arguments => cases hanswer
    | render earlier arguments => cases hanswer
    | clear => cases hanswer

/-! ## What holds after every run -/

/-- Only reading and clearing touch the cache. -/
theorem cacheAfter_cases (history : CacheHistory) (use : CacheUse) :
    (∃ source, use.source? = some source ∧ use ≠ .clear ∧
      history.cacheAfter use = (history.cache.fetch source).cache) ∨
    (use.source? = none ∧ use ≠ .clear ∧ history.cacheAfter use = history.cache) ∨
    (use = .clear ∧ history.cacheAfter use = history.cache.clear) := by
  cases use with
  | fetch source => exact .inl ⟨source, rfl, nofun, rfl⟩
  | format source arguments =>
      exact .inl ⟨source, rfl, nofun, history.cache.format_cache source arguments⟩
  | render place arguments => exact .inr (.inl ⟨rfl, nofun, rfl⟩)
  | clear => exact .inr (.inr ⟨rfl, rfl⟩)

/-- Every cache in use is orderly. -/
theorem orderly_run (uses : List CacheUse) : (run uses).cache.Orderly := by
  induction uses using List.reverseRecOn with
  | nil => exact TemplateCache.orderly_empty
  | append_singleton uses use ih =>
      rw [run_append_singleton, after]
      dsimp only
      obtain ⟨source, -, -, hcache⟩ | ⟨-, -, hcache⟩ | ⟨-, hcache⟩ :=
        (run uses).cacheAfter_cases use
      · rw [hcache]
        exact ih.fetch source
      · rwa [hcache]
      · rw [hcache]
        exact TemplateCache.orderly_clear _

/-- The cache keeps what was read since it was cleared, and nothing else. -/
theorem mem_sources_run (uses : List CacheUse) (source : String) :
    source ∈ (run uses).cache.sources ↔ ReadSince uses source := by
  induction uses using List.reverseRecOn with
  | nil =>
      constructor
      · intro hsource
        cases hsource
      · rintro ⟨-, place, use, huse, -⟩
        cases huse
  | append_singleton uses use ih =>
      rw [run_append_singleton, after, readSince_append_iff, ← ih]
      dsimp only
      obtain ⟨other, hread, hclear, hcache⟩ | ⟨hnone, hclear, hcache⟩ | ⟨rfl, hcache⟩ :=
        (run uses).cacheAfter_cases use
      · rw [hcache, TemplateCache.mem_sources_fetch, hread, Option.some_inj]
        exact (and_iff_right hclear).symm
      · rw [hcache, hnone]
        simp [hclear]
      · rw [hcache]
        simp [TemplateCache.sources, TemplateCache.clear]

/-- What was fetched is tracked from then on. -/
theorem tracked_run {uses : List CacheUse} {place : Nat} {kept : KeptTemplate}
    (hkept : (run uses).held? place = some kept) :
    (run uses).cache.Tracked kept (ClearedAfter uses place) := by
  induction uses using List.reverseRecOn with
  | nil => cases hkept
  | append_singleton uses use ih =>
      rw [run_append_singleton] at hkept ⊢
      rw [clearedAfter_append_iff]
      rcases held?_after hkept with ⟨hplace, hheld⟩ | ⟨rfl, source, rfl, hresult⟩
      · have htracked := ih hheld
        rw [length_answers] at hplace
        rw [after]
        dsimp only
        obtain ⟨source, -, hclear, hcache⟩ | ⟨-, hclear, hcache⟩ | ⟨rfl, hcache⟩ :=
          (run uses).cacheAfter_cases use
        · rw [hcache]
          simpa [hclear] using htracked.fetch source
        · rw [hcache]
          simpa [hclear] using htracked
        · rw [hcache]
          simpa [hplace] using htracked.clear
      · rw [length_answers, or_iff_right (not_clearedAfter_length uses)]
        simpa [after, cacheAfter] using TemplateCache.tracked_of_fetch (orderly_run uses) hresult

/-! ## Answers -/

/-- A fetch is answered with what its source is read as. -/
theorem fetched_run {uses : List CacheUse} {place : Nat} {source : String}
    (huse : uses[place]? = some (.fetch source)) :
    ∃ result, (run uses).answers[place]? = some (.fetched result) ∧
      result.map KeptTemplate.template = Template.parse source :=
  ⟨_, getElem?_answers huse, TemplateCache.fetch_result (orderly_run _).faithful source⟩

/-- Reading and rendering a text comes to the same with a cache and without one. -/
theorem format_result {cache : TemplateCache} (hcache : cache.Faithful) (source : String)
    (arguments : List Value) :
    (cache.format source arguments).result = Template.formatAnew source arguments := by
  have hfetch := TemplateCache.fetch_result hcache source
  unfold TemplateCache.format Template.formatAnew
  rw [← hfetch]
  dsimp only
  cases (cache.fetch source).result with
  | ok kept => rfl
  | error error => rfl

/-- A format is answered with what formatting without a cache comes to. -/
theorem formatted_run {uses : List CacheUse} {place : Nat} {source : String}
    {arguments : List Value} (huse : uses[place]? = some (.format source arguments)) :
    (run uses).answers[place]? = some (.formatted (Template.formatAnew source arguments)) := by
  rw [getElem?_answers huse, answer, format_result (orderly_run _).faithful]

/-- What is held at the place of a fetch is what reading the text gives. -/
theorem exists_held? {uses : List CacheUse} {place : Nat} {source : String} {template : Template}
    (huse : uses[place]? = some (.fetch source))
    (hparse : Template.parse source = .ok template) :
    ∃ kept, (run uses).held? place = some kept ∧ kept.template = template := by
  obtain ⟨result, hanswer, hresult⟩ := fetched_run huse
  rw [hparse] at hresult
  cases result with
  | error error => cases hresult
  | ok kept => exact ⟨kept, held?_eq_some_iff.2 hanswer, Except.ok.inj hresult⟩

/-- A template that was fetched before is rendered as the one its source is read as. -/
theorem rendered_run {uses : List CacheUse} {place earlier : Nat} {source : String}
    {template : Template} {arguments : List Value}
    (huse : uses[place]? = some (.render earlier arguments)) (hearlier : earlier < place)
    (hfetch : uses[earlier]? = some (.fetch source))
    (hparse : Template.parse source = .ok template) :
    (run uses).answers[place]? = some (.rendered (some (template.render arguments))) := by
  obtain ⟨kept, hkept, rfl⟩ := exists_held? hfetch hparse
  rw [getElem?_answers huse, answer, held?_take uses hearlier, hkept]
  rfl

/-- Two fetches of one text come under one stamp exactly when the cache was not cleared between
them. -/
theorem stamp_eq_iff_run {uses : List CacheUse} {first second : Nat} {source : String}
    {one other : KeptTemplate} (horder : first < second)
    (hfirst : uses[first]? = some (.fetch source)) (hsecond : uses[second]? = some (.fetch source))
    (hone : (run uses).answers[first]? = some (.fetched (.ok one)))
    (hother : (run uses).answers[second]? = some (.fetched (.ok other))) :
    one.stamp = other.stamp ↔
      ¬ ∃ between, first < between ∧ between < second ∧ uses[between]? = some .clear := by
  have hsource : one.template.source = source := by
    obtain ⟨result, hanswer, hresult⟩ := fetched_run hfirst
    rw [hone] at hanswer
    cases hanswer
    exact TemplateCache.source_of_parse hresult.symm
  -- The second fetch happens in the cache that the uses in front of it leave.
  have htracked : (run (uses.take second)).cache.Tracked one
      (ClearedAfter (uses.take second) first) := by
    apply tracked_run
    rw [held?_take uses horder, held?_eq_some_iff, hone]
  have hfetched : ((run (uses.take second)).cache.fetch one.template.source).result =
      .ok other := by
    rw [getElem?_answers hsecond] at hother
    rw [hsource]
    exact CacheAnswer.fetched.inj (Option.some.inj hother)
  rw [TemplateCache.stamp_eq_iff_of_fetch (orderly_run _) htracked hfetched,
    clearedAfter_take_iff]

/-- The cache cannot be seen. After any uses, and so at any time, every fetch and every reading and
rendering of a text has come to what it comes to without a cache, and what was fetched has been
rendered as it was fetched, cleared or not. The size of the cache is the number of texts that were
read as templates since it was cleared; a text that is no template leaves it as it is. And two
fetches of one text come under one stamp, as the same kept template, exactly when the cache was not
cleared between them. -/
theorem cache_invisible (uses : List CacheUse) :
    (∀ (place : Nat) source, uses[place]? = some (.fetch source) →
      ∃ result, (run uses).answers[place]? = some (.fetched result) ∧
        result.map KeptTemplate.template = Template.parse source) ∧
    (∀ (place : Nat) source arguments, uses[place]? = some (.format source arguments) →
      (run uses).answers[place]? = some (.formatted (Template.formatAnew source arguments))) ∧
    (∀ (place earlier : Nat) source template arguments,
      uses[place]? = some (.render earlier arguments) → earlier < place →
      uses[earlier]? = some (.fetch source) → Template.parse source = .ok template →
      (run uses).answers[place]? = some (.rendered (some (template.render arguments)))) ∧
    (∃ sources : List String, sources.Nodup ∧ sources.length = (run uses).cache.size ∧
      ∀ source, source ∈ sources ↔ ReadSince uses source) ∧
    (∀ source error arguments, Template.parse source = .error error →
      (run (uses ++ [.fetch source])).cache = (run uses).cache ∧
      (run (uses ++ [.format source arguments])).cache = (run uses).cache) ∧
    ∀ (first second : Nat) source one other, first < second →
      uses[first]? = some (.fetch source) → uses[second]? = some (.fetch source) →
      (run uses).answers[first]? = some (.fetched (.ok one)) →
      (run uses).answers[second]? = some (.fetched (.ok other)) →
      (one.stamp = other.stamp ↔
        ¬ ∃ between, first < between ∧ between < second ∧ uses[between]? = some .clear) := by
  refine ⟨fun _ _ ↦ fetched_run, fun _ _ _ ↦ formatted_run,
    fun _ _ _ _ _ huse hearlier hfetch hparse ↦ rendered_run huse hearlier hfetch hparse, ?_, ?_,
    fun _ _ _ _ _ horder hfirst hsecond hone hother ↦
      stamp_eq_iff_run horder hfirst hsecond hone hother⟩
  · exact ⟨_, (orderly_run uses).nodup, TemplateCache.length_sources _, mem_sources_run uses⟩
  · intro source error arguments hparse
    have hsame := TemplateCache.fetch_cache_of_parse_error (orderly_run uses).faithful hparse
    rw [run_append_singleton, run_append_singleton]
    exact ⟨hsame, (TemplateCache.format_cache _ source arguments).trans hsame⟩

/-- Uses with a clearing, a text whose rendering fails, and a text that is no template. -/
def sampleUses : List CacheUse :=
  [.fetch "%d", .clear, .fetch "%d", .format "%s%s" [.null], .fetch "%", .fetch "%d",
    .render 0 [.number .one]]

omit [Json.Writer] in
/-- What was fetched in front of the clearing is rendered behind it, and is not what is fetched
there. The cache then keeps two templates, of which one was never rendered. -/
theorem cache_invisible_cleared :
    letI := Json.Writer.shortest
    (run sampleUses).answers[3]? =
        some (.formatted (.error (.render (.missingArgument 2)))) ∧
      (run sampleUses).answers[6]? = some (.rendered (some (.ok "1"))) ∧
      (run sampleUses).cache.size = 2 ∧
      (run (sampleUses ++ [.fetch "%"])).cache = (run sampleUses).cache ∧
      ∃ before behind again : KeptTemplate,
        (run sampleUses).answers[0]? = some (.fetched (.ok before)) ∧
        (run sampleUses).answers[2]? = some (.fetched (.ok behind)) ∧
        (run sampleUses).answers[5]? = some (.fetched (.ok again)) ∧
        before.stamp ≠ behind.stamp ∧ behind.stamp = again.stamp := by
  let := Json.Writer.shortest
  obtain ⟨hfetched, hformatted, hrendered, -, hrefused, hstamps⟩ := cache_invisible sampleUses
  have hparse : Template.parse "%d" = .ok ⟨"%d",
      [.directive ⟨.next, false, none, false, none, none, .decimal⟩]⟩ := by decide +kernel
  have hpercent : Template.parse "%" = .error (.unexpectedPlaceholder 0) := by decide +kernel
  -- Each fetch of the text that is a template succeeds.
  have hheld : ∀ place : Nat, sampleUses[place]? = some (.fetch "%d") →
      ∃ kept, (run sampleUses).answers[place]? = some (.fetched (.ok kept)) := by
    intro place huse
    obtain ⟨result, hanswer, hresult⟩ := hfetched place "%d" huse
    rw [hparse] at hresult
    cases result with
    | error error => cases hresult
    | ok kept => exact ⟨kept, hanswer⟩
  obtain ⟨before, hbefore⟩ := hheld 0 rfl
  obtain ⟨behind, hbehind⟩ := hheld 2 rfl
  obtain ⟨again, hagain⟩ := hheld 5 rfl
  refine ⟨?_, ?_, by decide +kernel, (hrefused "%" _ [] hpercent).1, before, behind, again, hbefore,
    hbehind, hagain, ?_, ?_⟩
  · rw [hformatted 3 "%s%s" [.null] rfl]
    have hanew : Template.formatAnew "%s%s" [.null] = .error (.render (.missingArgument 2)) := by
      decide +kernel
    rw [hanew]
  · rw [hrendered 6 0 "%d" _ [.number .one] rfl (by decide) rfl hparse]
    have hone : Template.render ⟨"%d",
        [.directive ⟨.next, false, none, false, none, none, .decimal⟩]⟩ [.number .one] =
          .ok "1" := by decide +kernel
    rw [hone]
  · rw [Ne, hstamps 0 2 "%d" before behind (by decide) rfl rfl hbefore hbehind, not_not]
    exact ⟨1, by decide, by decide, rfl⟩
  · rw [hstamps 2 5 "%d" behind again (by decide) rfl rfl hbehind hagain]
    rintro ⟨between, hfirst, hsecond, hclear⟩
    obtain rfl | rfl : between = 3 ∨ between = 4 := by omega
    · cases hclear
    · cases hclear

end CacheHistory

end Numbering
