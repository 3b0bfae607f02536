import Mathlib.Data.List.Nodup
import Numbering.Template.Cache

/-!
# Caches in use

The caches that a program can come to hold are those that the operations lead to from the empty
one. All of them are faithful, so that a fetch gives what reading the source gives. They are also
orderly: no text is kept twice, and every stamp in use is below the next one. What was fetched stays
until the cache is cleared, and its stamp is never given out again (`Tracked`), so that the stamps
of two fetches of one text tell whether the cache was cleared in between (`stamp_eq_iff_of_fetch`).
-/

namespace Numbering

namespace TemplateCache

/-- The caches that the operations lead to. -/
inductive Reachable [Json.Writer] : TemplateCache → Prop where
  | empty : Reachable .empty
  | fetch {cache : TemplateCache} (hcache : Reachable cache) (source : String) :
      Reachable (cache.fetch source).cache
  | format {cache : TemplateCache} (hcache : Reachable cache) (source : String)
      (arguments : List Value) : Reachable (cache.format source arguments).cache
  | clear {cache : TemplateCache} (hcache : Reachable cache) : Reachable cache.clear

/-- Rendering a text leaves the cache that fetching it leaves. -/
theorem format_cache [Json.Writer] (cache : TemplateCache) (source : String)
    (arguments : List Value) :
    (cache.format source arguments).cache = (cache.fetch source).cache := by
  unfold TemplateCache.format
  dsimp only
  split <;> rfl

/-- What is kept after clearing, nothing, is faithfully kept. -/
theorem faithful_clear (cache : TemplateCache) : cache.clear.Faithful := by
  intro kept hkept
  cases hkept

/-- Every cache in use is faithful. -/
theorem Reachable.faithful [Json.Writer] {cache : TemplateCache} (hcache : cache.Reachable) :
    cache.Faithful := by
  induction hcache with
  | empty => exact faithful_empty
  | fetch hcache source ih => exact ih.fetch source
  | @format cache hcache source arguments ih =>
      rw [format_cache]
      exact ih.fetch source
  | @clear cache hcache ih => exact faithful_clear cache

/-! ## One fetch -/

/-- All that a fetch can do: find what is kept, read the text and keep it under the next stamp, or
refuse it and leave everything as it is. -/
theorem fetch_cases (cache : TemplateCache) (source : String) :
    (∃ kept ∈ cache.entries, kept.template.source = source ∧
      (cache.fetch source).result = .ok kept ∧ (cache.fetch source).cache = cache) ∨
    (∃ template, (∀ kept ∈ cache.entries, kept.template.source ≠ source) ∧
      Template.parse source = .ok template ∧
      (cache.fetch source).result = .ok ⟨cache.nextStamp, template⟩ ∧
      (cache.fetch source).cache =
        ⟨⟨cache.nextStamp, template⟩ :: cache.entries, cache.nextStamp + 1⟩) ∨
    ∃ error, (∀ kept ∈ cache.entries, kept.template.source ≠ source) ∧
      Template.parse source = .error error ∧
      (cache.fetch source).result = .error error ∧ (cache.fetch source).cache = cache := by
  unfold TemplateCache.fetch
  cases hfind : cache.find? source with
  | some kept =>
      have hsource := List.find?_some hfind
      exact .inl ⟨kept, List.mem_of_find?_eq_some hfind, of_decide_eq_true hsource, rfl, rfl⟩
  | none =>
      have hnew : ∀ kept ∈ cache.entries, kept.template.source ≠ source := by
        intro kept hkept hsource
        exact List.find?_eq_none.1 hfind kept hkept (decide_eq_true hsource)
      cases hparse : Template.parse source with
      | ok template => exact .inr (.inl ⟨template, hnew, rfl, rfl, rfl⟩)
      | error error => exact .inr (.inr ⟨error, hnew, rfl, rfl, rfl⟩)

/-- A text that is no template leaves the cache as it is. -/
theorem fetch_cache_of_parse_error {cache : TemplateCache} (hcache : cache.Faithful)
    {source : String} {error : TemplateError} (hparse : Template.parse source = .error error) :
    (cache.fetch source).cache = cache := by
  obtain ⟨kept, hkept, rfl, -⟩ | ⟨template, -, hread, -⟩ | ⟨-, -, -, -, hsame⟩ :=
    cache.fetch_cases source
  · rw [hcache kept hkept] at hparse
    cases hparse
  · rw [hread] at hparse
    cases hparse
  · exact hsame

/-! ## Orderly caches -/

/-- The texts of the kept templates. -/
def sources (cache : TemplateCache) : List String :=
  cache.entries.map fun kept ↦ kept.template.source

/-- There are as many kept texts as kept templates. -/
theorem length_sources (cache : TemplateCache) : cache.sources.length = cache.size :=
  List.length_map _

/-- What is kept was read from its text, no text is kept twice, and every stamp is below the next
one. -/
structure Orderly (cache : TemplateCache) : Prop where
  faithful : cache.Faithful
  nodup : cache.sources.Nodup
  stamp_lt : ∀ kept ∈ cache.entries, kept.stamp < cache.nextStamp

/-- A cache that keeps nothing is orderly. -/
theorem orderly_empty : empty.Orderly := by
  refine ⟨faithful_empty, List.nodup_nil, ?_⟩
  intro kept hkept
  cases hkept

/-- Clearing a cache leaves an orderly one. -/
theorem orderly_clear (cache : TemplateCache) : cache.clear.Orderly := by
  refine ⟨faithful_clear cache, List.nodup_nil, ?_⟩
  intro kept hkept
  cases hkept

/-- Fetching keeps a cache orderly. -/
theorem Orderly.fetch {cache : TemplateCache} (hcache : cache.Orderly) (source : String) :
    (cache.fetch source).cache.Orderly := by
  refine ⟨hcache.faithful.fetch source, ?_, ?_⟩
  all_goals
    obtain ⟨-, -, -, -, hsame⟩ | ⟨template, hnew, hparse, -, hadded⟩ | ⟨-, -, -, -, hsame⟩ :=
      cache.fetch_cases source
  · rw [hsame]
    exact hcache.nodup
  · rw [hadded]
    refine List.nodup_cons.2 ⟨?_, hcache.nodup⟩
    intro hmem
    obtain ⟨kept, hkept, hsource⟩ := List.mem_map.1 hmem
    exact hnew kept hkept (hsource.trans (source_of_parse hparse))
  · rw [hsame]
    exact hcache.nodup
  · rw [hsame]
    exact hcache.stamp_lt
  · rw [hadded]
    intro kept hkept
    rcases List.mem_cons.1 hkept with rfl | hold
    · exact Nat.lt_succ_self _
    · exact Nat.lt_succ_of_lt (hcache.stamp_lt kept hold)
  · rw [hsame]
    exact hcache.stamp_lt

/-- Only one kept template has a given text. -/
theorem Orderly.eq_of_source_eq {cache : TemplateCache} (hcache : cache.Orderly)
    {first second : KeptTemplate} (hfirst : first ∈ cache.entries)
    (hsecond : second ∈ cache.entries)
    (hsource : first.template.source = second.template.source) : first = second :=
  List.inj_on_of_nodup_map hcache.nodup hfirst hsecond hsource

/-- The texts that are kept after a fetch. -/
theorem mem_sources_fetch (cache : TemplateCache) (source other : String) :
    other ∈ (cache.fetch source).cache.sources ↔ other ∈ cache.sources ∨
      (source = other ∧ ∃ template, Template.parse other = .ok template) := by
  obtain ⟨kept, hkept, rfl, -, hsame⟩ | ⟨template, hnew, hparse, -, hadded⟩ |
    ⟨error, -, hparse, -, hsame⟩ := cache.fetch_cases source
  · rw [hsame]
    refine ⟨.inl, ?_⟩
    rintro (hold | ⟨rfl, -⟩)
    · exact hold
    · exact List.mem_map_of_mem hkept
  · rw [hadded, sources, List.map_cons, List.mem_cons, source_of_parse hparse]
    constructor
    · rintro (rfl | hold)
      · exact .inr ⟨rfl, template, hparse⟩
      · exact .inl hold
    · rintro (hold | ⟨rfl, -⟩)
      · exact .inr hold
      · exact .inl rfl
  · rw [hsame]
    refine ⟨.inl, ?_⟩
    rintro (hold | ⟨rfl, template, hread⟩)
    · exact hold
    · rw [hparse] at hread
      cases hread

/-! ## What was fetched before -/

/-- A template that was fetched before, in a cache that was or was not cleared since. -/
structure Tracked (cache : TemplateCache) (kept : KeptTemplate) (cleared : Prop) : Prop where
  stamp_lt : kept.stamp < cache.nextStamp
  mem : ¬ cleared → kept ∈ cache.entries
  apart : cleared → ∀ entry ∈ cache.entries, entry.stamp ≠ kept.stamp

/-- What is fetched is in the cache afterwards. -/
theorem tracked_of_fetch {cache : TemplateCache} (hcache : cache.Orderly) {source : String}
    {kept : KeptTemplate} (hresult : (cache.fetch source).result = .ok kept) :
    (cache.fetch source).cache.Tracked kept False := by
  have hmem : kept ∈ (cache.fetch source).cache.entries := by
    obtain ⟨other, hother, -, hfound, hsame⟩ | ⟨template, -, -, hread, hadded⟩ |
      ⟨error, -, -, hrefused, -⟩ := cache.fetch_cases source
    · rw [hresult] at hfound
      cases hfound
      rw [hsame]
      exact hother
    · rw [hresult] at hread
      cases hread
      rw [hadded]
      exact List.mem_cons_self
    · rw [hresult] at hrefused
      cases hrefused
  exact ⟨(hcache.fetch source).stamp_lt kept hmem, fun _ ↦ hmem, False.elim⟩

/-- A fetch takes nothing away and gives out no stamp again. -/
theorem Tracked.fetch {cache : TemplateCache} {kept : KeptTemplate} {cleared : Prop}
    (hkept : cache.Tracked kept cleared) (source : String) :
    (cache.fetch source).cache.Tracked kept cleared := by
  obtain ⟨-, -, -, -, hsame⟩ | ⟨template, -, -, -, hadded⟩ | ⟨-, -, -, -, hsame⟩ :=
    cache.fetch_cases source
  · rwa [hsame]
  · rw [hadded]
    refine ⟨Nat.lt_succ_of_lt hkept.stamp_lt, ?_, ?_⟩
    · intro hcleared
      exact List.mem_cons_of_mem _ (hkept.mem hcleared)
    · intro hcleared entry hentry
      rcases List.mem_cons.1 hentry with rfl | hold
      · exact Nat.ne_of_gt hkept.stamp_lt
      · exact hkept.apart hcleared entry hold
  · rwa [hsame]

/-- After clearing, what was fetched before is gone. -/
theorem Tracked.clear {cache : TemplateCache} {kept : KeptTemplate} {cleared : Prop}
    (hkept : cache.Tracked kept cleared) : cache.clear.Tracked kept True := by
  refine ⟨hkept.stamp_lt, fun hnot ↦ absurd trivial hnot, ?_⟩
  intro _ entry hentry
  cases hentry

/-- A text that is fetched again comes under the same stamp exactly when the cache was not cleared
since. -/
theorem stamp_eq_iff_of_fetch {cache : TemplateCache} (hcache : cache.Orderly)
    {first second : KeptTemplate} {cleared : Prop} (hfirst : cache.Tracked first cleared)
    (hsecond : (cache.fetch first.template.source).result = .ok second) :
    first.stamp = second.stamp ↔ ¬ cleared := by
  obtain ⟨kept, hkept, hsource, hfound, -⟩ | ⟨template, hnew, -, hread, -⟩ |
    ⟨error, -, -, hrefused, -⟩ := cache.fetch_cases first.template.source
  · rw [hsecond] at hfound
    cases hfound
    constructor
    · intro hstamp hcleared
      exact hfirst.apart hcleared _ hkept hstamp.symm
    · intro hcleared
      rw [hcache.eq_of_source_eq hkept (hfirst.mem hcleared) hsource]
  · rw [hsecond] at hread
    cases hread
    constructor
    · intro hstamp
      exact absurd hstamp (Nat.ne_of_lt hfirst.stamp_lt)
    · intro hcleared
      exact absurd rfl (hnew first (hfirst.mem hcleared))
  · rw [hsecond] at hrefused
    cases hrefused

end TemplateCache

end Numbering
