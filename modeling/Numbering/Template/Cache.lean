import Numbering.Log
import Numbering.Template.Parsing
import Numbering.Template.Rendering

/-!
# Remembered templates

A cache keeps every template that was read successfully until it is cleared. Each kept template
has a stamp, which is new whenever the template was read anew, so that two templates from a cache
are the same kept object exactly when their stamps agree. Main fact: apart from the stamp, the
cache cannot be seen in the result of a fetch (`TemplateCache.fetch_result`), as long as it holds
only what was read from its source (`TemplateCache.Faithful`), which every operation keeps.
-/

namespace Numbering

/-- A template as kept by a cache. -/
structure KeptTemplate where
  stamp : Nat
  template : Template
deriving DecidableEq

/-- The templates kept so far, and the stamp of the next one. -/
structure TemplateCache where
  entries : List KeptTemplate
  nextStamp : Nat
deriving DecidableEq

/-- Why a text cannot be read and rendered. -/
inductive FormatError where
  | template (error : TemplateError)
  | render (error : RenderError)
deriving DecidableEq

/-- The message of an error. -/
def FormatError.message : FormatError → String
  | .template error => error.message
  | .render error => error.message

/-- The result of an operation on a cache, the cache afterwards, and what was logged. -/
structure CacheStep (α : Type) where
  result : α
  cache : TemplateCache
  log : List LogRecord

namespace TemplateCache

/-- A cache that keeps nothing. -/
def empty : TemplateCache := ⟨[], 0⟩

/-- The number of templates kept. -/
def size (cache : TemplateCache) : Nat := cache.entries.length

/-- The kept template with a given source. -/
def find? (cache : TemplateCache) (source : String) : Option KeptTemplate :=
  cache.entries.find? fun kept ↦ kept.template.source = source

/-- Forget every template. Stamps are not used again. -/
def clear (cache : TemplateCache) : TemplateCache := { cache with entries := [] }

/-- Keep a template under a new stamp. -/
def keep (cache : TemplateCache) (template : Template) : KeptTemplate × TemplateCache :=
  let kept := ⟨cache.nextStamp, template⟩
  (kept, ⟨kept :: cache.entries, cache.nextStamp + 1⟩)

/-- The template with a given source: the kept one, or one that is read now and then kept. A text
that is no template is not kept. -/
def fetch (cache : TemplateCache) (source : String) :
    CacheStep (Except TemplateError KeptTemplate) :=
  match cache.find? source with
  | some kept => ⟨.ok kept, cache, [⟨.debug, "template cache hit: " ++ Text.quoted source⟩]⟩
  | none =>
      let log := [⟨.debug, "template cache miss: " ++ Text.quoted source⟩]
      match Template.parse source with
      | .ok template =>
          let (kept, cache) := cache.keep template
          ⟨.ok kept, cache, log⟩
      | .error error => ⟨.error error, cache, log⟩

/-- Fetch a template and render it. -/
def format [Json.Writer] (cache : TemplateCache) (source : String) (arguments : List Value) :
    CacheStep (Except FormatError String) :=
  let step := cache.fetch source
  match step.result with
  | .ok kept => ⟨(kept.template.render arguments).mapError .render, step.cache, step.log⟩
  | .error error => ⟨.error (.template error), step.cache, step.log⟩

/-- Every kept template is what reading its source gives. -/
def Faithful (cache : TemplateCache) : Prop :=
  ∀ kept ∈ cache.entries, Template.parse kept.template.source = .ok kept.template

/-- Nothing kept is faithfully kept. -/
theorem faithful_empty : empty.Faithful := by simp [Faithful, empty]

/-- Reading a template keeps its source. -/
theorem source_of_parse {source : String} {template : Template}
    (hparse : Template.parse source = .ok template) : template.source = source := by
  unfold Template.parse at hparse
  cases hsegments : Template.parseSegments (Text.byteLength source.toList) none source.toList with
  | error error => simp [hsegments, Except.map] at hparse
  | ok segments =>
      simp only [hsegments, Except.map, Except.ok.injEq] at hparse
      rw [← hparse]

/-- Fetching keeps a cache faithful. -/
theorem Faithful.fetch {cache : TemplateCache} (hcache : cache.Faithful) (source : String) :
    (cache.fetch source).cache.Faithful := by
  unfold TemplateCache.fetch
  split
  · exact hcache
  · dsimp only
    split
    · rename_i template hparse
      intro kept hkept
      rcases List.mem_cons.1 hkept with rfl | hold
      · rw [source_of_parse hparse, hparse]
      · exact hcache kept hold
    · exact hcache

/-- A fetch gives the template that reading the source gives, or the same error. -/
theorem fetch_result {cache : TemplateCache} (hcache : cache.Faithful) (source : String) :
    (cache.fetch source).result.map KeptTemplate.template = Template.parse source := by
  unfold TemplateCache.fetch
  split
  · rename_i kept hfind
    have hsource := List.find?_some hfind
    have hmem := List.mem_of_find?_eq_some hfind
    simp only [decide_eq_true_eq] at hsource
    simp only [Except.map]
    rw [← hcache kept hmem, hsource]
  · dsimp only
    split
    · rename_i hparse
      simp [Except.map, keep, hparse]
    · rename_i hparse
      simp [Except.map, hparse]

end TemplateCache

end Numbering
