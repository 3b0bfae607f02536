import Numbering.Proofs.Json.Documents
import Numbering.Proofs.Json.NumberValues

/-!
# The JSON text of a value read back

What a document keeps of a value is what its JSON text is read as, whatever the indentation
(`Value.readWith_json`). The keys of each object have to be distinct, containers may not be nested
deeper than the reader follows, the library has to write numbers that read back, and the conversion
has to give the nearest numbers for the tokens that are written. `Json.read` itself converts the
integers below `2 ^ 53` in this way (`Value.read_json`).
-/

namespace Numbering.Value

open Json Text

variable {convert : NumberToken → Except ReadError Binary64}

section Parts

variable [Json.Writer]

/-- Reading the text of a part gives the part: a finite number is spelled by its text and comes from
its token, and no key of an object stands for another one. -/
def IsReadable (convert : NumberToken → Except ReadError Binary64) : Value → Prop
  | .number amount =>
      (amount.isFinite = true → ∃ text, Json.number amount = .ok text ∧ Spells text amount) ∧
        ConvertsNearest convert amount
  | .object entries => (entries.map Prod.fst).Nodup
  | _ => True

/-! ## The texts of the parts -/

/-- A number that is readable has a text, which is read as what a document keeps of it. -/
theorem exists_readsAs_number (limit : Nat) {amount : Binary64}
    (hreadable : IsReadable convert (.number amount)) :
    ∃ text, Json.number amount = .ok text ∧
      ReadsAs convert limit text (norm (.number amount)) := by
  obtain ⟨hspelled, hconvert⟩ := hreadable
  cases hfinite : amount.isFinite with
  | true =>
      obtain ⟨text, htext, hspells⟩ := hspelled hfinite
      refine ⟨text, htext, ?_⟩
      rw [norm, if_pos hfinite]
      exact readsAs_number limit hspells fun token ↦ hconvert text token htext
  | false =>
      refine ⟨_, number_of_isFinite_eq_false hfinite, ?_⟩
      rw [norm, hfinite]
      exact readsAs_null limit

omit [Json.Writer] in
/-- The text of an entry is a key, a colon with or without a blank, and the text of a value. -/
theorem entryReadsAs_colon {limit : Nat} {value : Value} {text : String}
    (hreads : ReadsAs convert limit text.toList value) (key : String) (indent : Nat) :
    EntryReadsAs convert limit (Json.string key ++ Json.colon indent ++ text).toList
      (key, value) := by
  have hquoted : (Json.string key).toList = '"' :: (key.toList.flatMap stringChar ++ ['"']) := by
    rw [Json.string, String.toList_ofList, List.cons_append]
  unfold Json.colon
  split
  · refine ⟨[], text.toList, by simp, ?_, hreads⟩
    have hcolon : ":".toList = [':'] := rfl
    simp [hquoted, hcolon]
  · refine ⟨[' '], text.toList, by simp [isSpace], ?_, hreads⟩
    have hcolon : ": ".toList = [':', ' '] := rfl
    simp [hquoted, hcolon]

mutual

/-- A value with readable parts has a text, which is read as what a document keeps of it. -/
theorem exists_readsAs_jsonAt (indent depth : Nat) {limit : Nat} {value : Value}
    (hnesting : value.nesting ≤ limit)
    (hparts : ∀ part ∈ value.parts, IsReadable convert part) :
    ∃ text, value.jsonAt indent depth = .ok text ∧
      ReadsAs convert limit text.toList value.norm := by
  cases value with
  | null => exact ⟨_, rfl, readsAs_null limit⟩
  | bool truth => exact ⟨_, rfl, readsAs_bool limit truth⟩
  | number amount =>
      obtain ⟨text, htext, hreads⟩ :=
        exists_readsAs_number limit (hparts _ (List.mem_singleton_self _))
      refine ⟨String.ofList text, by rw [jsonAt, htext]; rfl, ?_⟩
      rwa [String.toList_ofList]
  | string text => exact ⟨_, rfl, readsAs_string limit text⟩
  | array items =>
      obtain ⟨limit, rfl⟩ := Nat.exists_eq_add_of_le' (Nat.le_of_add_left_le hnesting)
      obtain ⟨texts, htexts, hreads⟩ := exists_readsAs_jsonItems indent (depth + 1)
        (Nat.le_of_succ_le_succ hnesting) (List.forall_mem_cons.1 hparts).2
      exact ⟨_, by rw [jsonAt, htexts]; rfl, readsAs_array hreads indent depth⟩
  | object entries =>
      obtain ⟨limit, rfl⟩ := Nat.exists_eq_add_of_le' (Nat.le_of_add_left_le hnesting)
      obtain ⟨hkeys, hentries⟩ := List.forall_mem_cons.1 hparts
      obtain ⟨texts, htexts, hreads⟩ := exists_readsAs_jsonEntries indent (depth + 1)
        (Nat.le_of_succ_le_succ hnesting) hentries
      exact ⟨_, by rw [jsonAt, htexts]; rfl, readsAs_object hreads
        (hkeys.sublist (map_fst_normEntries_sublist entries)) indent depth⟩
  | delayed _ _ => exact ⟨_, rfl, readsAs_null limit⟩

/-- Items with readable parts have texts, which are read as what a document keeps of them. -/
theorem exists_readsAs_jsonItems (indent depth : Nat) {limit : Nat} {items : List Value}
    (hnesting : nestingOfItems items ≤ limit)
    (hparts : ∀ part ∈ partsOfItems items, IsReadable convert part) :
    ∃ texts, jsonItems indent depth items = .ok texts ∧
      List.Forall₂ (ReadsAs convert limit) (texts.map String.toList) (normItems items) := by
  cases items with
  | nil => exact ⟨[], rfl, .nil⟩
  | cons item items =>
      obtain ⟨hitem, hitems⟩ := List.forall_mem_append.1 hparts
      obtain ⟨hfirst, hrest⟩ := Nat.max_le.1 hnesting
      obtain ⟨text, htext, hreads⟩ := exists_readsAs_jsonAt indent depth hfirst hitem
      obtain ⟨texts, htexts, hothers⟩ := exists_readsAs_jsonItems indent depth hrest hitems
      exact ⟨text :: texts, by rw [jsonItems, htext, htexts]; rfl, .cons hreads hothers⟩

/-- Entries with readable parts have texts, apart from the delayed ones, which are read as what a
document keeps of them. -/
theorem exists_readsAs_jsonEntries (indent depth : Nat) {limit : Nat}
    {entries : List (String × Value)} (hnesting : nestingOfEntries entries ≤ limit)
    (hparts : ∀ part ∈ partsOfEntries entries, IsReadable convert part) :
    ∃ texts, jsonEntries indent depth entries = .ok texts ∧
      List.Forall₂ (EntryReadsAs convert limit) (texts.map String.toList)
        (normEntries entries) := by
  cases entries with
  | nil => exact ⟨[], rfl, .nil⟩
  | cons entry entries =>
      obtain ⟨key, value⟩ := entry
      obtain ⟨hvalue, hentries⟩ := List.forall_mem_append.1 hparts
      obtain ⟨hfirst, hrest⟩ := Nat.max_le.1 hnesting
      obtain ⟨texts, htexts, hothers⟩ := exists_readsAs_jsonEntries indent depth hrest hentries
      rw [jsonEntries, normEntries]
      split
      · exact ⟨texts, htexts, hothers⟩
      · obtain ⟨text, htext, hreads⟩ := exists_readsAs_jsonAt indent depth hfirst hvalue
        rw [htext, htexts]
        exact ⟨_, rfl, .cons (entryReadsAs_colon hreads key indent) hothers⟩

end

/-! ## The whole text -/

/-- A value with readable parts has a JSON text and is read back from it, up to what a document
keeps. -/
theorem exists_readWith_json {value : Value} (hnesting : value.nesting ≤ nestingLimit)
    (hparts : ∀ part ∈ value.parts, IsReadable convert part) (indent : Nat) :
    ∃ text found, value.json indent = .ok text ∧ readWith convert text = .ok found ∧
      found.same value.norm = true := by
  obtain ⟨text, htext, hreads⟩ := exists_readsAs_jsonAt (min indent 10) 0 hnesting hparts
  obtain ⟨found, hread, hsame⟩ := hreads (2 * text.toList.length + 2) [] (Nat.le_add_right _ _)
    (stopsRun_nil extendsNumber)
  rw [List.append_nil] at hread
  refine ⟨text, found, htext, ?_, hsame⟩
  rw [readWith, hread]
  rfl

/-- With a library that writes numbers that read back, a value has a JSON text, with any
indentation, and reading it gives what a document keeps of the value. -/
theorem readWith_json (hwriter : Json.Writer.ReadsBack)
    (convert : NumberToken → Except ReadError Binary64) (value : Value) (indent : Nat)
    (hnesting : value.nesting ≤ nestingLimit)
    (hkeys : ∀ entries, .object entries ∈ value.parts → (entries.map Prod.fst).Nodup)
    (hnumbers : ∀ amount, .number amount ∈ value.parts → ConvertsNearest convert amount) :
    ∃ text found, value.json indent = .ok text ∧ readWith convert text = .ok found ∧
      found.same value.norm = true := by
  refine exists_readWith_json hnesting (fun part hpart ↦ ?_) indent
  cases part with
  | number amount => exact ⟨hwriter.exists_spells, hnumbers amount hpart⟩
  | object entries => exact hkeys entries hpart
  | _ => trivial

end Parts

/-- Values of every kind, in containers with entries that are out of order, delayed or missing. -/
def assorted : Value :=
  .object [("size", .array [.number (.signedZero true), .number (.ofDecimal false 1 (-1)),
      .number (.ofDecimal true 12345678901234567890 0), .number (.infinity true), .number .nan,
      .delayed 1 .null]),
    ("later", .delayed 2 (.bool true)),
    ("name", .string "a\"b\\c\n\x01é"),
    ("", .object [("on", .bool true), ("off", .bool false)]),
    ("none", .array [.null, .array [], .object [], .object [("later", .delayed 3 .null)]])]

/-- What reading a part back takes besides the library, decided: the token of a number is converted
to the nearest number, and every key of an object stands for one entry. -/
def convertsPart [Json.Writer] (convert : NumberToken → Except ReadError Binary64) : Value → Bool
  | .number amount => decide (ConvertsNearest convert amount)
  | .object entries => decide (entries.map Prod.fst).Nodup
  | _ => true

/-- A value with parts of every kind is written on several lines, and what a document keeps of it is
read back. -/
theorem readWith_json_assorted :
    letI := Json.Writer.shortest
    Json.Writer.ReadsBack ∧ assorted.nesting ≤ nestingLimit ∧
      ∃ text found, assorted.json 2 = .ok text ∧ readWith NumberToken.value text = .ok found ∧
        found.same assorted.norm = true := by
  let := Json.Writer.shortest
  have hnesting : assorted.nesting ≤ nestingLimit := by decide +kernel
  have hparts : ∀ part ∈ assorted.parts, convertsPart NumberToken.value part = true := by
    decide +kernel
  exact ⟨Json.Writer.readsBack_shortest, hnesting,
    readWith_json Json.Writer.readsBack_shortest NumberToken.value assorted 2 hnesting
      (fun entries hmem ↦ of_decide_eq_true (hparts (.object entries) hmem))
      (fun amount hmem ↦ of_decide_eq_true (hparts (.number amount) hmem))⟩

/-- The reader gives back the values whose finite numbers are integers below `2 ^ 53`, whatever
library is there to write the others. -/
theorem read_json [Json.Writer] (value : Value) (indent : Nat)
    (hnesting : value.nesting ≤ nestingLimit)
    (hkeys : ∀ entries, .object entries ∈ value.parts → (entries.map Prod.fst).Nodup)
    (hnumbers : ∀ amount, .number amount ∈ value.parts → amount.isFinite = true →
      isSmallInteger amount = true) :
    ∃ text found, value.json indent = .ok text ∧ Json.read text = .ok found ∧
      found.same value.norm = true := by
  refine exists_readWith_json hnesting (fun part hpart ↦ ?_) indent
  cases part with
  | number amount =>
      refine ⟨fun hfinite ↦ ?_, ?_⟩
      · have hsmall := hnumbers amount hpart hfinite
        exact ⟨_, number_of_isSmallInteger hsmall, spells_integer hsmall⟩
      · cases hfinite : amount.isFinite with
        | true => exact convertsNearest_of_isSmallInteger (hnumbers amount hpart hfinite)
        | false =>
            intro text token htext hscan
            obtain rfl := Except.ok.inj ((number_of_isFinite_eq_false hfinite).symm.trans htext)
            cases hscan
  | object entries => exact hkeys entries hpart
  | _ => trivial

end Numbering.Value
