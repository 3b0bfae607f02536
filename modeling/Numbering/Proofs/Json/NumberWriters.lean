import Numbering.Proofs.Json.Documents
import Numbering.Proofs.Numeral.Points
import Numbering.Proofs.Value.Normal

/-!
# The numbers in a JSON text

`Value.jsonWith` is the JSON text of a value with every number written by a given writer. The
library makes such a text when it writes all numbers in the value (`Value.jsonAt_eq_jsonWith`), and
no text otherwise (`Value.exists_number_of_jsonAt`). Two writers give a value the same text exactly
when they give every number in it the same text (`Value.jsonWith_eq_iff`): the texts of numbers do
not contain what stands behind them, so that two texts of a value that are the same as a whole are
the same part by part.
-/

namespace Numbering

namespace Value

mutual

/-- The JSON text of a value with the numbers written in a given way. -/
def jsonWith (write : Binary64 → List Char) (indent depth : Nat) : Value → String
  | .null => "null"
  | .bool truth => if truth then "true" else "false"
  | .number amount => String.ofList (write amount)
  | .string text => Json.string text
  | .array items =>
      Json.container "[" "]" indent depth (jsonItemsWith write indent (depth + 1) items)
  | .object entries =>
      Json.container "\x7b" "\x7d" indent depth (jsonEntriesWith write indent (depth + 1) entries)
  | .delayed _ _ => "null"

/-- The texts of the items of an array. -/
def jsonItemsWith (write : Binary64 → List Char) (indent depth : Nat) : List Value → List String
  | [] => []
  | item :: items =>
      jsonWith write indent depth item :: jsonItemsWith write indent depth items

/-- The texts of the entries of an object that are not delayed. -/
def jsonEntriesWith (write : Binary64 → List Char) (indent depth : Nat) :
    List (String × Value) → List String
  | [] => []
  | (key, value) :: entries =>
      if value.isDelayed then jsonEntriesWith write indent depth entries
      else
        (Json.string key ++ Json.colon indent ++ jsonWith write indent depth value) ::
          jsonEntriesWith write indent depth entries

end

section Library

variable [Json.Writer] {write : Binary64 → List Char}

mutual

/-- When the library writes all numbers in a value, the value has the text with these numbers. -/
theorem jsonAt_eq_jsonWith (indent depth : Nat) {value : Value}
    (hwritten : ∀ amount, .number amount ∈ value.parts → Json.number amount = .ok (write amount)) :
    value.jsonAt indent depth = .ok (value.jsonWith write indent depth) := by
  cases value with
  | null => rfl
  | bool truth => rfl
  | number amount =>
      rw [jsonAt, hwritten amount List.mem_cons_self]
      rfl
  | string text => rfl
  | array items =>
      rw [jsonAt, jsonItems_eq_jsonItemsWith indent (depth + 1) fun amount hamount ↦
        hwritten amount (List.mem_cons_of_mem _ hamount)]
      rfl
  | object entries =>
      rw [jsonAt, jsonEntries_eq_jsonEntriesWith indent (depth + 1) fun amount hamount ↦
        hwritten amount (List.mem_cons_of_mem _ hamount)]
      rfl
  | delayed identity result => rfl

/-- When the library writes all numbers in some items, the items have texts with these numbers. -/
theorem jsonItems_eq_jsonItemsWith (indent depth : Nat) {items : List Value}
    (hwritten : ∀ amount, .number amount ∈ partsOfItems items →
      Json.number amount = .ok (write amount)) :
    jsonItems indent depth items = .ok (jsonItemsWith write indent depth items) := by
  cases items with
  | nil => rfl
  | cons item items =>
      rw [jsonItems,
        jsonAt_eq_jsonWith indent depth fun amount hamount ↦
          hwritten amount (List.mem_append_left _ hamount),
        jsonItems_eq_jsonItemsWith indent depth fun amount hamount ↦
          hwritten amount (List.mem_append_right _ hamount)]
      rfl

/-- When the library writes all numbers in some entries, the entries have texts with these
numbers. -/
theorem jsonEntries_eq_jsonEntriesWith (indent depth : Nat) {entries : List (String × Value)}
    (hwritten : ∀ amount, .number amount ∈ partsOfEntries entries →
      Json.number amount = .ok (write amount)) :
    jsonEntries indent depth entries = .ok (jsonEntriesWith write indent depth entries) := by
  cases entries with
  | nil => rfl
  | cons entry entries =>
      obtain ⟨key, value⟩ := entry
      rw [jsonEntries, jsonEntriesWith,
        jsonAt_eq_jsonWith indent depth fun amount hamount ↦
          hwritten amount (List.mem_append_left _ hamount),
        jsonEntries_eq_jsonEntriesWith indent depth fun amount hamount ↦
          hwritten amount (List.mem_append_right _ hamount)]
      split <;> rfl

end

mutual

/-- A value has a text only if the library writes all numbers in it. -/
theorem exists_number_of_jsonAt {indent depth : Nat} {value : Value} {text : String}
    (htext : value.jsonAt indent depth = .ok text) {amount : Binary64}
    (hamount : .number amount ∈ value.parts) : ∃ written, Json.number amount = .ok written := by
  cases value with
  | number found =>
      cases List.mem_singleton.1 hamount
      cases hnumber : Json.number amount with
      | ok written => exact ⟨written, rfl⟩
      | error message =>
          rw [jsonAt, hnumber] at htext
          cases htext
  | array items =>
      cases hitems : jsonItems indent (depth + 1) items with
      | ok texts =>
          exact exists_number_of_jsonItems hitems
            ((List.mem_cons.1 hamount).resolve_left Value.noConfusion)
      | error message =>
          rw [jsonAt, hitems] at htext
          cases htext
  | object entries =>
      cases hentries : jsonEntries indent (depth + 1) entries with
      | ok texts =>
          exact exists_number_of_jsonEntries hentries
            ((List.mem_cons.1 hamount).resolve_left Value.noConfusion)
      | error message =>
          rw [jsonAt, hentries] at htext
          cases htext
  | null => cases List.mem_singleton.1 hamount
  | bool truth => cases List.mem_singleton.1 hamount
  | string text => cases List.mem_singleton.1 hamount
  | delayed identity result => cases List.mem_singleton.1 hamount

/-- Items have texts only if the library writes all numbers in them. -/
theorem exists_number_of_jsonItems {indent depth : Nat} {items : List Value} {texts : List String}
    (htexts : jsonItems indent depth items = .ok texts) {amount : Binary64}
    (hamount : .number amount ∈ partsOfItems items) :
    ∃ written, Json.number amount = .ok written := by
  cases items with
  | nil => cases hamount
  | cons item items =>
      rw [jsonItems] at htexts
      cases hitem : item.jsonAt indent depth with
      | error message =>
          rw [hitem] at htexts
          cases htexts
      | ok text =>
          cases hitems : jsonItems indent depth items with
          | error message =>
              rw [hitem, hitems] at htexts
              cases htexts
          | ok others =>
              rcases List.mem_append.1 hamount with hfirst | hrest
              · exact exists_number_of_jsonAt hitem hfirst
              · exact exists_number_of_jsonItems hitems hrest

/-- Entries have texts only if the library writes all numbers in them. -/
theorem exists_number_of_jsonEntries {indent depth : Nat} {entries : List (String × Value)}
    {texts : List String} (htexts : jsonEntries indent depth entries = .ok texts)
    {amount : Binary64} (hamount : .number amount ∈ partsOfEntries entries) :
    ∃ written, Json.number amount = .ok written := by
  cases entries with
  | nil => cases hamount
  | cons entry entries =>
      obtain ⟨key, value⟩ := entry
      rw [jsonEntries] at htexts
      split at htexts
      · rename_i hdelayed
        rcases List.mem_append.1 hamount with hvalue | hentries
        · cases value with
          | delayed identity result => cases List.mem_singleton.1 hvalue
          | _ => cases hdelayed
        · exact exists_number_of_jsonEntries htexts hentries
      · cases hvalue : value.jsonAt indent depth with
        | error message =>
            rw [hvalue] at htexts
            cases htexts
        | ok text =>
            cases hentries : jsonEntries indent depth entries with
            | error message =>
                rw [hvalue, hentries] at htexts
                cases htexts
            | ok others =>
                rcases List.mem_append.1 hamount with hfirst | hrest
                · exact exists_number_of_jsonAt hvalue hfirst
                · exact exists_number_of_jsonEntries hentries hrest

end

end Library

end Value

namespace Json

open Text Literal

/-! ## Texts in front of others -/

/-- The character does not stand behind the text of a value. -/
def isTokenChar (char : Char) : Bool :=
  !(isSpace char || char = ',' || char = ']' || char = '\x7d')

/-- In front of what may stand behind a value, the two texts are told apart. -/
def Separates (first second : List Char) : Prop :=
  ∀ rest other, StopsRun isTokenChar rest → StopsRun isTokenChar other →
    first ++ rest = second ++ other → first = second

/-- A text is not told apart from itself. -/
theorem separates_self (text : List Char) : Separates text text := fun _ _ _ _ _ ↦ rfl

/-- Texts without white space, commas and closing brackets are told apart by their ends. -/
theorem separates_of_isTokenChar {first second : List Char}
    (hfirst : ∀ char ∈ first, isTokenChar char = true)
    (hsecond : ∀ char ∈ second, isTokenChar char = true) : Separates first second :=
  fun _ _ hrest hother hsame ↦ (run_append_inj hfirst hsecond hrest hother hsame).1

/-- The same text in front does not matter. -/
theorem Separates.append {first second : List Char} (hseparates : Separates first second)
    (front : List Char) : Separates (front ++ first) (front ++ second) := by
  intro rest other hrest hother hsame
  rw [List.append_assoc, List.append_assoc, List.append_cancel_left_eq] at hsame
  rw [hseparates rest other hrest hother hsame]

section Entries

variable {space last : List Char} {closing : Char}
  (hlast : ∀ char ∈ last, isSpace char = true) (hclosing : isTokenChar closing = false)

include hlast hclosing

/-- The end of a container is no part of a token. -/
theorem stopsRun_closing (rest : List Char) : StopsRun isTokenChar (last ++ closing :: rest) := by
  cases last with
  | nil => exact stopsRun_cons.2 hclosing
  | cons first last =>
      refine stopsRun_cons.2 ?_
      rw [isTokenChar, hlast first List.mem_cons_self]
      rfl

/-- Texts between commas that are told apart one by one are told apart up to the closing bracket. -/
theorem eq_of_intercalate_eq {texts others : List (List Char)}
    (hseparates : List.Forall₂ Separates texts others) {rest other : List Char}
    (hsame : (',' :: space).intercalate texts ++ (last ++ closing :: rest) =
      (',' :: space).intercalate others ++ (last ++ closing :: other)) : texts = others := by
  have hcomma : ∀ rest, StopsRun isTokenChar (',' :: rest) := fun _ ↦ stopsRun_cons.2 rfl
  induction hseparates with
  | nil => rfl
  | @cons text second texts others htext htexts ih =>
      cases htexts with
      | nil =>
          rw [List.intercalate_singleton, List.intercalate_singleton] at hsame
          rw [htext _ _ (stopsRun_closing hlast hclosing rest)
            (stopsRun_closing hlast hclosing other) hsame]
      | cons hnext htexts =>
          rw [List.intercalate_cons_cons, List.intercalate_cons_cons] at hsame
          simp only [List.append_assoc, List.cons_append] at hsame ih
          have hfirst := htext _ _ (hcomma _) (hcomma _) hsame
          rw [hfirst, List.append_cancel_left_eq, List.cons.injEq, List.append_cancel_left_eq]
            at hsame
          rw [hfirst, ih hsame.2]

end Entries

/-- Containers are the same, also in front of others, only if their entries are. -/
theorem eq_of_container_eq {opening closing : String} {bracket : Char}
    (hbracket : closing.toList = [bracket]) (hclosing : isTokenChar bracket = false)
    (indent depth : Nat) {texts others : List String}
    (hseparates : List.Forall₂ Separates (texts.map String.toList) (others.map String.toList))
    {rest other : List Char}
    (hsame : (container opening closing indent depth texts).toList ++ rest =
      (container opening closing indent depth others).toList ++ other) : texts = others := by
  cases texts with
  | nil =>
      rw [List.map_nil, List.forall₂_nil_left_iff, List.map_eq_nil_iff] at hseparates
      exact hseparates.symm
  | cons text texts =>
      have hne : others ≠ [] := by
        rintro rfl
        cases hseparates
      rw [toList_container (List.cons_ne_nil _ _), toList_container hne, hbracket] at hsame
      simp only [List.append_assoc, List.append_cancel_left_eq, List.singleton_append] at hsame
      have hequal := eq_of_intercalate_eq (fun _ ↦ isSpace_of_mem_lineBreak) hclosing hseparates
        hsame
      exact List.map_injective_iff.2 (fun _ _ ↦ String.toList_injective) hequal

/-- Containers are told apart where the texts in them are. -/
theorem separates_container {opening closing : String} {bracket : Char}
    (hbracket : closing.toList = [bracket]) (hclosing : isTokenChar bracket = false)
    (indent depth : Nat) {texts others : List String}
    (hseparates : List.Forall₂ Separates (texts.map String.toList) (others.map String.toList)) :
    Separates (container opening closing indent depth texts).toList
      (container opening closing indent depth others).toList :=
  fun _ _ _ _ hsame ↦
    congrArg (fun texts ↦ (container opening closing indent depth texts).toList)
      (eq_of_container_eq hbracket hclosing indent depth hseparates hsame)

end Json

namespace Value

open Json

section Writers

/-- The texts of numbers do not contain what stands behind them. -/
def WritesTokens (write : Binary64 → List Char) : Prop :=
  ∀ amount, ∀ char ∈ write amount, isTokenChar char = true

variable {write other : Binary64 → List Char}

mutual

/-- Writers that agree on the numbers in a value give it the same text. -/
theorem jsonWith_congr (indent depth : Nat) {value : Value}
    (hsame : ∀ amount, .number amount ∈ value.parts → write amount = other amount) :
    value.jsonWith write indent depth = value.jsonWith other indent depth := by
  cases value with
  | null => rfl
  | bool truth => rfl
  | number amount => exact congrArg String.ofList (hsame amount List.mem_cons_self)
  | string text => rfl
  | array items =>
      rw [jsonWith, jsonWith, jsonItemsWith_congr indent (depth + 1) fun amount hamount ↦
        hsame amount (List.mem_cons_of_mem _ hamount)]
  | object entries =>
      rw [jsonWith, jsonWith, jsonEntriesWith_congr indent (depth + 1) fun amount hamount ↦
        hsame amount (List.mem_cons_of_mem _ hamount)]
  | delayed identity result => rfl

/-- Items are written in the same way by writers that agree on their numbers. -/
theorem jsonItemsWith_congr (indent depth : Nat) {items : List Value}
    (hsame : ∀ amount, .number amount ∈ partsOfItems items → write amount = other amount) :
    jsonItemsWith write indent depth items = jsonItemsWith other indent depth items := by
  cases items with
  | nil => rfl
  | cons item items =>
      rw [jsonItemsWith, jsonItemsWith,
        jsonWith_congr indent depth fun amount hamount ↦
          hsame amount (List.mem_append_left _ hamount),
        jsonItemsWith_congr indent depth fun amount hamount ↦
          hsame amount (List.mem_append_right _ hamount)]

/-- Entries are written in the same way by writers that agree on their numbers. -/
theorem jsonEntriesWith_congr (indent depth : Nat) {entries : List (String × Value)}
    (hsame : ∀ amount, .number amount ∈ partsOfEntries entries → write amount = other amount) :
    jsonEntriesWith write indent depth entries = jsonEntriesWith other indent depth entries := by
  cases entries with
  | nil => rfl
  | cons entry entries =>
      obtain ⟨key, value⟩ := entry
      rw [jsonEntriesWith, jsonEntriesWith,
        jsonWith_congr indent depth fun amount hamount ↦
          hsame amount (List.mem_append_left _ hamount),
        jsonEntriesWith_congr indent depth fun amount hamount ↦
          hsame amount (List.mem_append_right _ hamount)]

end

mutual

/-- Two texts of a value are told apart by their ends. -/
theorem separates_jsonWith (hwrite : WritesTokens write) (hother : WritesTokens other)
    (indent depth : Nat) (value : Value) :
    Separates (value.jsonWith write indent depth).toList
      (value.jsonWith other indent depth).toList := by
  cases value with
  | null => exact separates_self _
  | bool truth => exact separates_self _
  | number amount =>
      rw [jsonWith, jsonWith, String.toList_ofList, String.toList_ofList]
      exact separates_of_isTokenChar (hwrite amount) (hother amount)
  | string text => exact separates_self _
  | array items =>
      exact separates_container rfl rfl indent depth
        (separates_jsonItemsWith hwrite hother indent (depth + 1) items)
  | object entries =>
      exact separates_container rfl rfl indent depth
        (separates_jsonEntriesWith hwrite hother indent (depth + 1) entries)
  | delayed identity result => exact separates_self _

/-- The items of two writers of tokens are told apart one by one. -/
theorem separates_jsonItemsWith (hwrite : WritesTokens write) (hother : WritesTokens other)
    (indent depth : Nat) (items : List Value) :
    List.Forall₂ Separates ((jsonItemsWith write indent depth items).map String.toList)
      ((jsonItemsWith other indent depth items).map String.toList) := by
  cases items with
  | nil => exact .nil
  | cons item items =>
      exact .cons (separates_jsonWith hwrite hother indent depth item)
        (separates_jsonItemsWith hwrite hother indent depth items)

/-- The entries of two writers of tokens are told apart one by one. -/
theorem separates_jsonEntriesWith (hwrite : WritesTokens write) (hother : WritesTokens other)
    (indent depth : Nat) (entries : List (String × Value)) :
    List.Forall₂ Separates ((jsonEntriesWith write indent depth entries).map String.toList)
      ((jsonEntriesWith other indent depth entries).map String.toList) := by
  cases entries with
  | nil => exact .nil
  | cons entry entries =>
      obtain ⟨key, value⟩ := entry
      have hentries := separates_jsonEntriesWith hwrite hother indent depth entries
      rw [jsonEntriesWith, jsonEntriesWith]
      split
      · exact hentries
      · have hvalue := (separates_jsonWith hwrite hother indent depth value).append
          (Json.string key ++ Json.colon indent).toList
        rw [← String.toList_append, ← String.toList_append] at hvalue
        exact .cons hvalue hentries

end

mutual

/-- Only writers that agree on the numbers in a value give it the same text. -/
theorem eq_of_jsonWith_eq (hwrite : WritesTokens write) (hother : WritesTokens other)
    {indent depth : Nat} {value : Value}
    (hsame : value.jsonWith write indent depth = value.jsonWith other indent depth)
    {amount : Binary64} (hamount : .number amount ∈ value.parts) :
    write amount = other amount := by
  cases value with
  | number found =>
      cases List.mem_singleton.1 hamount
      exact String.ofList_injective hsame
  | array items =>
      rw [jsonWith, jsonWith] at hsame
      have hitems := eq_of_container_eq rfl rfl indent depth
        (separates_jsonItemsWith hwrite hother indent (depth + 1) items)
        (congrArg (fun text : String ↦ text.toList ++ []) hsame)
      exact eq_of_jsonItemsWith_eq hwrite hother hitems ((List.mem_cons.1 hamount).resolve_left
        Value.noConfusion)
  | object entries =>
      rw [jsonWith, jsonWith] at hsame
      have hentries := eq_of_container_eq rfl rfl indent depth
        (separates_jsonEntriesWith hwrite hother indent (depth + 1) entries)
        (congrArg (fun text : String ↦ text.toList ++ []) hsame)
      exact eq_of_jsonEntriesWith_eq hwrite hother hentries ((List.mem_cons.1 hamount).resolve_left
        Value.noConfusion)
  | null => cases List.mem_singleton.1 hamount
  | bool truth => cases List.mem_singleton.1 hamount
  | string text => cases List.mem_singleton.1 hamount
  | delayed identity result => cases List.mem_singleton.1 hamount

/-- Writers whose items are the same agree on all numbers in them. -/
theorem eq_of_jsonItemsWith_eq (hwrite : WritesTokens write) (hother : WritesTokens other)
    {indent depth : Nat} {items : List Value}
    (hsame : jsonItemsWith write indent depth items = jsonItemsWith other indent depth items)
    {amount : Binary64} (hamount : .number amount ∈ partsOfItems items) :
    write amount = other amount := by
  cases items with
  | nil => cases hamount
  | cons item items =>
      rw [jsonItemsWith, jsonItemsWith, List.cons.injEq] at hsame
      rcases List.mem_append.1 hamount with hitem | hitems
      · exact eq_of_jsonWith_eq hwrite hother hsame.1 hitem
      · exact eq_of_jsonItemsWith_eq hwrite hother hsame.2 hitems

/-- Writers whose entries are the same agree on all numbers in them. -/
theorem eq_of_jsonEntriesWith_eq (hwrite : WritesTokens write) (hother : WritesTokens other)
    {indent depth : Nat} {entries : List (String × Value)}
    (hsame : jsonEntriesWith write indent depth entries =
      jsonEntriesWith other indent depth entries)
    {amount : Binary64} (hamount : .number amount ∈ partsOfEntries entries) :
    write amount = other amount := by
  cases entries with
  | nil => cases hamount
  | cons entry entries =>
      obtain ⟨key, value⟩ := entry
      rw [jsonEntriesWith, jsonEntriesWith] at hsame
      split at hsame
      · rename_i hdelayed
        rcases List.mem_append.1 hamount with hvalue | hentries
        · cases value with
          | delayed identity result => cases List.mem_singleton.1 hvalue
          | _ => cases hdelayed
        · exact eq_of_jsonEntriesWith_eq hwrite hother hsame hentries
      · rw [List.cons.injEq] at hsame
        rcases List.mem_append.1 hamount with hvalue | hentries
        · exact eq_of_jsonWith_eq hwrite hother (String.append_right_inj _ |>.1 hsame.1) hvalue
        · exact eq_of_jsonEntriesWith_eq hwrite hother hsame.2 hentries

end

/-- Two writers give a value the same text exactly when they agree on the numbers in it. -/
theorem jsonWith_eq_iff (hwrite : WritesTokens write) (hother : WritesTokens other)
    (indent depth : Nat) (value : Value) :
    value.jsonWith write indent depth = value.jsonWith other indent depth ↔
      ∀ amount, .number amount ∈ value.parts → write amount = other amount :=
  ⟨fun hsame _ hamount ↦ eq_of_jsonWith_eq hwrite hother hsame hamount,
    fun hsame ↦ jsonWith_congr indent depth hsame⟩

/-- The text that the library writes for a number, and null for a number that it refuses. -/
def writtenOrNull [Json.Writer] (amount : Binary64) : List Char :=
  match Json.number amount with
  | .ok text => text
  | .error _ => "null".toList

/-- The library gives a value the text of a writer exactly when it writes every number in the value
as the writer does. -/
theorem jsonAt_eq_jsonWith_iff [Json.Writer] (hwritten : WritesTokens writtenOrNull)
    (hwrite : WritesTokens write) (indent depth : Nat) (value : Value) :
    value.jsonAt indent depth = .ok (value.jsonWith write indent depth) ↔
      ∀ amount, .number amount ∈ value.parts → Json.number amount = .ok (write amount) := by
  constructor
  · intro htext amount hamount
    have hall : ∀ other, .number other ∈ value.parts →
        Json.number other = .ok (writtenOrNull other) := by
      intro other hother
      obtain ⟨written, hnumber⟩ := exists_number_of_jsonAt htext hother
      rw [writtenOrNull, hnumber]
    rw [jsonAt_eq_jsonWith indent depth hall, Except.ok.injEq, jsonWith_eq_iff hwritten hwrite]
      at htext
    rw [hall amount hamount, htext amount hamount]
  · exact jsonAt_eq_jsonWith indent depth

end Writers

end Value

end Numbering
