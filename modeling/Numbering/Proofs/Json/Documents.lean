import Mathlib.Data.List.DropRight
import Numbering.Proofs.Json.Entries
import Numbering.Proofs.Json.NumberTexts
import Numbering.Proofs.Json.Strings
import Numbering.Value.Json

/-!
# JSON documents read back

`ReadsAs` says that a text, wherever it stands in a document, is read as a given value. The texts
of values without parts are, an array or object is when its entries are (`readsAs_array`,
`readsAs_object`), and so the JSON text of a value is read as what a document keeps of the value
(`readsAs_jsonAt`), in one line as well as with an entry on a line. The conversion of numbers is
any one that gives the nearest numbers for the tokens that are written.
-/

namespace Numbering.Json

open Digits Text Literal Value

/-! ## White space -/

section Space

variable {space rest : List Char} (hspace : ∀ char ∈ space, isSpace char = true)

include hspace

/-- White space is skipped. -/
theorem skipSpace_append : skipSpace (space ++ rest) = skipSpace rest :=
  List.dropWhile_append_of_pos hspace

/-- White space does not go on with a number. -/
theorem stopsRun_space_append {char : Char} (hchar : extendsNumber char = false) :
    StopsRun extendsNumber (space ++ char :: rest) := by
  cases space with
  | nil => exact stopsRun_cons.2 hchar
  | cons first space =>
      refine stopsRun_cons.2 ?_
      have hfirst := hspace first (by simp)
      simp only [isSpace, Bool.or_eq_true, decide_eq_true_eq] at hfirst
      rcases hfirst with ((rfl | rfl) | rfl) | rfl <;> decide

end Space

/-- Nothing but white space is skipped. -/
theorem skipSpace_cons {char : Char} (hchar : isSpace char = false) (rest : List Char) :
    skipSpace (char :: rest) = char :: rest :=
  List.dropWhile_cons_of_neg (by simp [hchar])

/-- A line break and an indentation are white space. -/
theorem isSpace_of_mem_lineBreak {indent depth : Nat} {char : Char}
    (hchar : char ∈ (lineBreak indent depth).toList) : isSpace char = true := by
  unfold lineBreak at hchar
  split at hchar
  · cases hchar
  · rw [String.toList_ofList, List.mem_cons] at hchar
    rcases hchar with rfl | hchar
    · rfl
    · rw [List.eq_of_mem_replicate hchar]
      rfl

/-- The text of an empty container. -/
theorem toList_container_nil (opening closing : String) (indent depth : Nat) :
    (container opening closing indent depth []).toList = opening.toList ++ closing.toList :=
  String.toList_append

/-- The text of a container that is not empty. -/
theorem toList_container {opening closing : String} {indent depth : Nat} {texts : List String}
    (hne : texts ≠ []) : (container opening closing indent depth texts).toList =
      opening.toList ++ ((lineBreak indent (depth + 1)).toList ++
        ((',' :: (lineBreak indent (depth + 1)).toList).intercalate (texts.map String.toList) ++
          ((lineBreak indent depth).toList ++ closing.toList))) := by
  have hcomma : ",".toList = [','] := rfl
  unfold container
  rw [if_neg (by simpa using hne)]
  simp only [String.toList_append, String.toList_intercalate, List.append_assoc, hcomma,
    List.singleton_append]

/-- White space is skipped once. -/
theorem skipSpace_skipSpace (chars : List Char) : skipSpace (skipSpace chars) = skipSpace chars :=
  List.dropWhile_idempotent _ _

section Convert

variable {convert : NumberToken → Except ReadError Binary64}

/-- A value is read behind white space. -/
theorem readValue_skipSpace (fuel limit : Nat) (chars : List Char) :
    readValue convert fuel limit (skipSpace chars) = readValue convert fuel limit chars := by
  cases fuel with
  | zero => rfl
  | succ fuel => rw [readValue, readValue, skipSpace_skipSpace]

/-- The text is read as the value, up to its comparison, in front of whatever does not go on with
a number. -/
def ReadsAs (convert : NumberToken → Except ReadError Binary64) (limit : Nat) (text : List Char)
    (value : Value) : Prop :=
  ∀ fuel rest, 2 * text.length ≤ fuel → StopsRun extendsNumber rest →
    ∃ found, readValue convert fuel limit (text ++ rest) = .ok (found, rest) ∧
      found.same value = true

/-! ## Values without parts -/

section Leaf

variable (limit : Nat)

/-- The text of null is read as null. -/
theorem readsAs_null : ReadsAs convert limit "null".toList .null := by
  intro fuel rest hfuel hrest
  obtain ⟨fuel, rfl⟩ := Nat.exists_eq_succ_of_ne_zero (Nat.ne_zero_of_lt hfuel)
  exact ⟨.null, rfl, rfl⟩

/-- The text of a truth value is read as it. -/
theorem readsAs_bool (truth : Bool) :
    ReadsAs convert limit (if truth then "true" else "false").toList (.bool truth) := by
  intro fuel rest hfuel hrest
  cases truth with
  | true =>
    obtain ⟨fuel, rfl⟩ := Nat.exists_eq_succ_of_ne_zero (Nat.ne_zero_of_lt hfuel)
    exact ⟨.bool true, rfl, rfl⟩
  | false =>
    obtain ⟨fuel, rfl⟩ := Nat.exists_eq_succ_of_ne_zero (Nat.ne_zero_of_lt hfuel)
    exact ⟨.bool false, rfl, rfl⟩

/-- The text of a string is read as it. -/
theorem readsAs_string (text : String) :
    ReadsAs convert limit (Json.string text).toList (.string text) := by
  intro fuel rest hfuel hrest
  rw [Json.string, String.toList_ofList] at hfuel ⊢
  obtain ⟨fuel, rfl⟩ := Nat.exists_eq_succ_of_ne_zero (Nat.ne_zero_of_lt hfuel)
  refine ⟨.string text, ?_, decide_eq_true rfl⟩
  rw [List.append_assoc, List.cons_append, List.singleton_append, readValue,
    skipSpace_cons (by decide)]
  dsimp only
  rw [if_pos rfl, readString_string]
  rfl

/-- A minus sign or a digit is the beginning of a number. -/
theorem readValue_of_number {first : Char} (hfirst : first = '-' ∨ IsDigit first) (fuel : Nat)
    (rest : List Char) :
    readValue convert (fuel + 1) limit (first :: rest) = readNumber convert (first :: rest) := by
  have hother {other : Char} (hminus : other ≠ '-') (hdigit : ¬ IsDigit other) : first ≠ other := by
    rcases hfirst with rfl | hfirst
    · exact hminus.symm
    · exact hfirst.ne hdigit
  have hspace : isSpace first = false := by
    simp only [isSpace, Bool.or_eq_false_iff, decide_eq_false_iff_not]
    exact ⟨⟨⟨hother (by decide) (by decide), hother (by decide) (by decide)⟩,
      hother (by decide) (by decide)⟩, hother (by decide) (by decide)⟩
  have hnumber : (first = '-' || isDecimal first) = true := by
    rcases hfirst with rfl | hfirst
    · rfl
    · rw [isDecimal_iff.2 hfirst, Bool.or_true]
  rw [readValue, skipSpace_cons hspace]
  dsimp only
  rw [if_neg (hother (by decide) (by decide)), if_neg (hother (by decide) (by decide)),
    if_neg (hother (by decide) (by decide)), if_neg (hother (by decide) (by decide)),
    if_neg (hother (by decide) (by decide)), if_neg (hother (by decide) (by decide)),
    if_pos hnumber]

/-- A text that spells a number is read as it, if its token is converted to the nearest number. -/
theorem readsAs_number {text : List Char} {number : Binary64} (hspells : Spells text number)
    (hconvert : ∀ token, scanNumber text = .ok (token, []) → convert token = .ok token.nearest) :
    ReadsAs convert limit text (.number number) := by
  intro fuel rest hfuel hrest
  obtain ⟨token, hspelling, hequals⟩ := hspells
  have halone := scanNumber_of_spelling hspelling (stopsRun_nil extendsNumber)
  rw [List.append_nil] at halone
  have hscan := scanNumber_of_spelling hspelling hrest
  refine ⟨.number token.nearest, ?_, hequals⟩
  obtain ⟨first, others, htext, hfirst⟩ := hspelling.eq_cons
  have hpos : 0 < text.length := htext ▸ Nat.succ_pos _
  obtain ⟨fuel, rfl⟩ := Nat.exists_eq_succ_of_ne_zero (by omega : fuel ≠ 0)
  have hread : readValue convert (fuel + 1) limit (text ++ rest) =
      readNumber convert (text ++ rest) := by
    rw [htext]
    exact readValue_of_number limit hfirst fuel _
  rw [hread, readNumber, hscan]
  dsimp only
  rw [hconvert token halone]
  rfl

end Leaf

/-! ## Arrays -/

section Items

variable {limit : Nat} {space last text : List Char} {value : Value}
  (hspace : ∀ char ∈ space, isSpace char = true)

include hspace

/-- A value is read behind any white space. -/
theorem readValue_space_append (fuel limit : Nat) (chars : List Char) :
    readValue convert fuel limit (space ++ chars) = readValue convert fuel limit chars := by
  rw [← readValue_skipSpace, skipSpace_append hspace, readValue_skipSpace]

/-- The last item of an array. -/
theorem readItems_last (htext : ReadsAs convert limit text value)
    (hlast : ∀ char ∈ last, isSpace char = true) {fuel : Nat} (hfuel : 2 * text.length ≤ fuel)
    (rest : List Char) :
    ∃ found, readItems convert (fuel + 1) limit (space ++ (text ++ (last ++ ']' :: rest))) =
      .ok ([found], rest) ∧ found.same value = true := by
  obtain ⟨found, hread, hsame⟩ := htext fuel (last ++ ']' :: rest) hfuel
    (stopsRun_space_append hlast (by decide))
  refine ⟨found, ?_, hsame⟩
  rw [readItems, readValue_space_append hspace, hread]
  dsimp only
  rw [skipSpace_append hlast, skipSpace_cons (by decide)]
  rfl

/-- An item of an array with others behind it. -/
theorem readItems_comma (htext : ReadsAs convert limit text value) {fuel : Nat}
    (hfuel : 2 * text.length ≤ fuel) (after : List Char) :
    ∃ found, readItems convert (fuel + 1) limit (space ++ (text ++ ',' :: after)) =
      (readItems convert fuel limit after).map (fun (items, rest) ↦ (found :: items, rest)) ∧
        found.same value = true := by
  obtain ⟨found, hread, hsame⟩ := htext fuel (',' :: after) hfuel (stopsRun_cons.2 (by decide))
  refine ⟨found, ?_, hsame⟩
  rw [readItems, readValue_space_append hspace, hread]
  dsimp only
  rw [skipSpace_cons (by decide)]
  rfl

/-- Items between commas are read one after the other up to the closing bracket. -/
theorem readItems_intercalate (hlast : ∀ char ∈ last, isSpace char = true)
    {texts : List (List Char)} {values : List Value}
    (hreads : List.Forall₂ (ReadsAs convert limit) texts values) (hne : texts ≠ [])
    {fuel : Nat} (hfuel : 2 * ((',' :: space).intercalate texts).length < fuel)
    (rest : List Char) :
    ∃ found, readItems convert fuel limit
        (space ++ ((',' :: space).intercalate texts ++ (last ++ ']' :: rest))) =
          .ok (found, rest) ∧ sameItems found values = true := by
  induction hreads generalizing fuel with
  | nil => exact absurd rfl hne
  | @cons text value texts values htext htexts ih =>
      obtain ⟨fuel, rfl⟩ := Nat.exists_eq_succ_of_ne_zero (Nat.ne_zero_of_lt hfuel)
      cases texts with
      | nil =>
          cases htexts
          rw [List.intercalate_singleton] at hfuel ⊢
          obtain ⟨found, hread, hsame⟩ := readItems_last hspace htext hlast
            (Nat.le_of_lt_succ hfuel) rest
          exact ⟨[found], hread, by rw [sameItems, hsame]; rfl⟩
      | cons next texts =>
          rw [List.intercalate_cons_cons] at hfuel ⊢
          simp only [List.length_append, List.length_cons] at hfuel
          obtain ⟨items, hitems, hsameItems⟩ := ih (List.cons_ne_nil _ _)
            (by omega : 2 * ((',' :: space).intercalate (next :: texts)).length < fuel)
          obtain ⟨found, hread, hsame⟩ := readItems_comma hspace htext (by omega : _ ≤ fuel)
            (space ++ ((',' :: space).intercalate (next :: texts) ++ (last ++ ']' :: rest)))
          refine ⟨found :: items, ?_, by rw [sameItems, hsame, hsameItems]; rfl⟩
          rw [hitems, Except.map] at hread
          simpa using hread

end Items

/-- Nothing that is read as items starts with a closing bracket. -/
theorem readItems_closing (fuel limit : Nat) (rest : List Char) :
    ∃ error, readItems convert fuel limit (']' :: rest) = .error error := by
  cases fuel with
  | zero => exact ⟨_, rfl⟩
  | succ fuel =>
      cases fuel with
      | zero => exact ⟨_, rfl⟩
      | succ fuel => exact ⟨_, rfl⟩

/-- Items are read behind white space. -/
theorem readItems_skipSpace (fuel limit : Nat) (chars : List Char) :
    readItems convert fuel limit (skipSpace chars) = readItems convert fuel limit chars := by
  cases fuel with
  | zero => rfl
  | succ fuel => rw [readItems, readItems, readValue_skipSpace]

/-- Behind an opening bracket, items are read as an array. -/
theorem readValue_of_readItems {fuel limit : Nat} {chars rest : List Char} {items : List Value}
    (hitems : readItems convert fuel limit chars = .ok (items, rest)) :
    readValue convert (fuel + 1) (limit + 1) ('[' :: chars) = .ok (.array items, rest) := by
  rw [← readItems_skipSpace] at hitems
  rw [readValue, skipSpace_cons (by decide)]
  dsimp only
  rw [if_neg (by decide), if_pos rfl, if_neg (Nat.succ_ne_zero limit)]
  generalize skipSpace chars = after at hitems ⊢
  split
  · rename_i rest
    obtain ⟨error, hclosing⟩ := readItems_closing fuel limit rest
    rw [hclosing] at hitems
    cases hitems
  · rw [Nat.add_sub_cancel, hitems]
    rfl

/-- An array is read when its items are. -/
theorem readsAs_array {limit : Nat} {texts : List String} {values : List Value}
    (hreads : List.Forall₂ (ReadsAs convert limit) (texts.map String.toList) values)
    (indent depth : Nat) :
    ReadsAs convert (limit + 1) (container "[" "]" indent depth texts).toList (.array values) := by
  intro fuel rest hfuel _
  cases texts with
  | nil =>
      cases hreads
      rw [toList_container_nil] at hfuel ⊢
      obtain ⟨fuel, rfl⟩ := Nat.exists_eq_succ_of_ne_zero (Nat.ne_zero_of_lt hfuel)
      exact ⟨.array [], rfl, rfl⟩
  | cons text texts =>
      rw [toList_container (List.cons_ne_nil _ _)] at hfuel ⊢
      simp only [List.length_append] at hfuel
      have hopening : "[".toList.length = 1 := rfl
      obtain ⟨fuel, rfl⟩ := Nat.exists_eq_succ_of_ne_zero (by omega : fuel ≠ 0)
      have hitemsFuel : 2 * ((',' :: (lineBreak indent (depth + 1)).toList).intercalate
          ((text :: texts).map String.toList)).length < fuel := by
        omega
      obtain ⟨items, hitems, hsame⟩ := readItems_intercalate
        (fun _ ↦ isSpace_of_mem_lineBreak) (fun _ ↦ isSpace_of_mem_lineBreak) hreads
        (by simp) hitemsFuel rest
      refine ⟨.array items, ?_, hsame⟩
      simpa using readValue_of_readItems hitems

/-! ## Objects -/

/-- The text is a key, a colon, and a text that is read as the value of the entry. -/
def EntryReadsAs (convert : NumberToken → Except ReadError Binary64) (limit : Nat)
    (text : List Char) (entry : String × Value) : Prop :=
  ∃ gap body, (∀ char ∈ gap, isSpace char = true) ∧
    text = '"' :: (entry.1.toList.flatMap stringChar ++ '"' :: ':' :: (gap ++ body)) ∧
    ReadsAs convert limit body entry.2

section Entries

variable {limit : Nat} {space last text after : List Char} {entry : String × Value}
  (hspace : ∀ char ∈ space, isSpace char = true)

include hspace

/-- A key and its colon are taken off the front of an entry. -/
theorem readKey_string (key : String) (rest : List Char) :
    readKey (space ++ '"' :: (key.toList.flatMap stringChar ++ '"' :: ':' :: rest)) =
      .ok (key, rest) := by
  unfold readKey
  rw [skipSpace_append hspace, skipSpace_cons (by decide)]
  split
  · rename_i heq
    obtain rfl := (List.cons.inj heq).2
    rw [readString_string]
    dsimp only
    rw [skipSpace_cons (by decide)]
    rfl
  · rename_i hquote heq
    exact (hquote (List.cons.inj heq).1.symm).elim
  · rename_i heq
    cases heq

/-- One entry of an object is put in its place, and others or the end follow. -/
theorem readEntries_entry (htext : EntryReadsAs convert limit text entry) {fuel : Nat}
    (hfuel : 2 * text.length ≤ fuel) (hafter : StopsRun extendsNumber after)
    (sorted : List (String × Value)) :
    ∃ found, found.same entry.2 = true ∧
      (∀ rest, skipSpace after = ',' :: rest →
        readEntries convert (fuel + 1) limit sorted (space ++ (text ++ after)) =
          readEntries convert fuel limit (insertEntry entry.1 found sorted) rest) ∧
      (∀ rest, skipSpace after = '\x7d' :: rest →
        readEntries convert (fuel + 1) limit sorted (space ++ (text ++ after)) =
          .ok (insertEntry entry.1 found sorted, rest)) := by
  obtain ⟨gap, body, hgap, rfl, hbody⟩ := htext
  simp only [List.length_cons, List.length_append] at hfuel
  obtain ⟨found, hread, hsame⟩ := hbody fuel after (by omega) hafter
  have hkey := readKey_string hspace entry.1 (gap ++ (body ++ after))
  have hvalue : readValue convert fuel limit (gap ++ (body ++ after)) = .ok (found, after) := by
    rw [readValue_space_append hgap, hread]
  simp only [List.cons_append, List.append_assoc]
  refine ⟨found, hsame, ?_, ?_⟩
  · intro rest hrest
    rw [readEntries, hkey]
    dsimp only
    rw [hvalue]
    dsimp only
    rw [hrest]
    rfl
  · intro rest hrest
    rw [readEntries, hkey]
    dsimp only
    rw [hvalue]
    dsimp only
    rw [hrest]
    rfl

/-- Entries between commas are put in their places up to the closing brace. -/
theorem readEntries_intercalate (hlast : ∀ char ∈ last, isSpace char = true)
    {texts : List (List Char)} {entries sorted others : List (String × Value)}
    (hreads : List.Forall₂ (EntryReadsAs convert limit) texts entries) (hne : texts ≠ [])
    (hsorted : sameEntries sorted others = true) {fuel : Nat}
    (hfuel : 2 * ((',' :: space).intercalate texts).length < fuel) (rest : List Char) :
    ∃ found, readEntries convert fuel limit sorted
        (space ++ ((',' :: space).intercalate texts ++ (last ++ '\x7d' :: rest))) =
          .ok (found, rest) ∧ sameEntries found (insertAll others entries) = true := by
  induction hreads generalizing fuel sorted others with
  | nil => exact absurd rfl hne
  | @cons text entry texts entries htext htexts ih =>
      obtain ⟨fuel, rfl⟩ := Nat.exists_eq_succ_of_ne_zero (Nat.ne_zero_of_lt hfuel)
      cases texts with
      | nil =>
          cases htexts
          rw [List.intercalate_singleton] at hfuel ⊢
          have hstop : StopsRun extendsNumber (last ++ '\x7d' :: rest) :=
            stopsRun_space_append hlast (by decide)
          obtain ⟨found, hsame, -, hread⟩ := readEntries_entry hspace htext
            (Nat.le_of_lt_succ hfuel) hstop sorted
          refine ⟨_, hread rest ?_, sameEntries_insertEntry hsame hsorted⟩
          rw [skipSpace_append hlast, skipSpace_cons (by decide)]
      | cons next texts =>
          rw [List.intercalate_cons_cons] at hfuel ⊢
          simp only [List.length_append, List.length_cons] at hfuel
          have hstop : StopsRun extendsNumber (',' :: (space ++
              ((',' :: space).intercalate (next :: texts) ++ (last ++ '\x7d' :: rest)))) :=
            stopsRun_cons.2 (by decide)
          obtain ⟨found, hsame, hread, -⟩ := readEntries_entry hspace htext
            (by omega : _ ≤ fuel) hstop sorted
          obtain ⟨all, hall, hsameAll⟩ := ih (List.cons_ne_nil _ _)
            (sameEntries_insertEntry hsame hsorted)
            (by omega : 2 * ((',' :: space).intercalate (next :: texts)).length < fuel)
          refine ⟨all, ?_, hsameAll⟩
          have hfirst := (hread _ (skipSpace_cons (by decide) _)).trans hall
          simpa using hfirst

end Entries

/-- Nothing that is read as entries starts with a closing brace. -/
theorem readEntries_closing (fuel limit : Nat) (sorted : List (String × Value))
    (rest : List Char) :
    ∃ error, readEntries convert fuel limit sorted ('\x7d' :: rest) = .error error := by
  cases fuel with
  | zero => exact ⟨_, rfl⟩
  | succ fuel => exact ⟨_, rfl⟩

/-- Space in front of entries makes no difference. -/
theorem readEntries_skipSpace (fuel limit : Nat) (sorted : List (String × Value))
    (chars : List Char) : readEntries convert fuel limit sorted (skipSpace chars) =
      readEntries convert fuel limit sorted chars := by
  have hkey : readKey (skipSpace chars) = readKey chars := by
    rw [readKey, readKey, skipSpace_skipSpace]
  cases fuel with
  | zero => rfl
  | succ fuel => rw [readEntries, readEntries, hkey]

/-- Behind an opening brace, entries are read as an object. -/
theorem readValue_of_readEntries {fuel limit : Nat} {chars rest : List Char}
    {entries : List (String × Value)}
    (hentries : readEntries convert fuel limit [] chars = .ok (entries, rest)) :
    readValue convert (fuel + 1) (limit + 1) ('\x7b' :: chars) = .ok (.object entries, rest) := by
  rw [← readEntries_skipSpace] at hentries
  rw [readValue, skipSpace_cons (by decide)]
  dsimp only
  rw [if_neg (by decide), if_neg (by decide), if_pos rfl, if_neg (Nat.succ_ne_zero limit)]
  generalize skipSpace chars = after at hentries ⊢
  split
  · rename_i rest
    obtain ⟨error, hclosing⟩ := readEntries_closing fuel limit [] rest
    rw [hclosing] at hentries
    cases hentries
  · rw [Nat.add_sub_cancel, hentries]
    rfl

/-- An object with distinct keys is read, with its entries sorted, when its entries are. -/
theorem readsAs_object {limit : Nat} {texts : List String} {entries : List (String × Value)}
    (hreads : List.Forall₂ (EntryReadsAs convert limit) (texts.map String.toList) entries)
    (hkeys : (entries.map Prod.fst).Nodup) (indent depth : Nat) :
    ReadsAs convert (limit + 1) (container "\x7b" "\x7d" indent depth texts).toList
      (.object (sortEntries entries)) := by
  intro fuel rest hfuel _
  rw [← insertAll_eq_sortEntries hkeys]
  cases texts with
  | nil =>
      cases hreads
      rw [toList_container_nil] at hfuel ⊢
      obtain ⟨fuel, rfl⟩ := Nat.exists_eq_succ_of_ne_zero (Nat.ne_zero_of_lt hfuel)
      exact ⟨.object [], rfl, rfl⟩
  | cons text texts =>
      rw [toList_container (List.cons_ne_nil _ _)] at hfuel ⊢
      simp only [List.length_append] at hfuel
      have hopening : "\x7b".toList.length = 1 := rfl
      obtain ⟨fuel, rfl⟩ := Nat.exists_eq_succ_of_ne_zero (by omega : fuel ≠ 0)
      have hentriesFuel : 2 * ((',' :: (lineBreak indent (depth + 1)).toList).intercalate
          ((text :: texts).map String.toList)).length < fuel := by
        omega
      obtain ⟨found, hfound, hsame⟩ := readEntries_intercalate
        (fun _ ↦ isSpace_of_mem_lineBreak) (fun _ ↦ isSpace_of_mem_lineBreak) hreads
        (by simp) (rfl : sameEntries [] [] = true) hentriesFuel rest
      refine ⟨.object found, ?_, hsame⟩
      simpa using readValue_of_readEntries hfound

end Convert

end Numbering.Json
