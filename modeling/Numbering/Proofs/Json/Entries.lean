import Numbering.Json.Reading
import Numbering.Proofs.Value.Normal

/-!
# Entries sorted by key

The reader puts the entries of an object in their places one after the other. With distinct keys it
ends up with all of them in the order of their keys (`Json.insertAll_eq_sortEntries`), and it finds
the same order for entries that are the same (`Json.sameEntries_insertEntry`).
-/

namespace Numbering.Json

open Value

variable {key : String} {value : Value} {entries : List (String × Value)}

/-- Put entries in their places, the first one first. -/
def insertAll (sorted : List (String × Value)) : List (String × Value) → List (String × Value)
  | [] => sorted
  | (key, value) :: entries => insertAll (insertEntry key value sorted) entries

/-! ## One entry -/

/-- An entry with a new key is added. -/
theorem perm_insertEntry (hkey : key ∉ entries.map Prod.fst) :
    (insertEntry key value entries).Perm ((key, value) :: entries) := by
  induction entries with
  | nil => exact .refl _
  | cons entry entries ih =>
      obtain ⟨other, present⟩ := entry
      rw [List.map_cons, List.mem_cons, not_or] at hkey
      rw [insertEntry]
      split
      · exact .refl _
      · rw [if_neg hkey.1]
        exact ((ih hkey.2).cons _).trans (.swap _ _ _)

/-- An entry behind a key leaves all entries behind that key. -/
theorem lt_of_mem_insertEntry {bound : String} (hkey : bound < key)
    (hentries : ∀ entry ∈ entries, bound < entry.1) :
    ∀ entry ∈ insertEntry key value entries, bound < entry.1 := by
  induction entries with
  | nil =>
      intro entry hentry
      rw [List.mem_singleton.1 hentry]
      exact hkey
  | cons first entries ih =>
      obtain ⟨other, present⟩ := first
      obtain ⟨hother, hrest⟩ := List.forall_mem_cons.1 hentries
      rw [insertEntry]
      split
      · exact List.forall_mem_cons.2 ⟨hkey, hentries⟩
      · split
        · exact List.forall_mem_cons.2 ⟨hkey, hrest⟩
        · exact List.forall_mem_cons.2 ⟨hother, ih hrest⟩

/-- Entries stay in the order of their keys. -/
theorem pairwise_insertEntry (hsorted : entries.Pairwise fun first second ↦ first.1 < second.1) :
    (insertEntry key value entries).Pairwise fun first second ↦ first.1 < second.1 := by
  induction entries with
  | nil => exact List.pairwise_singleton _ _
  | cons first entries ih =>
      obtain ⟨other, present⟩ := first
      obtain ⟨hother, hrest⟩ := List.pairwise_cons.1 hsorted
      rw [insertEntry]
      split
      · rename_i hbefore
        have hothers : ∀ entry ∈ entries, key < entry.1 := fun entry hentry ↦
          hbefore.trans (hother entry hentry)
        exact List.pairwise_cons.2 ⟨List.forall_mem_cons.2 ⟨hbefore, hothers⟩, hsorted⟩
      · rename_i hnotBefore
        split
        · rename_i hequal
          exact List.pairwise_cons.2 ⟨hequal ▸ hother, hrest⟩
        · rename_i hnotEqual
          have hafter : other < key := lt_of_le_of_ne (not_lt.1 hnotBefore) (Ne.symm hnotEqual)
          exact List.pairwise_cons.2 ⟨lt_of_mem_insertEntry hafter hother, ih hrest⟩

/-- Entries are the same when the first values and all others are. -/
theorem sameEntries_cons {other : Value} {others : List (String × Value)}
    (hvalue : value.same other = true) (hentries : sameEntries entries others = true) :
    sameEntries ((key, value) :: entries) ((key, other) :: others) = true := by
  rw [sameEntries, decide_eq_true rfl, hvalue, hentries]
  rfl

/-- Where an entry goes depends on the keys only. -/
theorem sameEntries_insertEntry {other : Value} {others : List (String × Value)}
    (hvalue : value.same other = true) (hentries : sameEntries entries others = true) :
    sameEntries (insertEntry key value entries) (insertEntry key other others) = true := by
  induction entries generalizing others with
  | nil =>
      cases others with
      | nil => exact sameEntries_cons hvalue rfl
      | cons _ _ => cases hentries
  | cons first entries ih =>
      obtain ⟨firstKey, present⟩ := first
      cases others with
      | nil => cases hentries
      | cons second others =>
          obtain ⟨secondKey, found⟩ := second
          obtain ⟨hfirst, hrest⟩ := Bool.and_eq_true_iff.1 hentries
          obtain ⟨hkey, hpresent⟩ := Bool.and_eq_true_iff.1 hfirst
          obtain rfl : firstKey = secondKey := of_decide_eq_true hkey
          rw [insertEntry, insertEntry]
          split
          · exact sameEntries_cons hvalue hentries
          · split
            · exact sameEntries_cons hvalue hrest
            · exact sameEntries_cons hpresent (ih hrest)

/-! ## All entries -/

/-- Entries with new and distinct keys are all added, and the order of the keys is kept. -/
theorem insertAll_spec {sorted : List (String × Value)}
    (hsorted : sorted.Pairwise fun first second ↦ first.1 < second.1)
    (hkeys : ((sorted ++ entries).map Prod.fst).Nodup) :
    (insertAll sorted entries).Perm (sorted ++ entries) ∧
      (insertAll sorted entries).Pairwise fun first second ↦ first.1 < second.1 := by
  induction entries generalizing sorted with
  | nil => exact ⟨by rw [insertAll, List.append_nil], hsorted⟩
  | cons entry entries ih =>
      obtain ⟨key, value⟩ := entry
      have hnew : key ∉ sorted.map Prod.fst := by
        rw [List.map_append, List.map_cons] at hkeys
        exact fun hmem ↦ (List.nodup_append.1 hkeys).2.2 key hmem key List.mem_cons_self rfl
      have hperm : (insertEntry key value sorted ++ entries).Perm
          (sorted ++ (key, value) :: entries) :=
        ((perm_insertEntry hnew).append_right entries).trans List.perm_middle.symm
      obtain ⟨hall, hpairwise⟩ := ih (pairwise_insertEntry hsorted)
        ((hperm.map Prod.fst).nodup_iff.2 hkeys)
      exact ⟨hall.trans hperm, hpairwise⟩

/-- Entries with distinct keys are sorted by their keys. -/
theorem insertAll_eq_sortEntries (hkeys : (entries.map Prod.fst).Nodup) :
    insertAll [] entries = sortEntries entries := by
  obtain ⟨hperm, hpairwise⟩ := insertAll_spec List.Pairwise.nil hkeys
  have hsort : (sortEntries entries).Perm entries := List.mergeSort_perm _ _
  have hordered : (sortEntries entries).Pairwise fun first second ↦ first.1 ≤ second.1 := by
    have hmerge : (sortEntries entries).Pairwise fun first second ↦
        decide (first.1 ≤ second.1) = true :=
      List.pairwise_mergeSort (fun first second third ↦ by simpa using le_trans)
        (fun first second ↦ by simpa using le_total first.1 second.1) entries
    exact hmerge.imp of_decide_eq_true
  have hdistinct : (sortEntries entries).Pairwise fun first second ↦ first.1 ≠ second.1 :=
    List.pairwise_map.1 ((hsort.map Prod.fst).nodup_iff.2 hkeys)
  -- A list is determined by its elements when it is in strict order.
  refine List.Perm.eq_of_pairwise (fun first second _ _ hbefore hafter ↦
    absurd hafter hbefore.not_gt) hpairwise ?_ (hperm.trans hsort.symm)
  exact (hordered.and hdistinct).imp fun h ↦ lt_of_le_of_ne h.1 h.2

end Numbering.Json
