import Mathlib.Data.List.Infix
import Numbering.CommandLine.Files

/-!
# Places in a file tree

Where a path leads depends on the names in a tree alone, and not on the bytes of the files
(`resolve_put`). A path that leads to a place goes through directories, and whatever is on the way
to a directory is one. So a file that is added where a path leads to does not get in the way of any
other path (`resolve_add`), and taking it away again leads back to the tree there was before
(`drop_add`).
-/

namespace Numbering.FileTree

/-! ## Parts of paths -/

/-- A text has no slash between its slashes. -/
theorem not_mem_of_mem_splitOn {chars part : List Char} (hpart : part ∈ chars.splitOn '/') :
    '/' ∉ part := by
  induction chars generalizing part with
  | nil =>
      rw [List.splitOn_nil, List.mem_singleton] at hpart
      rw [hpart]
      exact List.not_mem_nil
  | cons char chars ih =>
      rw [List.splitOn_cons_eq_if_modifyHead] at hpart
      cases hsplit : chars.splitOn '/' with
      | nil => exact absurd hsplit (List.splitOn_ne_nil '/' chars)
      | cons first others =>
          rw [hsplit] at ih hpart
          split at hpart
          · rcases List.mem_cons.1 hpart with rfl | hrest
            · exact List.not_mem_nil
            · exact ih hrest
          · rename_i hslash
            rcases List.mem_cons.1 hpart with rfl | hrest
            · intro hmem
              rcases List.mem_cons.1 hmem with rfl | hfirst
              · exact hslash (beq_self_eq_true '/')
              · exact ih List.mem_cons_self hfirst
            · exact ih (List.mem_cons_of_mem first hrest)

/-- No part holds a slash. -/
def SlashFree (place : List String) : Prop := ∀ part ∈ place, '/' ∉ part.toList

/-- The parts of a path hold no slash. -/
theorem slashFree_parts (path : String) : SlashFree (parts path) := by
  intro part hpart
  obtain ⟨chars, hchars, rfl⟩ := List.mem_map.1 hpart
  rw [String.toList_ofList]
  exact not_mem_of_mem_splitOn hchars

/-- One more part without a slash leaves parts without slashes. -/
theorem SlashFree.append_singleton {place : List String} {part : String} (hplace : SlashFree place)
    (hpart : '/' ∉ part.toList) : SlashFree (place ++ [part]) := by
  intro other hother
  rcases List.mem_append.1 hother with hin | hlast
  · exact hplace other hin
  · rw [List.mem_singleton.1 hlast]
    exact hpart

/-- A path has at least one part. -/
theorem parts_ne_nil (path : String) : parts path ≠ [] :=
  fun hnil ↦ List.splitOn_ne_nil '/' path.toList (List.map_eq_nil_iff.1 hnil)

/-- Parts are joined to a path that has these parts. -/
theorem parts_intercalate {place : List String} (hne : place ≠ []) (hplace : SlashFree place) :
    parts ("/".intercalate place) = place := by
  have hslash : "/".toList = ['/'] := rfl
  have hfree : ∀ part ∈ place.map String.toList, '/' ∉ part := by
    intro part hpart
    obtain ⟨text, htext, rfl⟩ := List.mem_map.1 hpart
    exact hplace text htext
  unfold parts
  rw [String.toList_intercalate, hslash,
    List.splitOn_intercalate '/' hfree (fun hnil ↦ hne (List.map_eq_nil_iff.1 hnil)), List.map_map]
  exact (List.map_congr_left fun part _ ↦ String.ofList_toList).trans (List.map_id place)

/-! ## Directories -/

variable {tree : FileTree} {path : String} {content : ByteArray} {place above rest : List String}

/-- What is on the way to a directory is a directory. -/
theorem isDirectory_of_below {below : List String} (hway : place <+: below)
    (hbelow : tree.isDirectory below = true) : tree.isDirectory place = true := by
  simp only [isDirectory, Bool.or_eq_true, List.any_eq_true, List.isPrefixOf_iff_prefix,
    List.isEmpty_iff, Bool.and_eq_true, decide_eq_true_eq] at hbelow ⊢
  rcases hbelow with ((hroot | hworking) | ⟨other, hother, hon⟩) | ⟨file, hfile, hon, hne⟩
  · rw [hroot] at hway
    exact .inl (.inl (.inl (List.prefix_nil.1 hway)))
  · exact .inl (.inl (.inr (hway.trans hworking)))
  · exact .inl (.inr ⟨other, hother, hway.trans hon⟩)
  · refine .inr ⟨file, hfile, hway.trans hon, ?_⟩
    rintro rfl
    exact hne (hon.eq_of_length_le hway.length_le)

/-- A path starts in a directory. -/
theorem isDirectory_origin (tree : FileTree) (parts : List String) :
    tree.isDirectory (tree.origin parts) = true := by
  unfold origin
  split
  · rfl
  · simp [isDirectory]

/-- From a directory a path leads to a directory. -/
theorem isDirectory_of_enter (hplace : tree.isDirectory place = true)
    (henter : tree.enter place rest = .ok above) : tree.isDirectory above = true := by
  induction rest generalizing place with
  | nil =>
      cases henter
      exact hplace
  | cons part rest ih =>
      unfold enter at henter
      split at henter
      · exact ih hplace henter
      · split at henter
        · exact ih (isDirectory_of_below (List.dropLast_prefix place) hplace) henter
        · split at henter
          · cases henter
          · dsimp only at henter
            split at henter
            · rename_i hnext
              exact ih hnext henter
            · split at henter <;> cases henter

/-! ## Following a path -/

/-- A part that may be the name of a file. -/
def IsName (part : String) : Prop :=
  part ≠ "" ∧ part ≠ "." ∧ part ≠ ".." ∧ part.utf8ByteSize ≤ partLimit

/-- The last part of a path leads to a place for a file. -/
theorem placeIn_eq_ok_iff {part : String} : tree.placeIn above part = .ok place ↔
    IsName part ∧ place = above ++ [part] ∧ tree.isDirectory place = false := by
  unfold placeIn IsName
  constructor
  · grind
  · rintro ⟨⟨hempty, hsame, hparent, hshort⟩, rfl, hfree⟩
    rw [if_neg (by simp [hempty, hsame, hparent]), if_neg (Nat.not_lt.2 hshort), hfree]
    rfl

/-- A path leads to a place in the directory that its front leads to. -/
theorem resolve_eq_ok_iff : tree.resolve path = .ok place ↔
    (path ≠ "" ∧ path.utf8ByteSize ≤ pathLimit) ∧
      ∃ above, tree.enter (tree.origin (parts path)) (parts path).dropLast = .ok above ∧
        tree.placeIn above ((parts path).getLastD "") = .ok place := by
  unfold resolve
  by_cases hempty : path = ""
  · simp [hempty]
  · rw [if_neg hempty]
    by_cases hlong : pathLimit < path.utf8ByteSize
    · simp [hempty, hlong, Nat.not_le.2 hlong]
    · rw [if_neg hlong]
      cases tree.enter (tree.origin (parts path)) (parts path).dropLast with
      | error error => simp
      | ok above => simp [hempty, Nat.not_lt.1 hlong]

/-- The place that a path leads to lies in a directory, and is none itself. -/
theorem exists_directory_of_resolve (hresolve : tree.resolve path = .ok place) :
    ∃ above part, place = above ++ [part] ∧ tree.isDirectory above = true ∧
      tree.isDirectory place = false := by
  obtain ⟨-, above, henter, hplace⟩ := resolve_eq_ok_iff.1 hresolve
  obtain ⟨-, hsame, hfree⟩ := placeIn_eq_ok_iff.1 hplace
  exact ⟨above, _, hsame, isDirectory_of_enter (isDirectory_origin tree _) henter, hfree⟩

/-- No path leads to a place below a place that a path leads to. -/
theorem eq_of_prefix_of_resolve {other : String} {target : List String}
    (htarget : tree.resolve path = .ok target) (hplace : tree.resolve other = .ok place)
    (hway : target <+: place) : target = place := by
  obtain ⟨-, -, -, -, hfree⟩ := exists_directory_of_resolve htarget
  obtain ⟨above, part, rfl, hdirectory, -⟩ := exists_directory_of_resolve hplace
  rcases List.prefix_concat_iff.1 hway with hsame | habove
  · exact hsame
  · rw [isDirectory_of_below habove hdirectory] at hfree
    cases hfree

/-- A path leads to a file when there is one in its place. -/
theorem locate_eq_ok_iff : tree.locate path = .ok (place, content) ↔
    tree.resolve path = .ok place ∧ tree.file? place = some content := by
  unfold locate
  cases tree.resolve path with
  | error error => simp
  | ok other =>
      dsimp only
      cases hfile : tree.file? other with
      | none =>
          simp only [reduceCtorEq, Except.ok.injEq, false_iff, not_and]
          rintro rfl
          simp [hfile]
      | some present =>
          simp only [Except.ok.injEq, Prod.mk.injEq]
          constructor
          · rintro ⟨rfl, rfl⟩
            exact ⟨rfl, hfile⟩
          · rintro ⟨rfl, hsame⟩
            exact ⟨rfl, Option.some.inj (hfile.symm.trans hsame)⟩

/-! ## Other bytes in a file -/

section Put

variable {written : List String}

/-- The files in other places keep their bytes. -/
theorem file?_put : (tree.put written content).file? place =
    (tree.file? place).map fun present ↦ if place = written then content else present := by
  unfold file? put
  induction tree.files with
  | nil => rfl
  | cons file files ih =>
      obtain ⟨other, present⟩ := file
      rw [List.map_cons, List.lookup_cons, List.lookup_cons]
      cases hsame : place == other with
      | true =>
          rw [eq_of_beq hsame]
          rfl
      | false => exact ih

/-- Other bytes in a file leave all directories. -/
theorem isDirectory_put :
    (tree.put written content).isDirectory place = tree.isDirectory place := by
  unfold isDirectory put
  rw [List.any_map]
  rfl

/-- Other bytes in a file leave all ways through directories. -/
theorem enter_put (rest : List String) :
    (tree.put written content).enter place rest = tree.enter place rest := by
  induction rest generalizing place with
  | nil => rfl
  | cons part rest ih =>
      unfold enter
      simp only [ih, isDirectory_put, file?_put, Option.isSome_map]

/-- Other bytes in a file do not change where a path leads. -/
theorem resolve_put : (tree.put written content).resolve path = tree.resolve path := by
  have horigin : ∀ parts, (tree.put written content).origin parts = tree.origin parts :=
    fun _ ↦ rfl
  unfold resolve placeIn
  simp only [horigin, enter_put, isDirectory_put]

/-- A file is read with its new bytes. -/
theorem read_put {present : ByteArray} (hlocate : tree.locate path = .ok (place, present)) :
    (tree.put place content).read path = .ok content := by
  obtain ⟨hresolve, hfile⟩ := locate_eq_ok_iff.1 hlocate
  have hput : (tree.put place content).locate path = .ok (place, content) := by
    rw [locate_eq_ok_iff, resolve_put, file?_put, hfile, Option.map_some, if_pos rfl]
    exact ⟨hresolve, rfl⟩
  rw [read, hput]
  rfl

end Put

/-! ## One more file -/

section Add

variable {added : List String}

/-- A new file makes directories of what is on the way to it. -/
theorem isDirectory_add : (tree.add added content).isDirectory place =
    (tree.isDirectory place || (place.isPrefixOf added && decide (place ≠ added))) := by
  unfold isDirectory add
  rw [List.any_append, Bool.or_assoc]
  simp only [List.any_cons, List.any_nil, Bool.or_false, Bool.or_assoc]

/-- A file is still there when there is one more. -/
theorem file?_add_of_some {present : ByteArray} (hfile : tree.file? place = some present) :
    (tree.add added content).file? place = some present := by
  unfold file? add at *
  rw [List.lookup_append, hfile]
  rfl

/-- A file that was not there is found when it has been added. -/
theorem file?_add_self (hfree : tree.file? added = none) :
    (tree.add added content).file? added = some content := by
  unfold file? add at *
  rw [List.lookup_append, hfree, Option.none_or, List.lookup_cons, beq_self_eq_true]

/-- A way through directories goes through the same directories when there is one more file. -/
theorem enter_add (henter : tree.enter place rest = .ok above) :
    (tree.add added content).enter place rest = .ok above := by
  induction rest generalizing place with
  | nil => exact henter
  | cons part rest ih =>
      unfold enter at henter ⊢
      split at henter
      · rename_i hsame
        rw [if_pos hsame]
        exact ih henter
      · rename_i hother
        rw [if_neg hother]
        split at henter
        · rename_i hparent
          rw [if_pos hparent]
          exact ih henter
        · rename_i hchild
          rw [if_neg hchild]
          split at henter
          · cases henter
          · rename_i hshort
            rw [if_neg hshort]
            dsimp only at henter ⊢
            split at henter
            · rename_i hdirectory
              rw [isDirectory_add, hdirectory, Bool.true_or, if_pos rfl]
              exact ih henter
            · split at henter <;> cases henter

/-- A path leads to the same place when there is one more file where a path leads to. -/
theorem resolve_add {other : String} (hadded : tree.resolve other = .ok added)
    (hresolve : tree.resolve path = .ok place) :
    (tree.add added content).resolve path = .ok place := by
  obtain ⟨hpath, above, henter, hplace⟩ := resolve_eq_ok_iff.1 hresolve
  obtain ⟨hname, hsame, hfree⟩ := placeIn_eq_ok_iff.1 hplace
  have horigin : (tree.add added content).origin (parts path) = tree.origin (parts path) := rfl
  refine resolve_eq_ok_iff.2 ⟨hpath, above, ?_, placeIn_eq_ok_iff.2 ⟨hname, hsame, ?_⟩⟩
  · rw [horigin]
    exact enter_add henter
  · rw [isDirectory_add, hfree, Bool.false_or]
    by_contra hbelow
    rw [Bool.not_eq_false, Bool.and_eq_true, List.isPrefixOf_iff_prefix, decide_eq_true_eq]
      at hbelow
    exact hbelow.2 (eq_of_prefix_of_resolve hresolve hadded hbelow.1)

/-! ## Taking a new file away -/

variable (hfree : tree.file? added = none)

include hfree

/-- No file of the tree lies where the new one does. -/
theorem ne_of_mem {file : List String × ByteArray} (hfile : file ∈ tree.files) :
    file.1 ≠ added := by
  rintro rfl
  have hne := List.lookup_eq_none_iff.1 hfree file hfile
  rw [bne_self_eq_false] at hne
  cases hne

/-- The bytes of a new file can be put into it afterwards. -/
theorem put_add (other : ByteArray) :
    (tree.add added content).put added other = tree.add added other := by
  have hsame : (tree.files.map fun (file : List String × ByteArray) ↦
      (file.1, if file.1 = added then other else file.2)) = tree.files :=
    (List.map_congr_left fun file hfile ↦ by rw [if_neg (ne_of_mem hfree hfile)]; rfl).trans
      (List.map_id tree.files)
  unfold put add
  rw [List.map_append, hsame]
  simp

/-- Taking a new file away leaves what was there before. -/
theorem drop_add : (tree.add added content).drop added = tree := by
  have hsame : (tree.files.filter fun (file : List String × ByteArray) ↦ file.1 ≠ added) =
      tree.files :=
    List.filter_eq_self.2 fun file hfile ↦ decide_eq_true (ne_of_mem hfree hfile)
  unfold drop add
  rw [List.filter_append, hsame, List.filter_cons_of_neg (by simp), List.filter_nil,
    List.append_nil]

end Add

end Numbering.FileTree
