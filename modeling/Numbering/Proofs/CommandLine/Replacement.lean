import Numbering.CommandLine.Replacement
import Numbering.Proofs.CommandLine.Files
import Numbering.Proofs.Text.Digits

/-!
# Replaced files

A file of a tree is replaced as a whole, or the tree stays as it is (`FileTree.replace_cases`). The
temporary file lies in the directory of the file (`FileTree.eq_of_resolve_temporaryPath`) and under
no name that was taken, so it gets in the way of no path, and removing or renaming it leaves nothing
of it behind. Only when the operating system refuses to finish and then to remove the temporary file
as well, that one stays.
-/

namespace Numbering

namespace FileOperations

open FileTree (SlashFree parts)

/-! ## Where the temporary file lies -/

/-- The parts behind the first one without those at the end that say nothing. -/
def trimTail (rest : List String) : List String :=
  (rest.reverse.dropWhile fun part ↦ part = "" || part = ".").reverse

/-- The first part of a path is kept, and only parts behind it are trimmed. -/
theorem trim_cons (first : String) (rest : List String) :
    trim (first :: rest) = first :: trimTail rest := rfl

/-- A part at the end is trimmed off when it says nothing, and otherwise all parts are kept. -/
theorem trimTail_concat (rest : List String) (part : String) :
    trimTail (rest ++ [part]) =
      if part = "" ∨ part = "." then trimTail rest else rest ++ [part] := by
  unfold trimTail
  rw [List.reverse_append, List.reverse_singleton, List.singleton_append, List.dropWhile_cons]
  by_cases hsilent : part = "" ∨ part = "."
  · simp [hsilent]
  · simp [hsilent]

/-- Nothing is trimmed off parts that end with a name. -/
theorem trim_concat {front : List String} {name : String} (hname : FileTree.IsName name) :
    trim (front ++ [name]) = front ++ [name] := by
  obtain ⟨hempty, hsame, -⟩ := hname
  cases front with
  | nil => rfl
  | cons first rest =>
      rw [List.cons_append, trim_cons, trimTail_concat, if_neg (by simp [hempty, hsame])]

/-- Trimming leaves none but parts of the path. -/
theorem mem_of_mem_trim {place : List String} {part : String} (hpart : part ∈ trim place) :
    part ∈ place := by
  cases place with
  | nil => exact hpart
  | cons first rest =>
      rw [trim_cons] at hpart
      rcases List.mem_cons.1 hpart with rfl | hrest
      · exact List.mem_cons_self
      · have hsubset := (List.dropWhile_suffix fun part : String ↦ part = "" || part = ".").subset
          (List.mem_reverse.1 hrest)
        exact List.mem_cons_of_mem first (List.mem_reverse.1 hsubset)

/-- The parts of the path of a directory hold no slash. -/
theorem slashFree_parent (path : String) : SlashFree (parent path) :=
  fun part hpart ↦ FileTree.slashFree_parts path part
    (mem_of_mem_trim (List.mem_of_mem_dropLast (mem_of_mem_trim hpart)))

/-- The name of a file holds no slash. -/
theorem not_mem_nameOf (path : String) : '/' ∉ (nameOf path).toList := by
  unfold nameOf
  dsimp only
  split
  · decide
  · rename_i hname
    have hmem : (trim (parts path)).getLastD "" ∈ trim (parts path) := by
      cases hlast : (trim (parts path)).getLast? with
      | none => simp [List.getLastD_eq_getLast?, hlast] at hname
      | some last =>
          rw [List.getLastD_eq_getLast?, hlast]
          exact List.mem_of_getLast? hlast
    exact FileTree.slashFree_parts path _ (mem_of_mem_trim hmem)

/-- A numeral holds no slash. -/
theorem not_mem_text (value : Nat) : '/' ∉ (Digits.text value).toList := by
  intro hslash
  rw [Digits.text, String.toList_ofList] at hslash
  have hdigit := (Digits.isRun_numeral value).isDigit '/' hslash
  exact absurd hdigit (by decide)

/-- The path of a temporary file is that of a directory and a name. -/
theorem parts_temporaryPath (process attempt : Nat) (path : String) :
    parts (temporaryPath process attempt path) =
      parent path ++ [temporaryName process attempt path] := by
  refine FileTree.parts_intercalate (List.concat_ne_nil _ _)
    ((slashFree_parent path).append_singleton ?_)
  have hmiddle : '/' ∉ ".insertnum.".toList := by decide
  have hdot : '/' ∉ ".".toList := by decide
  unfold temporaryName
  simp only [String.toList_append, List.mem_append, not_or]
  exact ⟨⟨⟨⟨⟨hdot, not_mem_nameOf path⟩, hmiddle⟩, not_mem_text process⟩, hdot⟩,
    not_mem_text attempt⟩

end FileOperations

namespace FileTree

open FileOperations

variable {tree : FileTree} {path temporary : String} {place other : List String}
  {present content : ByteArray}

/-- Parts are followed one after the other. -/
theorem enter_append (place front back : List String) : tree.enter place (front ++ back) =
    (tree.enter place front).bind fun above ↦ tree.enter above back := by
  induction front generalizing place with
  | nil => rfl
  | cons part front ih =>
      simp only [List.cons_append, enter, ih]
      split_ifs <;> rfl

/-- Parts at the end that say nothing lead nowhere else. -/
theorem enter_trimTail (place rest : List String) :
    tree.enter place (trimTail rest) = tree.enter place rest := by
  induction rest using List.reverseRecOn with
  | nil => rfl
  | append_singleton rest part ih =>
      rw [trimTail_concat]
      split
      · rename_i hsilent
        have hstay : ∀ above, tree.enter above [part] = .ok above := by
          intro above
          rw [enter, if_pos hsilent, enter]
        rw [ih, enter_append]
        cases tree.enter place rest with
        | error error => rfl
        | ok above => exact (hstay above).symm
      · rfl

/-- A trimmed path leads through the same directories. -/
theorem enter_trim (place front : List String) :
    tree.enter place (trim front) = tree.enter place front := by
  cases front with
  | nil => rfl
  | cons first rest =>
      rw [trim_cons, ← List.singleton_append, enter_append]
      simp only [enter_trimTail]
      exact (enter_append place [first] rest).symm

/-- A path starts where its directory does. -/
theorem origin_trim (front : List String) (name last : String) :
    tree.origin (trim front ++ [name]) = tree.origin (front ++ [last]) := by
  cases front with
  | nil => simp [trim, origin]
  | cons first rest =>
      rw [trim_cons]
      by_cases hroot : first = ""
      · subst hroot
        cases trimTail rest <;> cases rest <;> rfl
      · simp [origin, hroot]

/-- The temporary file lies in the directory of the file. -/
theorem eq_of_resolve_temporaryPath {process attempt : Nat}
    (hresolve : tree.resolve path = .ok place)
    (htemporary : tree.resolve (temporaryPath process attempt path) = .ok other) :
    other = place.dropLast ++ [temporaryName process attempt path] := by
  obtain ⟨-, above, henter, hplace⟩ := resolve_eq_ok_iff.1 hresolve
  obtain ⟨-, beside, hbeside, hother⟩ := resolve_eq_ok_iff.1 htemporary
  obtain ⟨hname, rfl, -⟩ := placeIn_eq_ok_iff.1 hplace
  obtain ⟨-, rfl, -⟩ := placeIn_eq_ok_iff.1 hother
  obtain ⟨front, last, hparts⟩ : ∃ front last, parts path = front ++ [last] :=
    ⟨_, _, (List.dropLast_append_getLast (parts_ne_nil path)).symm⟩
  rw [hparts, List.dropLast_concat] at henter
  rw [hparts, List.getLastD_concat] at hname
  have hparent : parent path = trim front := by
    rw [parent, hparts, trim_concat hname, List.dropLast_concat]
  rw [parts_temporaryPath, List.dropLast_concat, hparent, enter_trim, origin_trim front _ last,
    henter] at hbeside
  rw [parts_temporaryPath, List.getLastD_concat, List.dropLast_concat, Except.ok.inj hbeside]

/-! ## The steps of the procedure -/

/-- A file that is read is found in a place. -/
theorem exists_locate_of_readUnder {faults : FileFaults}
    (hread : tree.readUnder faults path = .ok content) :
    ∃ place, tree.locate path = .ok (place, content) := by
  unfold readUnder at hread
  split at hread
  · cases hread
  · unfold read at hread
    cases hlocate : tree.locate path with
    | error error =>
        rw [hlocate] at hread
        cases hread
    | ok file =>
        rw [hlocate] at hread
        cases hread
        exact ⟨file.1, rfl⟩

/-- Creating a file puts an empty one into a free place, or changes nothing. -/
theorem create_cases (tree : FileTree) (path : String) :
    (∃ error, tree.create path = (.error error, tree)) ∨
      ∃ place, tree.resolve path = .ok place ∧ tree.file? place = none ∧
        tree.create path = (.ok place, tree.add place .empty) := by
  unfold create
  cases tree.resolve path with
  | error error => cases error <;> exact .inl ⟨_, rfl⟩
  | ok place =>
      cases hfile : tree.file? place with
      | none => exact .inr ⟨place, rfl, hfile, if_neg (by rw [hfile]; exact Bool.false_ne_true)⟩
      | some present => exact .inl ⟨.alreadyExists, if_pos (by rw [hfile]; rfl)⟩

section Added

variable (hother : tree.resolve temporary = .ok other) (hfree : tree.file? other = none)

include hother hfree

/-- A new file is found by the path that it was created by. -/
theorem locate_add_self :
    (tree.add other content).locate temporary = .ok (other, content) :=
  locate_eq_ok_iff.2 ⟨resolve_add hother hother, file?_add_self hfree⟩

/-- Removing a new file leaves nothing behind. -/
theorem remove_add : (tree.add other content).remove temporary = (.ok (), tree) := by
  unfold remove
  rw [locate_add_self hother hfree]
  exact congrArg (Prod.mk _) (drop_add hfree)

/-- Renaming a new file replaces the bytes of the other one, and nothing else. -/
theorem rename_add (hlocate : tree.locate path = .ok (place, present)) :
    (tree.add other content).rename temporary path = (.ok (), tree.put place content) := by
  obtain ⟨hresolve, hfile⟩ := locate_eq_ok_iff.1 hlocate
  unfold rename
  rw [locate_add_self hother hfree]
  dsimp only
  rw [resolve_add hother hresolve]
  dsimp only
  rw [file?_add_of_some hfile, Option.isSome_some, if_pos rfl, drop_add hfree]

end Added

/-- A step that is known leaves the steps after it. -/
theorem run_bind_of_run {σ α β : Type} {step : StateM σ α} {rest : α → StateM σ β}
    {before after : σ} {answer : α} (hstep : step.run before = (answer, after)) :
    (step >>= rest).run before = (rest answer).run after := by
  rw [StateT.run_bind, hstep]
  rfl

section Operations

variable (faults : FileFaults) (tree : FileTree)

/-- Creating a file is refused, or it is creating one in the tree. -/
theorem run_create (path : String) : ((operations faults).create path).run tree =
    match faults.create path with
    | some error => (.error error, tree)
    | none => tree.create path := rfl

/-- Filling a file is refused after some bytes, or it puts all of them into the file. -/
theorem run_fill (place : List String) (content : ByteArray) :
    ((operations faults).fill place content).run tree =
      match faults.fill with
      | some (count, error) => (.error error, tree.put place (content.extract 0 count))
      | none => (.ok (), tree.put place content) := rfl

/-- Renaming a file is refused, or it is renaming one of the tree. -/
theorem run_rename (source target : String) : ((operations faults).rename source target).run tree =
    match faults.rename with
    | some error => (.error error, tree)
    | none => tree.rename source target := rfl

/-- Removing a file is refused, or it is removing one of the tree. -/
theorem run_remove (path : String) : ((operations faults).remove path).run tree =
    match faults.remove with
    | some error => (.error error, tree)
    | none => tree.remove path := rfl

/-- The operation that creates a file does what creating it in the tree does, or is refused. -/
theorem run_create_cases (path : String) :
    (∃ error, ((operations faults).create path).run tree = (.error error, tree)) ∨
      ∃ place, tree.resolve path = .ok place ∧ tree.file? place = none ∧
        ((operations faults).create path).run tree = (.ok place, tree.add place .empty) := by
  rw [run_create]
  cases faults.create path with
  | some error => exact .inl ⟨error, rfl⟩
  | none => exact create_cases tree path

end Operations

/-- A temporary file is created in a free place, or nothing is changed. -/
theorem createTemporary_cases (faults : FileFaults) (process : Nat) (tree : FileTree)
    (path : String) (attempt attempts : Nat) :
    (∃ error, ((operations faults).createTemporary process path attempt attempts).run tree =
        (.error error, tree)) ∨
      ∃ number place, tree.resolve (temporaryPath process number path) = .ok place ∧
        tree.file? place = none ∧
        ((operations faults).createTemporary process path attempt attempts).run tree =
          (.ok (temporaryPath process number path, place), tree.add place .empty) := by
  induction attempts generalizing attempt with
  | zero => exact .inl ⟨.alreadyExists, rfl⟩
  | succ attempts ih =>
      unfold createTemporary
      rcases run_create_cases faults tree (temporaryPath process attempt path) with
        ⟨error, hcreate⟩ | ⟨place, hresolve, hfree, hcreate⟩
      · -- Only a name that is taken leads to another attempt, on the same tree.
        dsimp only
        rw [run_bind_of_run hcreate]
        by_cases htaken : error = .alreadyExists
        · rw [htaken]
          exact ih (attempt + 1)
        · refine .inl ⟨error, ?_⟩
          cases error <;> first | rfl | exact absurd rfl htaken
      · refine .inr ⟨attempt, place, hresolve, hfree, ?_⟩
        dsimp only
        rw [run_bind_of_run hcreate]
        rfl

section Steps

variable {faults : FileFaults} {process : Nat} {created filled after : FileTree}
  {error : FileError} {answer : Except FileError Unit}
  (hcreate : ((operations faults).createTemporary process path 0 attemptLimit).run tree =
    (.ok (temporary, place), created))

include hcreate

/-- When the temporary file cannot be filled, it is removed. -/
theorem replace_of_fill_error
    (hfill : ((operations faults).fill place content).run created = (.error error, filled))
    (hremove : ((operations faults).remove temporary).run filled = (answer, after)) :
    tree.replace faults process path content = (.error error, after) := by
  unfold FileTree.replace FileOperations.replace
  rw [run_bind_of_run hcreate]
  dsimp only
  rw [run_bind_of_run hfill]
  dsimp only
  rw [run_bind_of_run hremove]
  rfl

variable (hfill : ((operations faults).fill place content).run created = (.ok (), filled))

include hfill

/-- When the temporary file cannot be renamed, it is removed. -/
theorem replace_of_rename_error
    (hrename : ((operations faults).rename temporary path).run filled = (.error error, filled))
    (hremove : ((operations faults).remove temporary).run filled = (answer, after)) :
    tree.replace faults process path content = (.error error, after) := by
  unfold FileTree.replace FileOperations.replace
  rw [run_bind_of_run hcreate]
  dsimp only
  rw [run_bind_of_run hfill]
  dsimp only
  rw [run_bind_of_run hrename]
  dsimp only
  rw [run_bind_of_run hremove]
  rfl

/-- When all steps succeed, the last of them leaves the tree of the whole. -/
theorem replace_of_rename
    (hrename : ((operations faults).rename temporary path).run filled = (.ok (), after)) :
    tree.replace faults process path content = (.ok (), after) := by
  unfold FileTree.replace FileOperations.replace
  rw [run_bind_of_run hcreate]
  dsimp only
  rw [run_bind_of_run hfill]
  dsimp only
  rw [run_bind_of_run hrename]
  rfl

end Steps

/-! ## The procedure -/

/-- A temporary file for a file is left, and nothing else has changed. The operating system has
refused to fill or to rename that file, and then to remove it. -/
def LeavesTemporary (faults : FileFaults) (process : Nat) (tree : FileTree) (path : String)
    (after : FileTree) : Prop :=
  (faults.fill ≠ none ∨ faults.rename ≠ none) ∧ faults.remove ≠ none ∧
    ∃ place number content, tree.resolve path = .ok place ∧
      tree.file? (place.dropLast ++ [temporaryName process number path]) = none ∧
      after = tree.add (place.dropLast ++ [temporaryName process number path]) content

/-- Removing the temporary file leads back to the tree, or it is left. -/
theorem exists_run_remove (faults : FileFaults) {process number : Nat}
    (hresolve : tree.resolve path = .ok place)
    (hother : tree.resolve (temporaryPath process number path) = .ok other)
    (hfree : tree.file? other = none)
    (hunfinished : faults.fill ≠ none ∨ faults.rename ≠ none) (content : ByteArray) :
    ∃ answer after, ((operations faults).remove (temporaryPath process number path)).run
        (tree.add other content) = (answer, after) ∧
      (after = tree ∨ tree.LeavesTemporary faults process path after) := by
  rw [run_remove]
  cases hremove : faults.remove with
  | none => exact ⟨_, _, remove_add hother hfree, .inl rfl⟩
  | some error =>
      have hrefused : faults.remove ≠ none := by simp [hremove]
      refine ⟨_, _, rfl, .inr ⟨hunfinished, hrefused, place, number, content, hresolve, ?_⟩⟩
      rw [← eq_of_resolve_temporaryPath hresolve hother]
      exact ⟨hfree, rfl⟩

/-- A file is replaced by the new bytes and everything else stays. Or the replacement fails, and
then nothing is changed, but that the temporary file may be left. -/
theorem replace_cases (faults : FileFaults) (process : Nat)
    (hlocate : tree.locate path = .ok (place, present)) (content : ByteArray) :
    tree.replace faults process path content = (.ok (), tree.put place content) ∨
      ∃ error after, tree.replace faults process path content = (.error error, after) ∧
        (after = tree ∨ tree.LeavesTemporary faults process path after) := by
  have hresolve := (locate_eq_ok_iff.1 hlocate).1
  rcases createTemporary_cases faults process tree path 0 attemptLimit with
    ⟨error, hcreate⟩ | ⟨number, other, hother, hfree, hcreate⟩
  · refine .inr ⟨error, tree, ?_, .inl rfl⟩
    unfold FileTree.replace FileOperations.replace
    rw [run_bind_of_run hcreate]
    rfl
  · cases hfault : faults.fill with
    | some fault =>
        obtain ⟨count, error⟩ := fault
        have hfill := run_fill faults (tree.add other .empty) other content
        rw [hfault] at hfill
        dsimp only at hfill
        rw [put_add hfree] at hfill
        obtain ⟨answer, after, hremove, hafter⟩ := exists_run_remove faults hresolve hother hfree
          (.inl (by simp [hfault])) (content.extract 0 count)
        exact .inr ⟨error, after, replace_of_fill_error hcreate hfill hremove, hafter⟩
    | none =>
        have hfill := run_fill faults (tree.add other .empty) other content
        rw [hfault] at hfill
        dsimp only at hfill
        rw [put_add hfree] at hfill
        cases hrefused : faults.rename with
        | some error =>
            have hrename := run_rename faults (tree.add other content)
              (temporaryPath process number path) path
            rw [hrefused] at hrename
            obtain ⟨answer, after, hremove, hafter⟩ := exists_run_remove faults hresolve hother
              hfree (.inr (by simp [hrefused])) content
            exact .inr ⟨error, after, replace_of_rename_error hcreate hfill hrename hremove, hafter⟩
        | none =>
            refine .inl (replace_of_rename hcreate hfill ?_)
            rw [run_rename, hrefused]
            exact rename_add hother hfree hlocate

end FileTree

end Numbering
