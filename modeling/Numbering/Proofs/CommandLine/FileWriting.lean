import Numbering.CommandLine.StandardLibraries
import Numbering.Proofs.CommandLine.NumberFile
import Numbering.Proofs.CommandLine.Replacement

/-!
# What a run leaves of the files

A run among the files of a tree ends in one of four ways: it does not get past its command line, it
fails on the text, it prints the edited text, or it replaces its file. In the last way the file is
replaced as a whole or the run fails, so that no run damages a file (`files_undamaged`).
-/

namespace Numbering.NumberFile

variable [Libraries] {faults : FileFaults} {process : Nat} {arguments : List String}
  {tree : FileTree} {input : ByteArray} {environment : Environment} {options : Options}
  {outcome : RunOutcome} {shown : String} {edited : MarkedText}

/-! ## The four ways to end -/

/-- A run that has no file to replace leaves the tree. -/
theorem runAmong_of_replaced_none
    (hrun : run arguments (.among faults tree input environment) = outcome)
    (hreplaced : outcome.replaced = none) :
    runAmong faults process arguments tree input environment = (outcome, tree) := by
  unfold runAmong carryOut
  dsimp only
  rw [hrun, hreplaced]
  rfl

/-- A run that does not get past its command line. -/
theorem runAmong_of_parse_error (hparse : Options.parse arguments = .error outcome) :
    runAmong faults process arguments tree input environment = (outcome, tree) := by
  refine runAmong_of_replaced_none ?_ (Options.of_parse_eq_error hparse).1
  rw [run_eq, hparse]

omit [Libraries] in
/-- What replacing the file of a run comes to is what the run comes to. -/
theorem run_carryOut_of_replaced {path content : String} {result : Except FileError Unit}
    {after : FileTree} (hreplaced : outcome.replaced = some (path, content))
    (hreplace : tree.replace faults process path content.toUTF8 = (result, after)) :
    (carryOut (FileTree.operations faults) process outcome).run tree =
      (match result with
        | .ok () => outcome
        | .error error => (writeFailure path error).afterErrors outcome.errors, after) := by
  have hstep : ((FileTree.operations faults).replace process path content.toUTF8).run tree =
      (result, after) := hreplace
  unfold carryOut
  rw [hreplaced]
  dsimp only
  rw [FileTree.run_bind_of_run hstep]
  cases result <;> rfl

section Parsed

variable (hparse : Options.parse arguments = .ok options)

include hparse

/-- A run that fails on the text. -/
theorem runAmong_of_edit_error
    (hedit : edit options (.among faults tree input environment) = .error outcome) :
    runAmong faults process arguments tree input environment = (outcome, tree) := by
  refine runAmong_of_replaced_none ?_ (isFailure_of_edit hedit).replaced
  rw [run_eq, hparse]
  dsimp only
  rw [hedit]

variable (hedit : edit options (.among faults tree input environment) = .ok (shown, edited))

include hedit

/-- A run that edits its text goes on to write it. -/
theorem run_of_edit : run arguments (.among faults tree input environment) =
    (finish options edited).afterErrors shown := by
  rw [run_eq, hparse]
  dsimp only
  rw [hedit]

/-- A run that prints the edited text. -/
theorem runAmong_of_printing (hprinting : options.textFromInput = true ∨ options.dryRun = true) :
    runAmong faults process arguments tree input environment =
      ((RunOutcome.plain 0 edited.text "").afterErrors shown, tree) := by
  refine runAmong_of_replaced_none ?_ rfl
  rw [run_of_edit hparse hedit]
  unfold finish
  rw [if_pos hprinting]

/-- A run that replaces its file, or fails to. -/
theorem runAmong_of_file (process : Nat) (hinput : options.textFromInput = false)
    (hdry : options.dryRun = false) :
    ∃ place present, tree.locate options.file = .ok (place, present) ∧
      (runAmong faults process arguments tree input environment =
          (RunOutcome.afterErrors shown
            ⟨0, String.join (edited.marks.map (· ++ "\n")), "", some (options.file, edited.text)⟩,
            tree.put place edited.text.toUTF8) ∨
        ∃ error after, runAmong faults process arguments tree input environment =
            ((writeFailure options.file error).afterErrors shown, after) ∧
          (after = tree ∨ tree.LeavesTemporary faults process options.file after)) := by
  obtain ⟨present, hread⟩ := exists_read_of_isEdit (isEdit_of_edit hedit) hinput
  obtain ⟨place, hlocate⟩ := FileTree.exists_locate_of_readUnder hread
  refine ⟨place, present, hlocate, ?_⟩
  have hnotPrinting : ¬ (options.textFromInput = true ∨ options.dryRun = true) := by
    rw [hinput, hdry]
    simp
  let written : RunOutcome :=
    ⟨0, String.join (edited.marks.map (· ++ "\n")), "", some (options.file, edited.text)⟩
  have hfinish : finish options edited = written := if_neg hnotPrinting
  have hwritten : (written.afterErrors shown).replaced = some (options.file, edited.text) := rfl
  have herrors : (written.afterErrors shown).errors = shown := String.append_empty
  unfold runAmong
  dsimp only
  rw [run_of_edit hparse hedit, hfinish]
  rcases FileTree.replace_cases faults process hlocate edited.text.toUTF8 with
    hreplace | ⟨error, after, hreplace, hafter⟩
  · exact .inl (run_carryOut_of_replaced hwritten hreplace)
  · refine .inr ⟨error, after, ?_, hafter⟩
    rw [run_carryOut_of_replaced hwritten hreplace, herrors]

/-- A run that is in none of the modes that print, and does not fail, replaces its file. -/
theorem exists_put_of_file (hinput : options.textFromInput = false) (hdry : options.dryRun = false)
    (hcode : (runAmong faults process arguments tree input environment).1.code = 0) :
    ∃ place present, tree.locate options.file = .ok (place, present) ∧
      (runAmong faults process arguments tree input environment).1.output =
        String.join (edited.marks.map (· ++ "\n")) ∧
      (runAmong faults process arguments tree input environment).2 =
        tree.put place edited.text.toUTF8 := by
  obtain ⟨place, present, hlocate, hrun | ⟨error, after, hrun, -⟩⟩ :=
    runAmong_of_file hparse hedit process hinput hdry
  · exact ⟨place, present, hlocate, by rw [hrun]; rfl, by rw [hrun]⟩
  · rw [hrun] at hcode
    cases hcode

/-- A run that fails leaves all files as they are, but for the temporary one. -/
theorem tree_of_failure
    (hcode : (runAmong faults process arguments tree input environment).1.code ≠ 0) :
    (runAmong faults process arguments tree input environment).2 = tree ∨
      tree.LeavesTemporary faults process options.file
        (runAmong faults process arguments tree input environment).2 := by
  by_cases hprinting : options.textFromInput = true ∨ options.dryRun = true
  · rw [runAmong_of_printing hparse hedit hprinting]
    exact .inl rfl
  · rw [not_or, Bool.not_eq_true, Bool.not_eq_true] at hprinting
    obtain ⟨place, present, -, hrun | ⟨error, after, hrun, hafter⟩⟩ :=
      runAmong_of_file hparse hedit process hprinting.1 hprinting.2
    · rw [hrun] at hcode
      exact absurd rfl hcode
    · rw [hrun]
      exact hafter

end Parsed

/-- The options under which no file is written. -/
def keepingWords : List String := ["--help", "-h", "--dry-run", "--stdin"]

omit [Libraries] in
/-- A command line asks for one of the modes that write no file by a word of its own, and is not
read to its end when it asks for help. -/
theorem mem_keepingWords_iff (hparse : Options.parse arguments = .ok options) :
    (∃ word ∈ keepingWords, word ∈ Options.wordsOf arguments) ↔
      options.textFromInput = true ∨ options.dryRun = true := by
  have hfollow := Options.followFrom_of_parseFrom (Options.parse_eq_ok_iff.1 hparse).1
  have hdry : options.dryRun = true ↔ "--dry-run" ∈ Options.wordsOf arguments := by
    simpa [Options.unset] using hfollow.dryRun
  have hinput : options.textFromInput = true ↔ "--stdin" ∈ Options.wordsOf arguments := by
    simpa [Options.unset] using hfollow.textFromInput
  rw [hdry, hinput]
  constructor
  · rintro ⟨word, hkeeping, hword⟩
    simp only [keepingWords, List.mem_cons, List.not_mem_nil, or_false] at hkeeping
    rcases hkeeping with rfl | rfl | rfl | rfl
    · exact absurd hword hfollow.help.1
    · exact absurd hword hfollow.help.2
    · exact .inr hword
    · exact .inl hword
  · rintro (hword | hword)
    · exact ⟨_, by simp [keepingWords], hword⟩
    · exact ⟨_, by simp [keepingWords], hword⟩

omit [Libraries] in
/-- Without any of these words, the run is in the mode that writes its file. -/
theorem mode_of_not_mem (hparse : Options.parse arguments = .ok options)
    (hwords : ∀ word ∈ keepingWords, word ∉ Options.wordsOf arguments) :
    options.textFromInput = false ∧ options.dryRun = false := by
  rw [← Bool.not_eq_true, ← Bool.not_eq_true, ← not_or, ← mem_keepingWords_iff hparse]
  rintro ⟨word, hkeeping, hword⟩
  exact hwords word hkeeping hword

omit [Libraries] in
/-- A command line that does not ask for help is not read to its end only when it fails. -/
theorem code_ne_zero_of_parse_error (hparse : Options.parse arguments = .error outcome)
    (hwords : ∀ word ∈ keepingWords, word ∉ Options.wordsOf arguments) : outcome.code ≠ 0 := by
  intro hcode
  rcases (Options.of_parse_eq_error hparse).2 hcode with hhelp | hhelp
  · exact absurd hhelp (hwords _ (by simp [keepingWords]))
  · exact absurd hhelp (hwords _ (by simp [keepingWords]))

/-- No run damages a file, whatever the operating system refuses on the way. A run that is asked for
help, or that prints the edited text, leaves all files as they are. So does a run that fails, unless
the operating system refuses to remove the temporary file: the most that can be left then is that
file, in the directory of the named one and beside all files as they were. Any other run changes the
file that is named last, and nothing but its bytes: they become those of the edited text, and what
was inserted is printed line by line. -/
theorem files_undamaged (faults : FileFaults) (process : Nat) (arguments : List String)
    (tree : FileTree) (input : ByteArray) (environment : Environment) :
    let result := runAmong faults process arguments tree input environment
    ((∃ word ∈ keepingWords, word ∈ Options.wordsOf arguments) → result.2 = tree) ∧
      (result.1.code ≠ 0 → (faults.remove = none → result.2 = tree) ∧
        (result.2 ≠ tree → ∃ options, Options.parse arguments = .ok options ∧
          tree.LeavesTemporary faults process options.file result.2)) ∧
      (result.1.code = 0 → (∀ word ∈ keepingWords, word ∉ Options.wordsOf arguments) →
        ∃ options edited place present,
          Options.parse arguments = .ok options ∧ arguments.getLast? = some options.file ∧
          IsEdit options (.among faults tree input environment) edited ∧
          tree.locate options.file = .ok (place, present) ∧
          result.2 = { tree with
            files := tree.files.map fun (other, content) ↦
              (other, if other = place then edited.text.toUTF8 else content) } ∧
          result.2.read options.file = .ok edited.text.toUTF8 ∧
          result.1.output = String.join (edited.marks.map (· ++ "\n"))) := by
  intro result
  cases hparse : Options.parse arguments with
  | error outcome =>
      have hresult : result = (outcome, tree) := runAmong_of_parse_error hparse
      rw [hresult]
      refine ⟨fun _ ↦ rfl, fun _ ↦ ⟨fun _ ↦ rfl, (absurd rfl ·)⟩, fun hcode hwords ↦ ?_⟩
      exact absurd hcode (code_ne_zero_of_parse_error hparse hwords)
  | ok options =>
      cases hedit : edit options (.among faults tree input environment) with
      | error outcome =>
          have hresult : result = (outcome, tree) := runAmong_of_edit_error hparse hedit
          rw [hresult]
          refine ⟨fun _ ↦ rfl, fun _ ↦ ⟨fun _ ↦ rfl, (absurd rfl ·)⟩, fun hcode _ ↦ ?_⟩
          exact absurd hcode (isFailure_of_edit hedit).code
      | ok shownEdited =>
          obtain ⟨shown, edited⟩ := shownEdited
          refine ⟨fun hkeeping ↦ ?_, fun hcode ↦ ?_, fun hcode hwords ↦ ?_⟩
          · have hresult : result = (_, tree) :=
              runAmong_of_printing hparse hedit ((mem_keepingWords_iff hparse).1 hkeeping)
            rw [hresult]
          · have hleft := tree_of_failure hparse hedit hcode
            refine ⟨fun hremove ↦ ?_, fun hchanged ↦ ⟨options, rfl, hleft.resolve_left hchanged⟩⟩
            exact hleft.resolve_right fun htemporary ↦ htemporary.2.1 hremove
          · obtain ⟨hinput, hdry⟩ := mode_of_not_mem hparse hwords
            have hfollow := Options.followFrom_of_parseFrom (Options.parse_eq_ok_iff.1 hparse).1
            obtain ⟨place, present, hlocate, houtput, hput⟩ :=
              exists_put_of_file hparse hedit hinput hdry hcode
            have htree : result.2 = tree.put place edited.text.toUTF8 := hput
            refine ⟨options, edited, place, present, rfl, hfollow.file, isEdit_of_edit hedit,
              hlocate, htree, ?_, houtput⟩
            rw [htree, FileTree.read_put hlocate]

/-- A file in a directory, another one in the directory above, and a working directory. -/
def sampleTree : FileTree := ⟨["home"], [], [(["tmp", "a"], "xy\nz".toUTF8), (["b"], .empty)]⟩

/-- A command line that leads to the file from the root. -/
def sampleArguments : List String := ["--pattern", "y|z", "/tmp/a"]

/-- Renaming is refused. -/
def renameFault : FileFaults := { FileFaults.none with rename := some (.refused "busy") }

omit [Libraries] in
/-- The file is numbered. It stays as it is when the temporary file cannot be renamed, and that one
is left when it cannot be removed either. -/
theorem files_undamaged_numbered :
    letI := Libraries.standard
    let numbered := runAmong .none 7 sampleArguments sampleTree .empty .unset
    let stopped := runAmong renameFault 7 sampleArguments sampleTree .empty .unset
    let left := runAmong { renameFault with remove := some (.refused "busy") } 7 sampleArguments
      sampleTree .empty .unset
    (numbered.1.output = "0\n1\n" ∧
        numbered.2 = ⟨["home"], [], [(["tmp", "a"], "x0\n1".toUTF8), (["b"], .empty)]⟩) ∧
      (stopped.1.code = 1 ∧ stopped.2 = sampleTree) ∧
      left.1.code = 1 ∧ left.2.files =
        sampleTree.files ++ [(["tmp", ".a.insertnum.7.0"], "x0\n1".toUTF8)] := by
  let := Libraries.standard
  intro numbered stopped left
  refine ⟨?_, ?_, ?_⟩
  · have hcode : numbered.1.code = 0 := by decide +kernel
    obtain ⟨options, edited, place, present, -, hlast, -, hlocate, htree, hread, -⟩ :=
      (files_undamaged .none 7 sampleArguments sampleTree .empty .unset).2.2 hcode
        (by decide +kernel)
    have hfile : options.file = "/tmp/a" := (Option.some.inj hlast).symm
    have hplace : sampleTree.locate "/tmp/a" = .ok (["tmp", "a"], "xy\nz".toUTF8) := by
      decide +kernel
    have hbytes : numbered.2.read "/tmp/a" = .ok "x0\n1".toUTF8 := by decide +kernel
    rw [hfile] at hlocate hread
    cases hplace.symm.trans hlocate
    refine ⟨by decide +kernel, ?_⟩
    rw [htree, Except.ok.inj (hread.symm.trans hbytes)]
    rfl
  · have hcode : stopped.1.code = 1 := by decide +kernel
    obtain ⟨-, hfailed, -⟩ :=
      files_undamaged renameFault 7 sampleArguments sampleTree .empty .unset
    exact ⟨hcode, (hfailed (by rw [hcode]; decide)).1 rfl⟩
  · exact ⟨by decide +kernel, by decide +kernel⟩

end Numbering.NumberFile
