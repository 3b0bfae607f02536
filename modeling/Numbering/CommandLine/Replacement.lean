import Numbering.CommandLine.Files
import Numbering.Text.Digits

/-!
# Replacing a file

A file is replaced by writing a temporary file beside it and renaming that one, so that at no time
there is a part of the new text under the name of the file. When something fails on the way, the
temporary file is removed again, and whether that succeeds is not looked at. The procedure is the
same for the files of the operating system and for those of a file tree, on which every step of it
may be made to fail.
-/

namespace Numbering

/-- The operations that replacing a file consists of. A new file is created empty and filled
once. -/
structure FileOperations (m : Type → Type) (Handle : Type) where
  create : String → m (Except FileError Handle)
  fill : Handle → ByteArray → m (Except FileError Unit)
  rename : String → String → m (Except FileError Unit)
  remove : String → m (Except FileError Unit)

namespace FileOperations

/-- The parts of a path up to the last one that says something. Behind the first part, an empty one
and a dot say nothing. -/
def trim : List String → List String
  | [] => []
  | first :: rest =>
      first :: (rest.reverse.dropWhile fun part ↦ part = "" || part = ".").reverse

/-- The parts of the path of the directory that a path leads into. -/
def parent (path : String) : List String := trim (trim (FileTree.parts path)).dropLast

/-- The name at the end of a path; a path without one has a stand-in. -/
def nameOf (path : String) : String :=
  let name := (trim (FileTree.parts path)).getLastD ""
  if name = "" ∨ name = "." ∨ name = ".." then "file" else name

/-- The name of a temporary file for a file. It holds the name of the file, the number of the
process, and how many names have been tried before. -/
def temporaryName (process attempt : Nat) (path : String) : String :=
  "." ++ nameOf path ++ ".insertnum." ++ Digits.text process ++ "." ++ Digits.text attempt

/-- The path of a temporary file beside a file. -/
def temporaryPath (process attempt : Nat) (path : String) : String :=
  "/".intercalate (parent path ++ [temporaryName process attempt path])

/-- The number of names that are tried for a temporary file, `2 ^ 32`. -/
def attemptLimit : Nat := 4294967296

variable {m : Type → Type} {Handle : Type} [Monad m]

/-- Create a temporary file under the first name that is not taken. -/
def createTemporary (operations : FileOperations m Handle) (process : Nat) (path : String)
    (attempt : Nat) : Nat → m (Except FileError (String × Handle))
  | 0 => pure (.error .alreadyExists)
  | attempts + 1 => do
      let temporary := temporaryPath process attempt path
      match ← operations.create temporary with
      | .ok handle => pure (.ok (temporary, handle))
      | .error .alreadyExists =>
          createTemporary operations process path (attempt + 1) attempts
      | .error error => pure (.error error)

/-- Replace a file. -/
def replace (operations : FileOperations m Handle) (process : Nat) (path : String)
    (content : ByteArray) : m (Except FileError Unit) := do
  match ← operations.createTemporary process path 0 attemptLimit with
  | .error error => pure (.error error)
  | .ok (temporary, handle) =>
      match ← operations.fill handle content with
      | .error error =>
          let _ ← operations.remove temporary
          pure (.error error)
      | .ok () =>
          match ← operations.rename temporary path with
          | .error error =>
              let _ ← operations.remove temporary
              pure (.error error)
          | .ok () => pure (.ok ())

end FileOperations

/-- What the operating system refuses: to read a file, to create one, to write more than the first
bytes of one, to rename one, or to remove one. -/
structure FileFaults where
  read : String → Option FileError
  create : String → Option FileError
  fill : Option (Nat × FileError)
  rename : Option FileError
  remove : Option FileError

/-- Nothing is refused. -/
def FileFaults.none : FileFaults := ⟨fun _ ↦ .none, fun _ ↦ .none, .none, .none, .none⟩

namespace FileTree

/-- The bytes of a file, unless the operating system refuses to read it. -/
def readUnder (faults : FileFaults) (tree : FileTree) (path : String) :
    Except FileError ByteArray :=
  match faults.read path with
  | some error => .error error
  | none => tree.read path

/-- Create an empty file, if nothing is in its place yet. -/
def create (tree : FileTree) (path : String) : Except FileError (List String) × FileTree :=
  match tree.resolve path with
  | .error .isDirectory => (.error .alreadyExists, tree)
  | .error error => (.error error, tree)
  | .ok place =>
      if (tree.file? place).isSome then (.error .alreadyExists, tree)
      else (.ok place, tree.add place .empty)

/-- Move a file into the place of another one. -/
def rename (tree : FileTree) (source target : String) : Except FileError Unit × FileTree :=
  match tree.locate source with
  | .error error => (.error error, tree)
  | .ok (moved, content) =>
      match tree.resolve target with
      | .error error => (.error error, tree)
      | .ok place =>
          if (tree.file? place).isSome then (.ok (), (tree.drop moved).put place content)
          else (.ok (), (tree.drop moved).add place content)

/-- Remove the file that a path leads to. -/
def remove (tree : FileTree) (path : String) : Except FileError Unit × FileTree :=
  match tree.locate path with
  | .error error => (.error error, tree)
  | .ok (place, _) => (.ok (), tree.drop place)

/-- The operations on the files of a tree, some of which the operating system refuses. -/
def operations (faults : FileFaults) : FileOperations (StateM FileTree) (List String) where
  create path := modifyGet fun tree ↦
    match faults.create path with
    | some error => (.error error, tree)
    | none => tree.create path
  fill place content := modifyGet fun tree ↦
    match faults.fill with
    | some (count, error) => (.error error, tree.put place (content.extract 0 count))
    | none => (.ok (), tree.put place content)
  rename source target := modifyGet fun tree ↦
    match faults.rename with
    | some error => (.error error, tree)
    | none => tree.rename source target
  remove path := modifyGet fun tree ↦
    match faults.remove with
    | some error => (.error error, tree)
    | none => tree.remove path

/-- Replace a file of a tree; the answer holds the tree afterwards. -/
def replace (faults : FileFaults) (process : Nat) (tree : FileTree) (path : String)
    (content : ByteArray) : Except FileError Unit × FileTree :=
  ((operations faults).replace process path content).run tree

end FileTree

end Numbering
