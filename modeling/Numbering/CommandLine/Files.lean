/-!
# Files

What a command line sees of the files around it: the bytes under a path, or the reason why there
are none. A file tree holds directories and files by their places, which are the names on the way
from the root. A path is followed part by part, from the root when it starts with a slash, and
otherwise from the working directory.
-/

namespace Numbering

/-- Why a file cannot be read or written. The operating system may refuse for reasons of its own. -/
inductive FileError where
  | notFound
  | notDirectory
  | isDirectory
  | nameTooLong
  | alreadyExists
  | invalidUtf8
  | refused (reason : String)
deriving DecidableEq

/-- The message of an error. -/
def FileError.message : FileError → String
  | .notFound => "No such file or directory (os error 2)"
  | .notDirectory => "Not a directory (os error 20)"
  | .isDirectory => "Is a directory (os error 21)"
  | .nameTooLong => "File name too long (os error 36)"
  | .alreadyExists => "entity already exists"
  | .invalidUtf8 => "stream did not contain valid UTF-8"
  | .refused reason => reason

/-- The directories and files below the root, and the directory where paths without a slash at the
front start. Whatever lies on the way to one of them is a directory. -/
structure FileTree where
  workingDirectory : List String
  directories : List (List String)
  files : List (List String × ByteArray)

namespace FileTree

/-- The parts of a path between its slashes. -/
def parts (path : String) : List String := (path.toList.splitOn '/').map String.ofList

/-- The bytes of the file in a place. -/
def file? (tree : FileTree) (place : List String) : Option ByteArray := tree.files.lookup place

/-- A directory is the root, or on the way to the working directory, to another directory or to a
file. -/
def isDirectory (tree : FileTree) (place : List String) : Bool :=
  place.isEmpty || place.isPrefixOf tree.workingDirectory ||
    tree.directories.any (place.isPrefixOf ·) ||
    tree.files.any fun (other, _) ↦ place.isPrefixOf other && decide (place ≠ other)

/-- The greatest length in bytes of one part of a path. -/
def partLimit : Nat := 255

/-- The greatest length in bytes of a path. -/
def pathLimit : Nat := 4095

/-- Follow the parts of a path, each of which has to lead to a directory, from a directory. The root
is the directory above itself. -/
def enter (tree : FileTree) (place : List String) :
    List String → Except FileError (List String)
  | [] => .ok place
  | part :: rest =>
      if part = "" ∨ part = "." then tree.enter place rest
      else if part = ".." then tree.enter place.dropLast rest
      else if partLimit < part.utf8ByteSize then .error .nameTooLong
      else
        let next := place ++ [part]
        if tree.isDirectory next then tree.enter next rest
        else if (tree.file? next).isSome then .error .notDirectory
        else .error .notFound

/-- The place in a directory that the last part of a path leads to. A file may lie there or not, but
no directory. -/
def placeIn (tree : FileTree) (place : List String) (part : String) :
    Except FileError (List String) :=
  if part = "" ∨ part = "." ∨ part = ".." then .error .isDirectory
  else if partLimit < part.utf8ByteSize then .error .nameTooLong
  else if tree.isDirectory (place ++ [part]) then .error .isDirectory
  else .ok (place ++ [part])

/-- The directory where a path with these parts starts. In front of a slash at the front of a path
there is nothing. -/
def origin (tree : FileTree) : List String → List String
  | "" :: _ :: _ => []
  | _ => tree.workingDirectory

/-- The place that a path leads to. -/
def resolve (tree : FileTree) (path : String) : Except FileError (List String) :=
  if path = "" then .error .notFound
  else if pathLimit < path.utf8ByteSize then .error .nameTooLong
  else
    match tree.enter (tree.origin (parts path)) (parts path).dropLast with
    | .ok above => tree.placeIn above ((parts path).getLastD "")
    | .error error => .error error

/-- The place and the bytes of the file that a path leads to. -/
def locate (tree : FileTree) (path : String) : Except FileError (List String × ByteArray) :=
  match tree.resolve path with
  | .error error => .error error
  | .ok place =>
      match tree.file? place with
      | some content => .ok (place, content)
      | none => .error .notFound

/-- The bytes of the file that a path leads to. -/
def read (tree : FileTree) (path : String) : Except FileError ByteArray :=
  (tree.locate path).map fun (_, content) ↦ content

/-- Put other bytes into the file in a place. -/
def put (tree : FileTree) (place : List String) (content : ByteArray) : FileTree :=
  { tree with files := tree.files.map fun (other, present) ↦
      (other, if other = place then content else present) }

/-- Add a file. -/
def add (tree : FileTree) (place : List String) (content : ByteArray) : FileTree :=
  { tree with files := tree.files ++ [(place, content)] }

/-- Take a file away. -/
def drop (tree : FileTree) (place : List String) : FileTree :=
  { tree with files := tree.files.filter fun (other, _) ↦ other ≠ place }

end FileTree

end Numbering
