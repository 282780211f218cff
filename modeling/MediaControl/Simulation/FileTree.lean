import MediaControl.Files

/-!
# Trees of files

Directories and files in memory, and the ways to them.  A path is walked name by name from the root,
or from where the program stands; every place on the way has to be a directory.
-/

set_option autoImplicit false

namespace MediaControl

/-- A place among files: the names on the way to it from the root. -/
abbrev Place := List String

/-- Directories and files, each by its place; the null device is one of the files. -/
structure FileTree where
  directories : List Place := [[], ["dev"]]
  files : List (Place × Bytes) := [(["dev", "null"], [])]
  /-- where the program stands -/
  here : Place := []

namespace FileTree

/-- How many bytes a name has at most. -/
def longestName : Nat := 255

/-- How many bytes a path has at most. -/
def longestPath : Nat := 4095

/-- Goes from a place to what bears a name there. -/
def enter (t : FileTree) (place : Place) (name : String) : Except FileFault Place :=
  if !t.directories.contains place then .error .notDirectory
  else if name = "" || name = "." then .ok place
  else if name = ".." then .ok place.dropLast
  else if longestName < name.utf8ByteSize then .error .nameTooLong
  else
    let next := place ++ [name]
    if t.directories.contains next || t.files.any (fun file => file.1 == next) then .ok next
    else .error .missing

/-- The names of a path. -/
def names (path : String) : List String := (path.toList.splitOnP (· = '/')).map .ofList

/-- The place to which a path leads. -/
def find (t : FileTree) (path : String) : Except FileFault Place :=
  if path = "" then .error .missing
  else if longestPath < path.utf8ByteSize then .error .nameTooLong
  else (names path).foldlM t.enter (if path.startsWith "/" then [] else t.here)

/-- What is in the file to which a path leads. -/
def read (t : FileTree) : Files := fun path => do
  let place ← t.find path
  match t.files.lookup place with
  | some bytes => return bytes
  | none => throw .isDirectory

/-- Makes a directory and those on the way to it. -/
def addDirectory (t : FileTree) (place : Place) : FileTree :=
  { t with directories :=
      t.directories ++ (List.range place.length).map fun n => place.take (n + 1) }

/-- Makes a file and the directories on the way to it. -/
def addFile (t : FileTree) (place : Place) (bytes : Bytes) : FileTree :=
  let t := t.addDirectory place.dropLast
  { t with files := t.files ++ [(place, bytes)] }

end FileTree

end MediaControl
