import Reflash.Bytes.Basic
import Reflash.Error

/-!
# A tree of files

A file tree is what a program sees of the file system: regular files and directories, each under
the list of names that leads to it from the root, and the working directory, in which a path starts
that does not start at the root. Paths are followed name by name.
-/

namespace Reflash

/-- What a name may stand for. -/
inductive FileTree.Entry where
  | directory
  | file (content : Bytes)
  deriving DecidableEq, Repr

/-- Files and directories below the root, which itself is always there. -/
structure FileTree where
  /-- Each entry under the names that lead to it from the root. -/
  entries : List (List String × FileTree.Entry)
  /-- The names that lead from the root to the working directory. -/
  workingDirectory : List String
  deriving DecidableEq, Repr

namespace FileTree

/-- A tree with nothing in it but a working directory. -/
def empty : FileTree where
  entries := [(["tmp"], .directory), (["tmp", "reflash-work"], .directory)]
  workingDirectory := ["tmp", "reflash-work"]

/-- The entry under a list of names. -/
def find? (tree : FileTree) : List String → Option Entry
  | [] => some .directory
  | names => tree.entries.lookup names

/-- The tree with `entry` under `names`, in place of what was there. -/
def insert (tree : FileTree) (names : List String) (entry : Entry) : FileTree :=
  { tree with entries := (names, entry) :: tree.entries.filter (·.1 ≠ names) }

/-- The longest name that a directory can hold, in bytes of UTF-8. -/
def maxNameSize : Nat := 255

/-- The longest path that can be followed, in bytes of UTF-8. -/
def maxPathSize : Nat := 4095

/-- Whether there is a directory under a list of names. -/
def isDirectory (tree : FileTree) (names : List String) : Bool :=
  tree.find? names = some .directory

/-- Follows one name from a place. An empty name and a single dot stay where they are, two dots
go up, though not beyond the root; all of them need a directory to start from. -/
def follow (tree : FileTree) (place : List String) (name : String) :
    Except FileFault (List String) :=
  if ¬ tree.isDirectory place then .error .notADirectory
  else if name = "" ∨ name = "." then .ok place
  else if name = ".." then .ok place.dropLast
  else if maxNameSize < name.utf8ByteSize then .error .nameTooLong
  else
    match tree.find? (place ++ [name]) with
    | none => .error .notFound
    | some _ => .ok (place ++ [name])

/-- Follows names one after the other. -/
def followAll (tree : FileTree) : List String → List String → Except FileFault (List String)
  | place, [] => .ok place
  | place, name :: rest =>
    match tree.follow place name with
    | .error fault => .error fault
    | .ok place => followAll tree place rest

/-- The names in a path, empty ones included. -/
def pathNames (path : String) : List String :=
  let rec go (name : List Char) : List Char → List String
    | [] => [String.ofList name.reverse]
    | c :: rest =>
      if c = '/' then String.ofList name.reverse :: go [] rest else go (c :: name) rest
  go [] path.toList

/-- Where a path starts, and the names that it goes through. A path that starts with a slash
starts at the root, every other path in the working directory. -/
def origin (tree : FileTree) (path : String) : Except FileFault (List String × List String) :=
  if path.toList.contains '\x00' then .error .nulInPath
  else if path = "" then .error .notFound
  else if maxPathSize < path.utf8ByteSize then .error .nameTooLong
  else
    match pathNames path with
    | "" :: rest => .ok ([], rest)
    | names => .ok (tree.workingDirectory, names)

/-- Where a path leads. -/
def resolve (tree : FileTree) (path : String) : Except FileFault (List String) :=
  match tree.origin path with
  | .error fault => .error fault
  | .ok (start, names) => tree.followAll start names

/-- The names that lead to the regular file at a path, and its content. -/
def open? (tree : FileTree) (path : String) : Except FileFault (List String × Bytes) :=
  match tree.resolve path with
  | .error fault => .error fault
  | .ok names =>
    match tree.find? names with
    | some (.file content) => .ok (names, content)
    | _ => .error .isADirectory

/-- The content of the regular file at a path. -/
def read (tree : FileTree) (path : String) : Except FileFault Bytes :=
  (tree.open? path).map (·.2)

/-- Overwrites the regular file at a path from `offset` on. -/
def writeAt (tree : FileTree) (path : String) (offset : Nat) (patch : Bytes) :
    Except FileFault FileTree :=
  (tree.open? path).map fun (names, content) =>
    tree.insert names (.file (content.overwrite offset patch))

/-- Follows names one after the other, and makes a directory wherever nothing is found. -/
def makeAll : FileTree → List String → List String → Except FileFault FileTree
  | tree, place, [] => if tree.isDirectory place then .ok tree else .error .notADirectory
  | tree, place, name :: rest =>
    match tree.follow place name with
    | .ok next => makeAll tree next rest
    | .error .notFound =>
      makeAll (tree.insert (place ++ [name]) .directory) (place ++ [name]) rest
    | .error fault => .error fault

/-- The tree with a directory at a path, and with those that lead to it. -/
def makeDirectory (tree : FileTree) (path : String) : Except FileFault FileTree :=
  match tree.origin path with
  | .error fault => .error fault
  | .ok (start, names) => tree.makeAll start names

/-- The tree with a regular file of the given name in a directory, in place of a regular file that
is there already. -/
def writeIn (tree : FileTree) (directory : List String) (name : String) (content : Bytes) :
    Except FileFault FileTree :=
  match tree.follow directory name with
  | .ok names =>
    match tree.find? names with
    | some (.file _) => .ok (tree.insert names (.file content))
    | _ => .error .isADirectory
  | .error .notFound => .ok (tree.insert (directory ++ [name]) (.file content))
  | .error fault => .error fault

/-- The tree with a regular file at a path. The directory that it lies in has to be there. -/
def writeFile (tree : FileTree) (path : String) (content : Bytes) : Except FileFault FileTree :=
  match tree.origin path with
  | .error fault => .error fault
  | .ok (start, names) =>
    match tree.followAll start names.dropLast with
    | .error fault => .error fault
    | .ok directory => tree.writeIn directory (names.getLast?.getD "") content

end FileTree

end Reflash
