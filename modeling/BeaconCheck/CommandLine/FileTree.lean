import BeaconCheck.Yaml.Document

/-!
# File trees

The files that a command can read and the places that it can write to. Nothing is known
about the rest of the tree but that the folders above the working folder exist.

* `FileTree.read` gives the bytes of a file.
* `FileTree.write` puts a file into the tree or replaces one.
-/

namespace BeaconCheck

/-- Files and folders by their paths from the root, and how the contents of a file are handed
out to a reader of documents. -/
structure FileTree where
  files : List (List String × List UInt8) := []
  /-- Folders that hold none of the files. -/
  folders : List (List String) := []
  /-- The working folder, where a relative path begins. -/
  here : List String := []
  supply : List UInt8 → Yaml.Supply := fun _ => {}
deriving Inhabited

namespace FileTree

/-- What a path leads to. -/
inductive Target where
  | file (path : List String) (bytes : List UInt8)
  | folder
  /-- There is nothing yet at the path, but the folder it would be in is there. -/
  | vacant (path : List String)
  | nowhere (problem : PathProblem)
deriving DecidableEq, Repr, Inhabited

/-- The longest part of a path, and the longest path, in bytes. -/
def longestPart : Nat := 255

@[inherit_doc longestPart]
def longestPath : Nat := 4095

/-- There is a folder at a path. -/
def isFolder (tree : FileTree) (path : List String) : Bool :=
  path.isPrefixOf tree.here || tree.folders.any path.isPrefixOf ||
    tree.files.any fun p => path.isPrefixOf p.1 && path != p.1

/-- Follows the parts of a path from a folder on. The root is its own parent. -/
def follow (tree : FileTree) : (start : List String) → (parts : List String) → Target
  | _, [] => .folder
  | start, part :: rest =>
    if part = "" ∨ part = "." then tree.follow start rest
    else if part = ".." then tree.follow start.dropLast rest
    else if longestPart < part.utf8ByteSize then .nowhere .nameTooLong
    else
      let path := start ++ [part]
      match tree.files.lookup path with
      -- nothing is inside of a file, not even the file itself
      | some bytes => if rest.isEmpty then .file path bytes else .nowhere .notDirectory
      | none =>
        if tree.isFolder path then tree.follow path rest
        else if rest.isEmpty then .vacant path
        else .nowhere .missing

/-- The parts of a path. -/
def parts (path : String) : List String := path.splitOn "/"

/-- The folder that a path begins in. -/
def start (tree : FileTree) (path : String) : List String :=
  if path.startsWith "/" then [] else tree.here

/-- What a path leads to. -/
def target (tree : FileTree) (path : String) : Target :=
  if longestPath < path.utf8ByteSize then .nowhere .nameTooLong
  else tree.follow (tree.start path) (parts path)

/-- The bytes of the file at a path. -/
def read (tree : FileTree) (path : String) : Except PathProblem (List UInt8) :=
  if path = "" then .error .missing
  else
    match tree.target path with
    | .file _ bytes => .ok bytes
    | .folder => .error .directory
    | .vacant _ => .error .missing
    | .nowhere problem => .error problem

/-- A path without the parts that lead nowhere else. -/
def plain (path : String) : String :=
  let start := if path.startsWith "/" then "/" else ""
  match (parts path).filter fun p => p != "" && p != "." with
  | [] => if start = "" then "." else start
  | kept => start ++ "/".intercalate kept

/-- Writes a file, in the place of one that is there. -/
def write (tree : FileTree) (path : String) (bytes : List UInt8) : Except Crash FileTree :=
  if path.contains '\x00' then .error .nullInPath
  else
    let path := plain path
    match tree.target path with
    | .file there _ =>
      .ok { tree with
        files := tree.files.map fun p => if p.1 = there then (there, bytes) else p }
    | .vacant there => .ok { tree with files := tree.files ++ [(there, bytes)] }
    | .folder => .error (.unwritable .directory path)
    | .nowhere problem => .error (.unwritable problem path)

/-- The place that a path names if it leads through folders only. -/
def place (tree : FileTree) (path : String) : List String :=
  (parts path).foldl (fun place part =>
    if part = "" ∨ part = "." then place
    else if part = ".." then place.dropLast
    else place ++ [part]) (tree.start path)

/-- The files in the working folder that another tree does not have, by their paths from
there. -/
def newFiles (before after : FileTree) : List (List String × List UInt8) :=
  (after.files.filter fun p =>
    after.here.isPrefixOf p.1 && (before.files.lookup p.1).isNone).map fun p =>
      (p.1.drop after.here.length, p.2)

end FileTree

end BeaconCheck
