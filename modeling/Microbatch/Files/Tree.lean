import Microbatch.Files.Path
import Microbatch.Files.Store

set_option relaxedAutoImplicit false
set_option autoImplicit false

/-!
# File trees

A file tree holds files and directories, one of which is the directory to work in. A path is
followed name by name: every name before the last must lead into a directory that is there, a dot
stays and two dots go out.

## Main definitions

* `Microbatch.FileTree` — files and directories, with the directory to work in.
* `Microbatch.FileTree.follow`, `Microbatch.FileTree.locate` — where a path leads.
* `Microbatch.FileTree.read`, `Microbatch.FileTree.write`, `Microbatch.FileTree.makeDirectory`,
  `Microbatch.FileTree.isDirectory` — file operations; state monads over a tree are file stores.
-/

namespace Microbatch

/-- What a name can stand for. -/
inductive FileTree.Entry where
  /-- A file with its contents. -/
  | file (content : Bytes)
  /-- A directory. -/
  | directory
  deriving DecidableEq, Inhabited

/-- **A location**: the names that lead to it from the root, the innermost first. The root has
none. -/
abbrev FileTree.Location := List String

/-- **Files and directories**, by their locations. -/
structure FileTree where
  /-- What is there, apart from the root. -/
  entries : List (FileTree.Location × FileTree.Entry)
  /-- The directory where paths start that do not start at the root. -/
  workingDirectory : FileTree.Location
  deriving DecidableEq

namespace FileTree

/-- The tree with nothing but a directory to work in. -/
def empty : FileTree := ⟨[(["work"], .directory)], ["work"]⟩

/-! ### Locations -/

/-- What is at a location; the root is a directory. -/
def find? (tree : FileTree) (location : Location) : Option Entry :=
  if location = [] then some .directory else tree.entries.lookup location

/-- Puts something at a location, in place of what was there. -/
def put (tree : FileTree) (location : Location) (entry : Entry) : FileTree :=
  { tree with entries := (location, entry) :: tree.entries.filter fun e => e.1 != location }

/-- The most bytes of a name. -/
def longestName : Nat := 255

/-- The most bytes of a path. -/
def longestPath : Nat := 4095

/-- What a directory has under a name. -/
def look (tree : FileTree) (directory : Location) (name : String) :
    Except FileFault (Option Entry) :=
  if longestName < name.utf8ByteSize then .error .nameTooLong
  else .ok (tree.find? (name :: directory))

/-! ### Following paths -/

/-- Goes from a directory to the one under a name. -/
def enter (tree : FileTree) (directory : Location) (name : String) : Except FileFault Location :=
  if name = "." then .ok directory
  else if name = ".." then .ok directory.tail
  else do
    match ← tree.look directory name with
    | none => .error .notFound
    | some (.file _) => .error .notDirectory
    | some .directory => .ok (name :: directory)

/-- Where a path leads. -/
inductive Destination where
  /-- A directory that is there, which no name at the end of the path stands for. -/
  | directory
  /-- A name in a directory, whether or not something is there. -/
  | name (directory : Location) (name : String)
  deriving DecidableEq

/-- **Follows names from a directory.** The last one is not looked up. -/
def follow (tree : FileTree) (directory : Location) : List String → Except FileFault Destination
  | [] => .ok .directory
  | [name] => .ok (if name = "." ∨ name = ".." then .directory else .name directory name)
  | name :: rest => do
    let directory ← tree.enter directory name
    follow tree directory rest

/-- **Where a path leads.** The empty path leads nowhere. -/
def locate (tree : FileTree) (path : String) : Except FileFault Destination :=
  if path.toList.contains '\x00' then .error .nullCharacter
  else if path = "" then .error .notFound
  else if longestPath < path.utf8ByteSize then .error .nameTooLong
  else
    let start := if Path.isAbsolute path then [] else tree.workingDirectory
    tree.follow start (Path.names path)

/-! ### Operations -/

/-- **The contents of a file.** A slash at the end asks for a directory. -/
def read (tree : FileTree) (path : String) : Except FileFault Bytes := do
  match ← tree.locate path with
  | .directory => .error .isDirectory
  | .name directory name =>
    match ← tree.look directory name with
    | none => .error .notFound
    | some .directory => .error .isDirectory
    | some (.file content) =>
      if Path.namesDirectory path then .error .notDirectory else .ok content

/-- **Makes a file**, or replaces the contents of one. A path with a slash at the end is refused
before its last name is looked up. -/
def write (tree : FileTree) (path : String) (content : Bytes) : Except FileFault FileTree := do
  match ← tree.locate path with
  | .directory => .error .isDirectory
  | .name directory name =>
    if Path.namesDirectory path then .error .isDirectory
    else
      match ← tree.look directory name with
      | some .directory => .error .isDirectory
      | _ => .ok (tree.put (name :: directory) (.file content))

/-- **Makes a directory** where nothing is yet. -/
def makeDirectory (tree : FileTree) (path : String) : Except FileFault FileTree := do
  match ← tree.locate path with
  | .directory => .error .alreadyExists
  | .name directory name =>
    match ← tree.look directory name with
    | some _ => .error .alreadyExists
    | none => .ok (tree.put (name :: directory) .directory)

/-- **Whether a path leads to a directory.** -/
def isDirectory (tree : FileTree) (path : String) : Bool :=
  match tree.locate path with
  | .ok .directory => true
  | .ok (.name directory name) =>
    match tree.look directory name with
    | .ok (some .directory) => true
    | _ => false
  | .error _ => false

/-! ### The store of a tree -/

/-- Changes the tree, unless the change is refused. -/
def change (f : FileTree → Except FileFault FileTree) : StateM FileTree (Except FileFault Unit) :=
  fun tree =>
    match f tree with
    | .ok tree => (.ok (), tree)
    | .error fault => (.error fault, tree)

instance : FileStore (StateM FileTree) where
  load path := fun tree => (tree.read path, tree)
  save path content := change fun tree => tree.write path content
  makeDirectory path := change fun tree => tree.makeDirectory path
  isDirectory path := fun tree => (tree.isDirectory path, tree)

end FileTree

end Microbatch
