import ContainerNetwork.Path

/-!
# File trees

A tree of directories and files, and the operations that the pool and the configuration need.  An
operation that fails leaves the tree as it was.
-/

namespace ContainerNetwork

inductive FileEntry where
  | directory
  | file (content : ByteArray)

instance : DecidableEq FileEntry
  | .directory, .directory => isTrue rfl
  | .directory, .file _ => isFalse nofun
  | .file _, .directory => isFalse nofun
  | .file left, .file right =>
      decidable_of_iff (left.data = right.data)
        ⟨fun h => congrArg FileEntry.file (ByteArray.ext h),
          fun h => congrArg ByteArray.data (FileEntry.file.inj h)⟩

inductive FileError where
  | notFound
  | notADirectory
  | isADirectory
  | alreadyExists
  /-- A name or path that is too long or cannot be written. -/
  | invalidName
  deriving DecidableEq

/-- Entries by the names that lead to them from the root, each of them an entry of the directory
before it; the root is a directory without an entry. -/
structure FileTree where
  entries : List (Path × FileEntry) := []
  deriving DecidableEq

namespace FileTree

def find? (tree : FileTree) (path : Path) : Option FileEntry :=
  if path = [] then some .directory else tree.entries.lookup path

/-- The tree without the entry at a path. -/
def erase (tree : FileTree) (path : Path) : FileTree :=
  ⟨tree.entries.filter fun entry => entry.1 ≠ path⟩

/-- The tree with an entry at a path, in place of what was there. -/
def set (tree : FileTree) (path : Path) (entry : FileEntry) : FileTree :=
  ⟨(path, entry) :: (tree.erase path).entries⟩

/-- Where a name leads from a directory.  Nothing is above the root. -/
def follow (directory : Path) (name : String) : Except FileError Path :=
  if Path.stays name then .ok directory
  else if name = ".." then .ok directory.dropLast
  else if Path.maxNameSize < name.utf8ByteSize then .error .invalidName
  else .ok (directory ++ [name])

/-- Walks from a directory along a path; every name has to lead to a directory. -/
def walk (tree : FileTree) (directory : Path) : Path → Except FileError Path
  | [] => .ok directory
  | name :: rest => do
      let next ← follow directory name
      match tree.find? next with
      | some .directory => tree.walk next rest
      | some (.file _) => .error .notADirectory
      | none => .error .notFound

/-- Where a place is in the tree, whether something is there or not. -/
def locate (tree : FileTree) (place : FilePlace) : Except FileError Path := do
  unless place.path.IsValid do throw .invalidName
  follow (← tree.walk [] place.directory) place.name

/-- Makes a directory, unless it is there already. -/
def ensureDirectory (tree : FileTree) (place : FilePlace) : Except FileError FileTree := do
  let path ← tree.locate place
  match tree.find? path with
  | some .directory => .ok tree
  | some (.file _) => .error .alreadyExists
  | none => .ok (tree.set path .directory)

def read (tree : FileTree) (place : FilePlace) : Except FileError ByteArray := do
  match tree.find? (← tree.locate place) with
  | some (.file content) => .ok content
  | some .directory => .error .isADirectory
  | none => .error .notFound

/-- Opens a file for writing: what it holds stays, a missing file is made. -/
def openOrCreate (tree : FileTree) (place : FilePlace) : Except FileError FileTree := do
  let path ← tree.locate place
  match tree.find? path with
  | some (.file _) => .ok tree
  | some .directory => .error .isADirectory
  | none => .ok (tree.set path (.file .empty))

/-- Opens a file for writing from its start: what it held is gone. -/
def create (tree : FileTree) (place : FilePlace) : Except FileError FileTree := do
  let path ← tree.locate place
  match tree.find? path with
  | some .directory => .error .isADirectory
  | _ => .ok (tree.set path (.file .empty))

/-- Gives an existing file its content. -/
def write (tree : FileTree) (place : FilePlace) (content : ByteArray) :
    Except FileError FileTree := do
  let path ← tree.locate place
  match tree.find? path with
  | some (.file _) => .ok (tree.set path (.file content))
  | some .directory => .error .isADirectory
  | none => .error .notFound

/-- Moves a file to a place, over a file that is there. -/
def rename (tree : FileTree) (source target : FilePlace) : Except FileError FileTree := do
  let content ← tree.read source
  let path ← tree.locate target
  match tree.find? path with
  | some .directory => .error .isADirectory
  | _ => .ok ((tree.erase (← tree.locate source)).set path (.file content))

def remove (tree : FileTree) (place : FilePlace) : Except FileError FileTree := do
  let path ← tree.locate place
  match tree.find? path with
  | some (.file _) => .ok (tree.erase path)
  | some .directory => .error .isADirectory
  | none => .error .notFound

end FileTree

end ContainerNetwork
