import QuizCompiler.Files.System

/-! # Trees of files

A file system that is a value: every path of a tree is a folder or a file with its
bytes. The root is a folder that is always there.
-/

namespace QuizCompiler.Files

/-- What stands at a path. -/
inductive Node
  | folder
  | file (bytes : ByteArray)

def Node.isFolder : Node → Bool
  | .folder => true
  | .file _ => false

/-- A place in a tree: the names that lead to it from the root. -/
abbrev Place := List String

/-- A tree. Of entries for the same place the first counts. -/
structure Tree where
  entries : List (Place × Node)

namespace Tree

/-- The tree of nothing but the root. -/
def empty : Tree := ⟨[]⟩

def node? (tree : Tree) (place : Place) : Option Node :=
  if place.isEmpty then some .folder else tree.entries.lookup place

def put (tree : Tree) (place : Place) (node : Node) : Tree :=
  ⟨(place, node) :: tree.entries.filter fun entry => entry.1 != place⟩

/-- Remove what stands at a place. -/
def erase (tree : Tree) (place : Place) : Tree :=
  ⟨tree.entries.filter fun entry => entry.1 != place⟩

/-! ## Where a path leads -/

/-- The greatest number of bytes in a name. -/
def longestName : Nat := 255

/-- The number of bytes from which on a path is too long. -/
def pathLimit : Nat := 4096

def isTooLong (name : String) : Bool := longestName < name.utf8ByteSize

/-- The folder that parts lead to from another folder. -/
def folderFrom (tree : Tree) : Place → List String → Except FileError Place
  | place, [] => .ok place
  | place, part :: parts =>
    if part = "." then folderFrom tree place parts
    else if part = ".." then folderFrom tree place.dropLast parts
    else if isTooLong part then .error .nameTooLong
    else
      match tree.node? (place ++ [part]) with
      | none => .error .notFound
      | some (.file _) => .error .notFolder
      | some .folder => folderFrom tree (place ++ [part]) parts

/-- Where a path leads: to a name in a folder, or, through dots, to a folder itself. -/
inductive Target
  | named (folder : Place) (name : String)
  | folder (place : Place)
deriving DecidableEq, Repr

/-- Where a path leads. All its folders must be there, its last part need not. -/
def target (tree : Tree) (path : Path) : Except FileError Target := do
  if path.written.toList.contains '\x00' then throw .badPath
  else if pathLimit ≤ path.written.utf8ByteSize then throw .nameTooLong
  else
    match path.parts.getLast? with
    | none => if path.fromRoot then return .folder [] else throw .notFound
    | some last =>
      let folder ← tree.folderFrom [] path.parts.dropLast
      if last = "." then return .folder folder
      else if last = ".." then return .folder folder.dropLast
      else if isTooLong last then throw .nameTooLong
      else return .named folder last

/-! ## Operations -/

def read (tree : Tree) (path : Path) : Except FileError ByteArray := do
  match ← tree.target path with
  | .folder _ => throw .isFolder
  | .named folder name =>
    match tree.node? (folder ++ [name]) with
    | none => throw .notFound
    | some .folder => throw .isFolder
    | some (.file bytes) => if path.slashed then throw .notFolder else return bytes

def write (tree : Tree) (path : Path) (bytes : ByteArray) : Except FileError Tree := do
  match ← tree.target path with
  | .folder _ => throw .isFolder
  | .named folder name =>
    if path.slashed || (tree.node? (folder ++ [name])).any Node.isFolder then throw .isFolder
    else return tree.put (folder ++ [name]) (.file bytes)

def remove (tree : Tree) (path : Path) : Except FileError Tree := do
  match ← tree.target path with
  | .folder _ => throw .isFolder
  | .named folder name =>
    match tree.node? (folder ++ [name]) with
    | none => throw .notFound
    | some .folder => throw .isFolder
    | some (.file _) =>
      if path.slashed then throw .notFolder else return tree.erase (folder ++ [name])

def rename (tree : Tree) (source destination : Path) : Except FileError Tree := do
  let origin ← tree.target source
  let goal ← tree.target destination
  match origin, goal with
  | .named folder name, .named goalFolder goalName =>
    match tree.node? (folder ++ [name]) with
    | none => throw .notFound
    | some .folder => throw .isFolder
    | some (.file bytes) =>
      if source.slashed || destination.slashed then throw .notFolder
      else if (tree.node? (goalFolder ++ [goalName])).any Node.isFolder then throw .isFolder
      else return (tree.erase (folder ++ [name])).put (goalFolder ++ [goalName]) (.file bytes)
  | _, _ => throw .busy

/-! ## Preparing a tree

The compiler makes no folders and removes nothing but its own file. With these operations, a tree
is set up for it to run on, and changed by hand between two runs.
-/

/-- Make a folder and all folders that lead to it, given the place they start from. -/
def addFolders (tree : Tree) : Place → List String → Tree
  | _, [] => tree
  | place, part :: parts =>
    let place :=
      if part = "." then place else if part = ".." then place.dropLast else place ++ [part]
    match tree.node? place with
    | some _ => addFolders tree place parts
    | none => addFolders (tree.put place .folder) place parts

/-- Make the folder at a path, and all folders that lead to it. -/
def makeFolder (tree : Tree) (path : Path) : Tree := tree.addFolders [] path.parts

/-- Put a file at a path, in folders that are made as needed. -/
def addFile (tree : Tree) (path : Path) (bytes : ByteArray) : Tree :=
  let tree := tree.addFolders [] path.parts.dropLast
  match tree.write path bytes with
  | .ok written => written
  | .error _ => tree

/-- Remove the file or folder at a path, with all that is in it. -/
def removeAll (tree : Tree) (path : Path) : Tree :=
  match tree.target path with
  | .ok (.named folder name) =>
    ⟨tree.entries.filter fun entry => !(folder ++ [name]).isPrefixOf entry.1⟩
  | _ => tree

end Tree

/-! ## Trees as file systems -/

/-- What goes wrong with the operations on a tree that would otherwise succeed. -/
structure Mishaps where
  read : Option FileError
  /-- The error, and how many bytes are written before it if the file is opened at all. -/
  write : Option (FileError × Option Nat)
  rename : Option FileError
  remove : Option FileError
deriving DecidableEq, Repr

/-- Nothing goes wrong. -/
def Mishaps.none : Mishaps := ⟨.none, .none, .none, .none⟩

/-- A tree that is worked on. -/
structure Workspace where
  tree : Tree
  mishaps : Mishaps
  /-- The trees that came before, the latest first. -/
  history : List Tree

namespace Workspace

def start (tree : Tree) (mishaps : Mishaps) : Workspace := ⟨tree, mishaps, []⟩

/-- Make a change, which may fail. -/
def change (result : Except FileError Tree) : StateM Workspace (Except FileError Unit) := do
  match result with
  | .ok tree =>
    modify fun space => { space with tree, history := space.tree :: space.history }
    return .ok ()
  | .error error => return .error error

instance : FileSystem (StateM Workspace) where
  read path := do
    let space ← get
    match space.mishaps.read with
    | some error => return .error error
    | none => return space.tree.read path
  write path bytes := do
    let space ← get
    match space.mishaps.write with
    | some (error, some length) =>
      let _ ← change (space.tree.write path (bytes.extract 0 length))
      return .error error
    | some (error, none) => return .error error
    | none => change (space.tree.write path bytes)
  rename source destination := do
    let space ← get
    match space.mishaps.rename with
    | some error => return .error error
    | none => change (space.tree.rename source destination)
  remove path := do
    let space ← get
    match space.mishaps.remove with
    | some error => return .error error
    | none => change (space.tree.remove path)

end Workspace

end QuizCompiler.Files
