import PlayerRegistry.Bytes.Basic

/-!
# File trees

The files and directories below one directory, and what the operations on them answer. A path is
the list of its names; the directory at the root is always there.
-/

namespace PlayerRegistry

inductive FileEntry where
  | file (content : ByteArray)
  | directory
  deriving DecidableEq

inductive FileFault where
  | notFound
  | alreadyExists
  | notDirectory
  | isDirectory
  deriving DecidableEq, Repr

namespace FileFault

def text : FileFault → String
  | notFound => "No such file or directory (os error 2)"
  | alreadyExists => "File exists (os error 17)"
  | notDirectory => "Not a directory (os error 20)"
  | isDirectory => "Is a directory (os error 21)"

end FileFault

abbrev FilePath := List String

structure FileTree where
  entries : List (FilePath × FileEntry)
  deriving DecidableEq

namespace FileTree

def empty : FileTree := ⟨[]⟩

def find? (t : FileTree) (path : FilePath) : Option FileEntry :=
  if path = [] then some .directory else t.entries.lookup path

/-- Every name of a path but the last has to be a directory. -/
def checkParents (t : FileTree) (walked : FilePath) : FilePath → Except FileFault Unit
  | [] | [_] => .ok ()
  | name :: rest =>
    let here := walked ++ [name]
    match t.find? here with
    | none => .error .notFound
    | some (.file _) => .error .notDirectory
    | some .directory => t.checkParents here rest

/-- What is at a path. -/
def look (t : FileTree) (path : FilePath) : Except FileFault (Option FileEntry) := do
  t.checkParents [] path
  return t.find? path

/-- A path that cannot be looked at counts as one where nothing is. -/
def has (t : FileTree) (path : FilePath) : Bool :=
  match t.look path with
  | .ok (some _) => true
  | _ => false

def read (t : FileTree) (path : FilePath) : Except FileFault ByteArray := do
  match ← t.look path with
  | none => throw .notFound
  | some .directory => throw .isDirectory
  | some (.file content) => return content

def remove (t : FileTree) (path : FilePath) : FileTree :=
  ⟨t.entries.filter fun e => e.1 ≠ path⟩

def place (t : FileTree) (path : FilePath) (e : FileEntry) : FileTree :=
  ⟨(path, e) :: (t.remove path).entries⟩

/-- Makes the directories on the way to a path, and the one at its end. -/
def makeDirectories (t : FileTree) (walked : FilePath) : FilePath → Except FileFault FileTree
  | [] => .ok t
  | name :: rest =>
    let here := walked ++ [name]
    match t.find? here with
    | none => (t.place here .directory).makeDirectories here rest
    | some .directory => t.makeDirectories here rest
    | some (.file _) => .error (if rest = [] then .alreadyExists else .notDirectory)

/-- Makes a file with this content, or replaces the one that is there. -/
def write (t : FileTree) (path : FilePath) (content : ByteArray) : Except FileFault FileTree := do
  match ← t.look path with
  | some .directory => throw .isDirectory
  | _ => return t.place path (.file content)

/-- Adds to the end of a file. -/
def append (t : FileTree) (path : FilePath) (piece : ByteArray) : Except FileFault FileTree := do
  let content ← t.read path
  return t.place path (.file (content ++ piece))

/-- Moves a file over whatever file is at its new path. -/
def rename (t : FileTree) (source target : FilePath) : Except FileFault FileTree := do
  let content ← t.read source
  (t.remove source).write target content

def delete (t : FileTree) (path : FilePath) : Except FileFault FileTree := do
  let _ ← t.read path
  return t.remove path

/-- The text by which paths are ordered: each directory comes right before what is in it. -/
def orderKey (path : FilePath) : String := "\x00".intercalate path

def entryLine (path : FilePath) : FileEntry → String
  | .directory => "/".intercalate path ++ "/"
  | .file content => "/".intercalate path ++ " " ++ toString content.size

/-- A line for each path, in order: directories end in a slash, files come with their size. -/
def listing (t : FileTree) : List String :=
  (t.entries.mergeSort fun a b => decide (orderKey a.1 ≤ orderKey b.1)).map fun e =>
    entryLine e.1 e.2

end FileTree

end PlayerRegistry
