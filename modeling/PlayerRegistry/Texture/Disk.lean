import PlayerRegistry.Flow
import PlayerRegistry.Texture.FileTree
import PlayerRegistry.Texture.Store

/-!
# Textures on disk

A texture is a file named for its hash, in a directory named for the first two digits of the hash.
It is written under a name of its own first and renamed when it is complete, so that a reader never
sees a part of it.
-/

namespace PlayerRegistry.Texture.Disk

def directoryOf (kind : Kind) (hash : String) : FilePath :=
  [kind.name, String.ofList (hash.toList.take 2)]

/-- Where the file of a texture is. -/
def pathOf (kind : Kind) (hash : String) : FilePath := directoryOf kind hash ++ [hash ++ ".png"]

/-- Where the file is while it is being written; `mark` is unlike that of every other writer. -/
def draftPathOf (kind : Kind) (hash mark : String) : FilePath :=
  directoryOf kind hash ++ [hash ++ "." ++ mark ++ ".tmp"]

def failure (action : String) (kind : Kind) (hash : String) (f : FileFault) : Error :=
  .assetStorage ("Failed to " ++ action ++ " " ++ kind.name ++ " " ++ hash ++ ": " ++ f.text)

def directoryFailure (f : FileFault) : Error :=
  .assetStorage ("Failed to create blob directory: " ++ f.text)

/-- A step that changes the tree, or fails and leaves it. -/
def change (f : FileTree → Except FileFault FileTree) : Flow FileTree (Except FileFault Unit) :=
  Flow.act fun t =>
    match f t with
    | .ok t => (.ok (), t)
    | .error e => (.error e, t)

/-- A step that only looks. -/
def inspect (f : FileTree → α) : Flow FileTree α := Flow.act fun t => (f t, t)

/-- Writes the pieces one after another to a file that is there. -/
def writePieces (path : FilePath) : List ByteArray → Flow FileTree (Except FileFault Unit)
  | [] => pure (.ok ())
  | piece :: rest => do
    match ← change fun t => t.append path piece with
    | .ok () => writePieces path rest
    | .error e => pure (.error e)

/-- Renames the draft; one that cannot be renamed is removed. -/
def commit (kind : Kind) (hash : String) (draft : FilePath) : Flow FileTree (Result Unit) := do
  match ← change fun t => t.rename draft (pathOf kind hash) with
  | .ok () => return .ok ()
  | .error e =>
    let _ ← change fun t => t.delete draft
    return .error (failure "commit" kind hash e)

/-- Stores a texture that arrives in pieces. One that is there already stays as it is. -/
def put (kind : Kind) (hash mark : String) (pieces : List ByteArray) :
    Flow FileTree (Result Unit) := do
  if !isContentHash hash then return .error (unknown kind hash)
  if ← inspect fun t => t.has (pathOf kind hash) then return .ok ()
  match ← change fun t => t.makeDirectories [] (directoryOf kind hash) with
  | .error e => return .error (directoryFailure e)
  | .ok () =>
    let draft := draftPathOf kind hash mark
    match ← change fun t => t.write draft .empty with
    | .error e => return .error (failure "write" kind hash e)
    | .ok () =>
      match ← writePieces draft pieces with
      | .error e => return .error (failure "write" kind hash e)
      | .ok () => commit kind hash draft

/-- The bytes of a texture, if it is there. -/
def get (kind : Kind) (hash : String) : Flow FileTree (Result (Option ByteArray)) := do
  if !isContentHash hash then return .ok none
  match ← inspect fun t => t.read (pathOf kind hash) with
  | .ok content => return .ok (some content)
  | .error .notFound => return .ok none
  | .error e => return .error (failure "read" kind hash e)

/-- Removes a texture; one that is not there needs no removal. -/
def delete (kind : Kind) (hash : String) : Flow FileTree (Result Unit) := do
  if !isContentHash hash then return .error (unknown kind hash)
  match ← change fun t => t.delete (pathOf kind hash) with
  | .ok () => return .ok ()
  | .error .notFound => return .ok ()
  | .error e => return .error (failure "delete" kind hash e)

def contains (kind : Kind) (hash : String) : Flow FileTree (Result Bool) := do
  if !isContentHash hash then return .ok false
  return .ok (← inspect fun t => t.has (pathOf kind hash))

end PlayerRegistry.Texture.Disk
