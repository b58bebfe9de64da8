import PlayerRegistry.Bytes.Basic
import PlayerRegistry.SigningKey.Basic

/-!
# The key file

A key is made when there is none yet, and written to a file that no one else has made in the
meantime. Every later start reads that file. Loading is a machine of single steps, each of which
looks at the file system once, so that several loads can be interleaved.
-/

namespace PlayerRegistry.KeyFile

/-- What is at the path of the key. -/
inductive Place where
  | missing
  | file (bytes : ByteArray)
  /-- Something that cannot be read as a file, for a reason that the system gives. -/
  | obstacle (reason : String)
  deriving DecidableEq

def defaultBits : Nat := 4096

/-- How far a load has come. -/
inductive Phase where
  | start
  /-- There was no file, and `key` has been made. -/
  | creating (key : SigningKey)
  /-- The file has been made, and `rest` is still to be written to it. -/
  | writing (key : SigningKey) (rest : ByteArray)
  | finished (result : Result SigningKey)

def readFailure (path reason : String) : Error :=
  .key ("Failed to read signing key " ++ path ++ ": " ++ reason)

def createFailure (path : String) : Error :=
  .key ("Failed to create signing key " ++ path ++ ": File exists (os error 17)")

/-- One step of a load at a path. `generate` makes a key if one is needed, and a write takes in at
most `piece + 1` bytes. -/
def step (path : String) (generate : Unit → Result SigningKey) (piece : Nat) :
    Place → Phase → Place × Phase
  | .file bytes, .start => (.file bytes, .finished (SigningKey.ofDer bytes))
  | .obstacle reason, .start =>
    (.obstacle reason, .finished (.error (readFailure path reason)))
  | .missing, .start =>
    match generate () with
    | .ok key => (.missing, .creating key)
    | .error e => (.missing, .finished (.error e))
  | .missing, .creating key => (.file .empty, .writing key key.der)
  | place, .creating _ => (place, .finished (.error (createFailure path)))
  | .file bytes, .writing key rest =>
    if rest.size = 0 then (.file bytes, .finished (.ok key))
    else
      (.file (bytes ++ rest.extract 0 (piece + 1)),
        .writing key (rest.extract (piece + 1) rest.size))
  | place, .writing key _ => (place, .finished (.ok key))
  | place, .finished result => (place, .finished result)

/-- Steps until the load has finished, at most `fuel` of them. -/
def run (path : String) (generate : Unit → Result SigningKey) (piece : Nat) :
    Nat → Place → Phase → Place × Phase
  | 0, place, phase => (place, phase)
  | fuel + 1, place, phase =>
    match phase with
    | .finished result => (place, .finished result)
    | phase =>
      let (place, phase) := step path generate piece place phase
      run path generate piece fuel place phase

/-- A load without company, which writes the file in one piece: the key, and what is at the path
afterwards. -/
def loadOrGenerate (path : String) (generate : Unit → Result SigningKey) (place : Place) :
    Result SigningKey × Place :=
  match run path generate 1048576 8 place .start with
  | (place, .finished result) => (result, place)
  | (place, _) => (.error (.internal "The key is too long to be written"), place)

end PlayerRegistry.KeyFile
