import PlayerRegistry.Registry

/-!
# Taking in textures

A texture comes as a file or as the URL of one. It is checked before anything is stored, and then
stored under the hash of its canonical form.
-/

namespace PlayerRegistry.Texture

inductive Source where
  | upload (file : ByteArray)
  | url (text : String)

/-- The file that a source gives. -/
def Source.file (s : Scene) (kind : Kind) : Source → Work ByteArray
  | upload file => pure file
  | url text => Work.call (s.service.fetcher.fetch s.web kind.name text)

/-- Reads a source and checks it; nothing is stored. -/
def ingest (s : Scene) (kind : Kind) (source : Source) : Work Image := do
  let file ← source.file s kind
  Work.ofResult (validate kind s.service.rules file)

/-- Stores an image unless it is there already, and gives its hash. -/
def keep (s : Scene) (image : Image) : Work String := do
  let hash := image.contentHash
  let present ← Work.onTextures s .contains image.kind fun t =>
    (.ok (t.contains image.kind hash), t)
  if !present then
    Work.onTextures s .put image.kind fun t => t.put image.kind hash image.bytes
  return hash

def find (s : Scene) (kind : Kind) (hash : String) : Work (Option ByteArray) :=
  Work.onTextures s .get kind fun t => (.ok (t.get kind hash), t)

def discard (s : Scene) (kind : Kind) (hash : String) : Work Unit :=
  Work.onTextures s .delete kind fun t => t.delete kind hash

end PlayerRegistry.Texture
