import PlayerRegistry.Config.Check
import PlayerRegistry.Config.Decode
import PlayerRegistry.Config.Table
import PlayerRegistry.Toml.Document
import PlayerRegistry.Toml.Written

/-!
# Configuration files

A file is read, or written with the defaults first if it is missing. A file that is there is never
changed.
-/

namespace PlayerRegistry.Config

/-- The configuration that a document stands for. -/
def ofText? (text : String) : Option Config := (Toml.parse? text).bind ofTable?

/-- The usable configuration in the content of the file at `path`. -/
def ofBytes (path : String) (content : ByteArray) : Result Config := do
  match String.fromUTF8? content with
  | none => throw (.io "stream did not contain valid UTF-8")
  | some text =>
    match ofText? text with
    | none => throw (.config ("Failed to decode " ++ path ++ ": not a configuration"))
    | some c =>
      c.check
      return c

def defaultText : String := Toml.write (toTable {})

/-- Reads the file at `path`; yields what it holds afterwards as well. -/
def readOrCreate (path : String) (file : Option ByteArray) : Result Config × ByteArray :=
  let content := file.getD defaultText.toUTF8
  (ofBytes path content, content)

end PlayerRegistry.Config
