import PlayerRegistry.Text.Percent

/-!
# Forms

Fields as they stand in a query or in the body of a form: `name=value` with ampersands between
them, blanks as plus signs, and all else percent-encoded.
-/

namespace PlayerRegistry.Http.Form

/-- What stands between the separators. -/
def cut (separator : UInt8) (bytes : List UInt8) : List (List UInt8) :=
  bytes.foldr (fun b parts =>
    if b = separator then [] :: parts
    else match parts with
      | part :: rest => (b :: part) :: rest
      | [] => [[b]]) [[]]

def readText (bytes : List UInt8) : String :=
  let spaced := bytes.map fun b => if b = 0x2b then 0x20 else b
  String.ofList (Utf8.decodeLossy (Percent.decodeBytes spaced))

/-- Name and value of a field; one without an equals sign has the empty value. -/
def readField (bytes : List UInt8) : String × String :=
  (readText (bytes.takeWhile (· ≠ 0x3d)), readText ((bytes.dropWhile (· ≠ 0x3d)).drop 1))

def fields (bytes : List UInt8) : List (String × String) :=
  ((cut 0x26 bytes).filter (· ≠ [])).map readField

/-- The field of a name, if there is one; a name may not come twice. -/
def optional? (fields : List (String × String)) (name : String) : Option (Option String) :=
  match fields.filter (·.1 = name) with
  | [] => some none
  | [f] => some (some f.2)
  | _ => none

/-- The field of a name, which has to be there. -/
def required? (fields : List (String × String)) (name : String) : Option String :=
  (optional? fields name).bind id

end PlayerRegistry.Http.Form
