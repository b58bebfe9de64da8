import PlayerRegistry.Number.Binary64

/-!
# TOML values

What a TOML document denotes. Keys of a table are kept in the order in which they were written.
-/

namespace PlayerRegistry.Toml

inductive Value where
  | string (text : String)
  | integer (n : Int)
  | float (x : Binary64)
  | boolean (b : Bool)
  /-- A date, a time or both; settings never hold one, so its text is not kept. -/
  | datetime
  | array (items : List Value)
  | table (entries : List (String × Value))
  deriving Inhabited

abbrev Table := List (String × Value)

/-- The value of a key. -/
def Table.get? (t : Table) (key : String) : Option Value := t.lookup key

end PlayerRegistry.Toml
