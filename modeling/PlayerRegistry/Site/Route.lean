import PlayerRegistry.Http.Message

/-!
# Routes

The paths at which the registry answers, and the methods that it takes there.
-/

namespace PlayerRegistry.Site

inductive Route where
  | health
  | register
  | login
  | logout
  | update
  | deleteAccount
  | profile
  /-- A texture by two segments of the path, as they were sent. -/
  | texture (kind file : List Char)
  | challengeSkin
  | migration
  deriving DecidableEq, Repr

namespace Route

/-- Paths have to be written exactly. The kind of a texture may be empty, its file may not. -/
def ofPath? (path : List Char) : Option Route :=
  match String.ofList path with
  | "/health" => some health
  | "/register" => some register
  | "/login" => some login
  | "/logout" => some logout
  | "/update" => some update
  | "/delete-account" => some deleteAccount
  | "/profile" => some profile
  | "/challenge-skin" => some challengeSkin
  | "/migration" => some migration
  | _ =>
    match splitAtChar '/' path with
    | [[], first, kind, file] =>
      if first = "texture".toList ∧ file ≠ [] then some (texture kind file) else none
    | _ => none

/-- Whether the route changes something. -/
def isPost : Route → Bool
  | register | login | logout | update | deleteAccount => true
  | health | profile | texture .. | challengeSkin | migration => false

def methods (r : Route) : List String := if r.isPost then ["POST"] else ["GET", "HEAD"]

end Route

end PlayerRegistry.Site
