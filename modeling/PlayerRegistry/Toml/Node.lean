import PlayerRegistry.Toml.Value

/-!
# Tables under construction

Tables arise from headers, from the keys in front of the last one of a header, and from dotted keys.
Where a table comes from decides how it may grow: a header opens each table once, a dotted key never
enters a table that a header has opened, and it adds a setting to a table only if that table arose
from dotted keys.
-/

namespace PlayerRegistry.Toml

inductive Origin where
  | header
  /-- Named by the longer header of another table. -/
  | path
  | dotted
  deriving DecidableEq, Repr

inductive Node where
  | value (v : Value)
  | table (origin : Origin) (entries : List (String × Node))
  /-- An array of tables; the last one is still open. -/
  | tables (closed : List (List (String × Node))) (last : List (String × Node))

abbrev Entries := List (String × Node)

namespace Node

/-- Replaces the node of a key, or adds one. -/
def change (key : String) (f : Option Node → Option Node) : Entries → Option Entries
  | [] => (f none).map fun n => [(key, n)]
  | (k, n) :: rest =>
    if k = key then (f (some n)).map fun n => (k, n) :: rest
    else (change key f rest).map fun rest => (k, n) :: rest

/-- Changes the table at the end of a path; tables that are missing on the way arise from `new`. -/
def within (new : Origin) :
    List String → (Origin → Entries → Option Entries) → Origin → Entries → Option Entries
  | [], f, origin, entries => f origin entries
  | key :: path, f, _, entries =>
    entries |> change key fun
      | none => (within new path f new []).map (.table new)
      | some (.value _) => none
      | some (.table origin sub) =>
        if new = .dotted ∧ origin = .header then none
        else (within new path f origin sub).map (.table origin)
      | some (.tables closed last) => (within new path f .header last).map (.tables closed)

/-- Adds a setting under a dotted key, given as the keys in front of its last one and that one. -/
def insert (path : List String) (key : String) (v : Value) : Origin → Entries → Option Entries :=
  within .dotted path fun origin entries =>
    if (origin = .dotted) = path.isEmpty then none
    else entries |> change key fun
      | none => some (.value v)
      | some _ => none

def openTable : Option Node → Option Node
  | none => some (.table .header [])
  | some (.table .path entries) => some (.table .header entries)
  | some _ => none

def openListed : Option Node → Option Node
  | none => some (.tables [] [])
  | some (.tables closed last) => some (.tables (closed ++ [last]) [])
  | some _ => none

mutual

def toValue : Node → Value
  | .value v => v
  | .table _ entries => .table (toValues entries)
  | .tables closed last => .array (toTables closed ++ [.table (toValues last)])

def toValues : Entries → List (String × Value)
  | [] => []
  | (key, n) :: rest => (key, n.toValue) :: toValues rest

def toTables : List Entries → List Value
  | [] => []
  | entries :: rest => .table (toValues entries) :: toTables rest

end

end Node

end PlayerRegistry.Toml
