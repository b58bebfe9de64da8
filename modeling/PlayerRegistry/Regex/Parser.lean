import PlayerRegistry.Regex.Lexer

/-!
# Reading a pattern

The items of a pattern are put together from left to right, with a stack of the groups that are
still open.
-/

namespace PlayerRegistry.Regex

/-- Parts in sequence; a single part stands for itself. -/
def Ast.ofParts : List Ast → Ast
  | [] => .empty
  | [a] => a
  | parts => .concat parts

/-- What has been read at one level of nesting: the branches before the last bar, the parts after
it, and whether blanks count. -/
structure Level where
  branches : List Ast
  parts : List Ast
  x : Bool

namespace Level

def start (x : Bool) : Level := ⟨[], [], x⟩

def toAst (l : Level) : Ast :=
  if l.branches.isEmpty then .ofParts l.parts
  else .alternation (l.branches ++ [.ofParts l.parts])

def push (l : Level) (a : Ast) : Level := { l with parts := l.parts ++ [a] }

/-- Whether the last part is something that can be repeated. -/
def repeat? (l : Level) (min : Nat) (max : Option Nat) : Option Level :=
  match l.parts.getLast? with
  | none | some .empty | some (.flags _) => none
  | some a => some { l with parts := l.parts.dropLast ++ [.repetition min max a] }

end Level

/-- The level being read, the levels around it with the flags of the groups that were opened in
them, and the names of groups so far. -/
structure Reading where
  current : Level
  outer : List (Level × FlagChanges)
  names : List (List Char)

def ignoresBlank (changes : FlagChanges) (x : Bool) : Bool :=
  (changes.lookup .ignoreBlank).getD x

namespace Reading

def start : Reading := ⟨.start false, [], []⟩

def add? (r : Reading) : Item → Option Reading
  | .atom a => some { r with current := r.current.push a }
  | .repetition min max =>
    (r.current.repeat? min max).map fun level => { r with current := level }
  | .bar =>
    let l := r.current
    some { r with current := ⟨l.branches ++ [.ofParts l.parts], [], l.x⟩ }
  | .close =>
    match r.outer with
    | [] => none
    | (level, changes) :: outer =>
      some { r with current := level.push (.group changes r.current.toAst), outer }
  | .opening changes name =>
    let opened (names : List (List Char)) : Reading :=
      ⟨.start (ignoresBlank changes r.current.x), (r.current, changes) :: r.outer, names⟩
    match name with
    | none => some (opened r.names)
    | some name => if r.names.contains name then none else some (opened (name :: r.names))
  | .flags changes =>
    let level := r.current.push (.flags changes)
    some { r with current := { level with x := ignoresBlank changes level.x } }

/-- Adds all items of `cs`. Every item takes at least one character, so that `cs.length` steps are
enough. -/
def addAllFrom? : Nat → Reading → List Char → Option Reading
  | 0, r, cs => if cs.isEmpty then some r else none
  | fuel + 1, r, cs =>
    match skip r.current.x cs with
    | [] => some r
    | c :: cs => do
      let (item, rest) ← item? r.current.x (c :: cs)
      addAllFrom? fuel (← r.add? item) rest

def addAll? (r : Reading) (cs : List Char) : Option Reading := addAllFrom? cs.length r cs

/-- The tree, if no group is open and the nesting is not too deep. -/
def finish? (r : Reading) : Option Ast :=
  if r.outer.isEmpty then
    let a := r.current.toAst
    if nestLimit < a.depth then none else some a
  else none

end Reading

/-- The tree of a pattern, or none if it is malformed. -/
def parse? (cs : List Char) : Option Ast :=
  (Reading.start.addAll? cs).bind Reading.finish?

end PlayerRegistry.Regex
