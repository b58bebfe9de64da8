import PlayerRegistry.Regex.Parser
import PlayerRegistry.Regex.Pattern
import PlayerRegistry.Unicode.Boundary
import PlayerRegistry.Unicode.CaseFolding
import PlayerRegistry.Unicode.Script

/-!
# The pattern of a tree

Flags take effect from where they are set up to the end of their group. Where `unicode` is off,
only characters of one byte can be named, and nothing that could match a part of a character.
-/

namespace PlayerRegistry.Regex

structure Flags where
  ignoreCase : Bool := false
  multiLine : Bool := false
  dotMatchesNewline : Bool := false
  unicode : Bool := true
  crlf : Bool := false

namespace Flags

def set (f : Flags) (flag : Flag) (on : Bool) : Flags :=
  match flag with
  | .ignoreCase => { f with ignoreCase := on }
  | .multiLine => { f with multiLine := on }
  | .dotMatchesNewline => { f with dotMatchesNewline := on }
  | .unicode => { f with unicode := on }
  | .crlf => { f with crlf := on }
  | .swapGreed | .ignoreBlank => f

def apply (f : Flags) (changes : FlagChanges) : Flags :=
  changes.foldl (fun f change => f.set change.1 change.2) f

end Flags

def asciiLetters : CodePoints := ⟨[(0x41, 0x5a), (0x61, 0x7a)]⟩

def asciiClass (name : String) : CodePoints :=
  match name with
  | "alnum" => ⟨[(0x30, 0x39), (0x41, 0x5a), (0x61, 0x7a)]⟩
  | "alpha" => asciiLetters
  | "ascii" => ⟨[(0, 0x7f)]⟩
  | "blank" => ⟨[(9, 9), (0x20, 0x20)]⟩
  | "cntrl" => ⟨[(0, 0x1f), (0x7f, 0x7f)]⟩
  | "digit" => ⟨[(0x30, 0x39)]⟩
  | "graph" => ⟨[(0x21, 0x7e)]⟩
  | "lower" => ⟨[(0x61, 0x7a)]⟩
  | "print" => ⟨[(0x20, 0x7e)]⟩
  | "punct" => ⟨[(0x21, 0x2f), (0x3a, 0x40), (0x5b, 0x60), (0x7b, 0x7e)]⟩
  | "space" => ⟨[(9, 13), (0x20, 0x20)]⟩
  | "upper" => ⟨[(0x41, 0x5a)]⟩
  | "word" => asciiWordSet
  | _ => ⟨[(0x30, 0x39), (0x41, 0x46), (0x61, 0x66)]⟩

/-- The set with every letter that differs from one of its letters in case alone. -/
def foldCase (f : Flags) (s : CodePoints) : CodePoints :=
  let groups := if f.unicode then Unicode.foldings
    else (List.range 26).map fun k => [0x41 + k, 0x61 + k]
  ⟨s.ranges ++ (groups.filter fun g => g.any s.contains).flatMap fun g => g.map fun c => (c, c)⟩

def foldIfIgnored (f : Flags) (s : CodePoints) : CodePoints :=
  if f.ignoreCase then foldCase f s else s

/-- The complement where it is asked for; a complement of bytes would hold parts of characters. -/
def negate? (f : Flags) (negated : Bool) (s : CodePoints) : Option CodePoints :=
  if !negated then some s
  else if f.unicode then some s.complement
  else none

def perlSet? (f : Flags) (c : PerlClass) (negated : Bool) : Option CodePoints :=
  let set := match c, f.unicode with
    | .digit, true => (Unicode.category? "nd").getD .empty
    | .space, true => (Unicode.property? "whitespace").getD .empty
    | .word, true => wordSet
    | .digit, false => asciiClass "digit"
    | .space, false => asciiClass "space"
    | .word, false => asciiWordSet
  negate? f negated set

/-- A name in small letters, without separators and without `is` in front of it. -/
def looseName (name : List Char) : String :=
  let letters := fun (cs : List Char) =>
    (cs.filter fun c => c.toNat < 128 && c != ' ' && c != '_' && c != '-').map Char.toLower
  let startsWithIs := (name.take 2).map Char.toLower = ['i', 's']
  let plain := letters (if startsWithIs then name.drop 2 else name)
  if startsWithIs ∧ plain = ['c'] then "isc" else String.ofList plain

def categoryNamed? (name : String) : Option CodePoints :=
  match name with
  | "any" => some ⟨[(0, CodePoints.greatest)]⟩
  | "assigned" => (Unicode.category? "cn").map CodePoints.complement
  | "ascii" => some ⟨[(0, 0x7f)]⟩
  | name => Unicode.category? name

def propertySet? (q : PropertyQuery) : Option CodePoints :=
  match q with
  | .single name =>
    let name := looseName name
    let binary := if name = "cf" ∨ name = "sc" ∨ name = "lc" then none
      else Unicode.property? name
    (binary.or (categoryNamed? name)).or (Unicode.script? name)
  | .valued key value =>
    let value := looseName value
    match looseName key with
    | "gc" | "generalcategory" => categoryNamed? value
    | "sc" | "script" => Unicode.script? value
    | "scx" | "scriptextensions" => Unicode.scriptExtension? value
    | "age" => Unicode.age? value
    | "gcb" | "graphemeclusterbreak" => Unicode.graphemeBreak? value
    | "wb" | "wordbreak" => Unicode.wordBreak? value
    | "sb" | "sentencebreak" => Unicode.sentenceBreak? value
    | _ => none

/-- A property has to be known, and cannot be asked of bytes. -/
def negatedProperty? (f : Flags) (q : PropertyQuery) (negated : Bool) : Option CodePoints := do
  if !f.unicode then none
  let s ← propertySet? q
  negate? f negated (foldIfIgnored f s)

/-- The character of a literal outside of classes; without `unicode` a byte beyond 127 is no
character. -/
def literalChar? (f : Flags) (l : Literal) : Option Char :=
  if !f.unicode ∧ l.isByte ∧ 0x7f < l.char.toNat then none else some l.char

/-- The character of a literal in a class; without `unicode` it has to be one of ASCII. -/
def classChar? (f : Flags) (l : Literal) : Option Char :=
  if !f.unicode ∧ 0x7f < l.char.toNat then none else some l.char

mutual

def itemSet? (f : Flags) : ClassItem → Option CodePoints
  | .range first last => do
    let a ← classChar? f first
    let b ← classChar? f last
    return ⟨[(a.toNat, b.toNat)]⟩
  | .ascii name negated => negate? f negated (foldIfIgnored f (asciiClass name))
  | .perl c negated => perlSet? f c negated
  | .property q negated => negatedProperty? f q negated
  | .nested negated body => do
    let s ← bodySet? f body
    negate? f negated (foldIfIgnored f s)

def bodySet? (f : Flags) : ClassBody → Option CodePoints
  | .items members => membersSet? f members
  | .op kind left right => do
    let l ← bodySet? f left
    let r ← bodySet? f right
    let l := foldIfIgnored f l
    let r := foldIfIgnored f r
    return match kind with
      | .intersection => l.inter r
      | .difference => l.diff r
      | .symmetricDifference => l.symmDiff r

def membersSet? (f : Flags) : List ClassItem → Option CodePoints
  | [] => some .empty
  | item :: rest => do
    let s ← itemSet? f item
    let t ← membersSet? f rest
    return s.union t

end

def boundaryLook (f : Flags) (b : Boundary) : Look :=
  let w : WordSet := if f.unicode then .unicode else .ascii
  match b with
  | .startLine =>
    if !f.multiLine then .startText else if f.crlf then .startLineCrlf else .startLine
  | .endLine => if !f.multiLine then .endText else if f.crlf then .endLineCrlf else .endLine
  | .startText => .startText
  | .endText => .endText
  | .word => .word w
  | .notWord => .notWord w
  | .wordStart => .wordStart w
  | .wordEnd => .wordEnd w
  | .wordStartHalf => .wordStartHalf w
  | .wordEndHalf => .wordEndHalf w

def primitivePattern? (f : Flags) : Primitive → Option Pattern
  | .literal l => (literalChar? f l).map fun c =>
    .chars (if f.unicode ∨ c.toNat < 128 then foldIfIgnored f (.single c) else .single c)
  | .boundary b => some (.look (boundaryLook f b))
  | .perl c negated => (perlSet? f c negated).map .chars
  | .property q negated => (negatedProperty? f q negated).map .chars

/-- Every character, or all but the ends of lines. -/
def dotPattern? (f : Flags) : Option Pattern :=
  if !f.unicode then none
  else if f.dotMatchesNewline then some (.chars ⟨[(0, CodePoints.greatest)]⟩)
  else if f.crlf then some (.chars (CodePoints.complement ⟨[(10, 10), (13, 13)]⟩))
  else some (.chars (CodePoints.complement ⟨[(10, 10)]⟩))

mutual

/-- The pattern of a tree, and the flags that hold after it. -/
def pattern? (f : Flags) : Ast → Option (Pattern × Flags)
  | .empty => some (.empty, f)
  | .flags changes => some (.empty, f.apply changes)
  | .dot => (dotPattern? f).map (·, f)
  | .primitive p => (primitivePattern? f p).map (·, f)
  | .bracketed negated body => do
    let s ← bodySet? f body
    let s ← negate? f negated (foldIfIgnored f s)
    return (.chars s, f)
  | .repetition min max body => do
    let (p, f) ← pattern? f body
    return (.repetition min max p, f)
  | .group changes body => do
    let (p, _) ← pattern? (f.apply changes) body
    return (p, f)
  | .concat parts => concatPattern? f parts
  | .alternation branches => alternationPattern? f branches

def concatPattern? (f : Flags) : List Ast → Option (Pattern × Flags)
  | [] => some (.empty, f)
  | a :: rest => do
    let (p, f) ← pattern? f a
    let (q, f) ← concatPattern? f rest
    return (.seq p q, f)

def alternationPattern? (f : Flags) : List Ast → Option (Pattern × Flags)
  | [] => some (.chars .empty, f)
  | a :: rest => do
    let (p, f) ← pattern? f a
    let (q, f) ← alternationPattern? f rest
    return (.alt p q, f)

end

/-- The pattern that a text stands for, if it is well formed and not too big. -/
def compile? (text : List Char) : Option Pattern := do
  let a ← parse? text
  let (p, _) ← pattern? {} a
  if p.size ≤ sizeLimit then some p else none

end PlayerRegistry.Regex
