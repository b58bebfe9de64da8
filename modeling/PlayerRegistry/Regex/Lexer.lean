import PlayerRegistry.Regex.Syntax
import PlayerRegistry.Text.Blank
import PlayerRegistry.Unicode.Category
import PlayerRegistry.Unicode.Property

/-!
# Items of a pattern

A written pattern is a sequence of items: atoms, repetition signs, bars and brackets. Where `x` is
true, blanks and comments between items do not count. Every reader gives what follows the item, or
none where the pattern is malformed.
-/

namespace PlayerRegistry.Regex

open Text (isBlank)

/-- Drops blanks, and comments from `#` to the end of the line. -/
def dropComments : (inComment : Bool) → List Char → List Char
  | _, [] => []
  | true, c :: cs => dropComments (c ≠ '\n') cs
  | false, c :: cs =>
    if isBlank c then dropComments false cs
    else if c = '#' then dropComments true cs
    else c :: cs

def skip (x : Bool) (cs : List Char) : List Char := if x then dropComments false cs else cs

/-- The characters up to a closing brace, and what follows it. -/
def untilBrace? (x : Bool) : (inComment : Bool) → List Char → Option (List Char × List Char)
  | _, [] => none
  | true, c :: cs => untilBrace? x (c ≠ '\n') cs
  | false, c :: cs =>
    if x && isBlank c then untilBrace? x false cs
    else if x && c == '#' then untilBrace? x true cs
    else if c = '\x7d' then some ([], cs)
    else (untilBrace? x false cs).map fun (name, rest) => (c :: name, rest)

def hexDigit? (c : Char) : Option Nat :=
  if '0' ≤ c ∧ c ≤ '9' then some (c.toNat - 48)
  else if 'a' ≤ c ∧ c ≤ 'f' then some (c.toNat - 87)
  else if 'A' ≤ c ∧ c ≤ 'F' then some (c.toNat - 55)
  else none

/-- The character whose code is written with these digits. -/
def ofHex? (digits : List Char) : Option Char := do
  if digits = [] then none
  let values ← digits.mapM hexDigit?
  let n := values.foldl (fun n d => 16 * n + d) 0
  if n.isValidChar then some (Char.ofNat n) else none

/-- Takes `n` characters, each with the blanks after it. -/
def takeSpaced? (x : Bool) : Nat → List Char → Option (List Char × List Char)
  | 0, cs => some ([], cs)
  | _ + 1, [] => none
  | n + 1, c :: cs => (takeSpaced? x n (skip x cs)).map fun (taken, rest) => (c :: taken, rest)

/-- The code after `\x`, `\u` or `\U`: in braces, or with a fixed number of digits. -/
def hexLiteral? (x : Bool) (width : Nat) (cs : List Char) : Option (Literal × List Char) :=
  match skip x cs with
  | '\x7b' :: cs => do
    let (digits, rest) ← untilBrace? x false cs
    let c ← ofHex? digits
    return (⟨c, false⟩, skip x rest)
  | cs => do
    let (digits, rest) ← takeSpaced? x width cs
    let c ← ofHex? digits
    return (⟨c, width == 2⟩, rest)

/-- What comes before and after the first occurrence of `mark`. -/
def splitAt? (mark : List Char) : List Char → Option (List Char × List Char)
  | [] => none
  | c :: cs =>
    if mark.isPrefixOf (c :: cs) then some ([], (c :: cs).drop mark.length)
    else (splitAt? mark cs).map fun (before, after) => (c :: before, after)

/-- The property named in braces; with `!=` it is negated. -/
def propertyOf (name : List Char) : PropertyQuery × Bool :=
  match splitAt? "!=".toList name with
  | some (key, value) => (.valued key value, true)
  | none =>
    match splitAt? ":".toList name with
    | some (key, value) => (.valued key value, false)
    | none =>
      match splitAt? "=".toList name with
      | some (key, value) => (.valued key value, false)
      | none => (.single name, false)

/-- The property after `\p` or `\P`. -/
def property? (x negated : Bool) (cs : List Char) : Option (Primitive × List Char) :=
  match skip x cs with
  | '\x7b' :: cs => do
    let (name, rest) ← untilBrace? x false cs
    let (query, inverted) := propertyOf name
    return (.property query (negated != inverted), rest)
  | c :: cs => if c = '\\' then none else some (.property (.single [c]) negated, skip x cs)
  | [] => none

def isWordBoundaryChar (c : Char) : Bool :=
  ('A' ≤ c && c ≤ 'Z') || ('a' ≤ c && c ≤ 'z') || c == '-'

/-- Takes the letters and dashes of a name, each with the blanks after it. -/
def boundaryName (x : Bool) : Nat → List Char → List Char × List Char
  | 0, cs => ([], cs)
  | fuel + 1, cs =>
    match cs with
    | c :: rest =>
      if isWordBoundaryChar c then
        let (name, rest) := boundaryName x fuel (skip x rest)
        (c :: name, rest)
      else ([], c :: rest)
    | [] => ([], [])

/-- The word boundary after `\b`, which may have a name in braces. A brace that does not begin a
name begins a repetition. -/
def wordBoundary? (x : Bool) (cs : List Char) : Option (Boundary × List Char) :=
  match cs with
  | '\x7b' :: inner =>
    match skip x inner with
    | [] => none
    | c :: more =>
      if !isWordBoundaryChar c then some (.word, cs)
      else
        let (name, rest) := boundaryName x (more.length + 1) (c :: more)
        match rest with
        | '\x7d' :: rest =>
          match String.ofList name with
          | "start" => some (.wordStart, rest)
          | "end" => some (.wordEnd, rest)
          | "start-half" => some (.wordStartHalf, rest)
          | "end-half" => some (.wordEndHalf, rest)
          | _ => none
        | _ => none
  | _ => some (.word, cs)

/-- Characters with a meaning of their own, which an escape takes from them. -/
def metaCharacters : List Char := "\\.+*?()|[]\x7b\x7d^$#&-~".toList

/-- A character that may be escaped though it needs not be. -/
def isEscapable (c : Char) : Bool :=
  metaCharacters.contains c ||
    (c.toNat < 128 && !c.isAlphanum && c != '<' && c != '>')

/-- What stands after a backslash. -/
def escape? (x : Bool) : List Char → Option (Primitive × List Char)
  | [] => none
  | c :: cs =>
    let char (n : Nat) : Option (Primitive × List Char) :=
      some (.literal ⟨Char.ofNat n, false⟩, cs)
    let boundary (b : Boundary) : Option (Primitive × List Char) := some (.boundary b, cs)
    match c with
    | 'x' => (hexLiteral? x 2 cs).map fun (l, rest) => (.literal l, rest)
    | 'u' => (hexLiteral? x 4 cs).map fun (l, rest) => (.literal l, rest)
    | 'U' => (hexLiteral? x 8 cs).map fun (l, rest) => (.literal l, rest)
    | 'p' => property? x false cs
    | 'P' => property? x true cs
    | 'd' => some (.perl .digit false, cs)
    | 'D' => some (.perl .digit true, cs)
    | 's' => some (.perl .space false, cs)
    | 'S' => some (.perl .space true, cs)
    | 'w' => some (.perl .word false, cs)
    | 'W' => some (.perl .word true, cs)
    | 'a' => char 7
    | 'f' => char 12
    | 't' => char 9
    | 'n' => char 10
    | 'r' => char 13
    | 'v' => char 11
    | 'A' => boundary .startText
    | 'z' => boundary .endText
    | 'b' => (wordBoundary? x cs).map fun (b, rest) => (.boundary b, rest)
    | 'B' => boundary .notWord
    | '<' => boundary .wordStart
    | '>' => boundary .wordEnd
    | c => if isEscapable c then some (.literal ⟨c, false⟩, cs) else none

def asciiNames : List String :=
  ["alnum", "alpha", "ascii", "blank", "cntrl", "digit", "graph", "lower", "print", "punct",
    "space", "upper", "word", "xdigit"]

/-- A class such as `[:alpha:]`, after its first bracket. -/
def asciiClass? (cs : List Char) : Option (ClassItem × List Char) :=
  match cs with
  | ':' :: cs =>
    let (negated, cs) := match cs with
      | '^' :: rest => (true, rest)
      | cs => (false, cs)
    let name := String.ofList (cs.takeWhile (· ≠ ':'))
    match cs.dropWhile (· ≠ ':') with
    | ':' :: ']' :: rest =>
      if asciiNames.contains name then some (.ascii name negated, rest) else none
    | _ => none
  | _ => none

/-- One end of a range, or a member of its own. -/
def classPrimitive? (x : Bool) : List Char → Option (Primitive × List Char)
  | [] => none
  | '\\' :: cs => escape? x cs
  | c :: cs => some (.literal ⟨c, false⟩, cs)

def classItemOf? : Primitive → Option ClassItem
  | .literal l => some (.range l l)
  | .perl c negated => some (.perl c negated)
  | .property q negated => some (.property q negated)
  | .boundary _ => none

/-- A member of a class: a range, or a single primitive. A dash before the closing bracket or
before another dash does not make a range. -/
def classRange? (x : Bool) (cs : List Char) : Option (ClassItem × List Char) := do
  let (first, cs) ← classPrimitive? x cs
  let cs := skip x cs
  match cs with
  | [] => none
  | '-' :: more =>
    let after := skip x more
    if after.head? = some ']' ∨ after.head? = some '-' then
      return (← classItemOf? first, cs)
    else
      let (last, cs) ← classPrimitive? x after
      match first, last with
      | .literal a, .literal b => if a.char ≤ b.char then some (.range a b, cs) else none
      | _, _ => none
  | cs => return (← classItemOf? first, cs)

/-- The beginning of a class after its bracket: a negation, and dashes or a closing bracket that
stand for themselves. -/
def classOpening? (x : Bool) (cs : List Char) : Option ((Bool × List ClassItem) × List Char) :=
  let cs := skip x cs
  let (negated, cs) := match cs with
    | '^' :: rest => (true, skip x rest)
    | cs => (false, cs)
  dashes cs.length negated [] cs
where
  dashes : Nat → Bool → List ClassItem → List Char →
      Option ((Bool × List ClassItem) × List Char)
    | _, _, _, [] => none
    | 0, negated, items, cs => some ((negated, items), cs)
    | fuel + 1, negated, items, c :: rest =>
      let one : ClassItem := .range ⟨c, false⟩ ⟨c, false⟩
      if c = '-' then dashes fuel negated (items ++ [one]) (skip x rest)
      else if c = ']' ∧ items.isEmpty then
        match skip x rest with
        | [] => none
        | rest => some ((negated, [one]), rest)
      else some ((negated, items), c :: rest)

/-- The body so far: an operator with its left side, and the members after it. -/
def ClassBody.close (pending : Option (ClassOp × ClassBody)) (items : List ClassItem) :
    ClassBody :=
  match pending with
  | none => .items items
  | some (kind, left) => .op kind left (.items items)

/-- The rest of a class up to its closing bracket. -/
def classBody? (x : Bool) : Nat → Option (ClassOp × ClassBody) → List ClassItem → List Char →
    Option (ClassBody × List Char)
  | 0, _, _, _ => none
  | fuel + 1, pending, items, cs =>
    let operator (kind : ClassOp) (rest : List Char) :=
      classBody? x fuel (some (kind, ClassBody.close pending items)) [] rest
    match skip x cs with
    | [] => none
    | ']' :: rest => some (ClassBody.close pending items, rest)
    | '&' :: '&' :: rest => operator .intersection rest
    | '-' :: '-' :: rest => operator .difference rest
    | '~' :: '~' :: rest => operator .symmetricDifference rest
    | '[' :: rest =>
      match asciiClass? rest with
      | some (item, rest) => classBody? x fuel pending (items ++ [item]) rest
      | none => do
        let ((negated, first), inner) ← classOpening? x rest
        let (body, rest) ← classBody? x fuel none first inner
        classBody? x fuel pending (items ++ [.nested negated body]) rest
    | cs => do
      let (item, rest) ← classRange? x cs
      classBody? x fuel pending (items ++ [item]) rest

/-- A class after its bracket. -/
def class? (x : Bool) (cs : List Char) : Option (Ast × List Char) := do
  let ((negated, first), inner) ← classOpening? x cs
  let (body, rest) ← classBody? x (inner.length + 1) none first inner
  return (.bracketed negated body, rest)

/-- Digits, each with the blanks after it. -/
def spacedDigits (x : Bool) : Nat → List Char → List Char × List Char
  | 0, cs => ([], cs)
  | fuel + 1, cs =>
    match cs with
    | c :: rest =>
      if '0' ≤ c ∧ c ≤ '9' then
        let (digits, rest) := spacedDigits x fuel (skip x rest)
        (c :: digits, rest)
      else ([], c :: rest)
    | [] => ([], [])

def decimal (x : Bool) (cs : List Char) : List Char × List Char :=
  let cs := cs.dropWhile isBlank
  let (digits, rest) := spacedDigits x cs.length cs
  (digits, rest.dropWhile isBlank)

/-- The number of a repetition, which is below `2 ^ 32`. -/
def repetitionCount? (digits : List Char) : Option Nat :=
  let n := digits.foldl (fun n c => 10 * n + (c.toNat - 48)) 0
  if digits ≠ [] ∧ n < UInt32.size then some n else none

/-- The bounds of a repetition, after the opening brace up to the closing one. -/
def bounds? (x : Bool) (cs : List Char) : Option ((Nat × Option Nat) × List Char) :=
  let (digits, rest) := decimal x (skip x cs)
  match rest with
  | '\x7d' :: rest => (repetitionCount? digits).map fun n => ((n, some n), rest)
  | ',' :: rest =>
    match skip x rest with
    | '\x7d' :: rest => (repetitionCount? digits).map fun n => ((n, none), rest)
    | cs => do
      let min ← repetitionCount? digits
      let (digits, rest) := decimal x cs
      let max ← repetitionCount? digits
      match rest with
      | '\x7d' :: rest => if min ≤ max then some ((min, some max), rest) else none
      | _ => none
  | _ => none

/-- Drops the question mark that makes a repetition reluctant: which matches there are does not
depend on it. -/
def dropReluctance : List Char → List Char
  | '?' :: cs => cs
  | cs => cs

def flag? : Char → Option Flag
  | 'i' => some .ignoreCase
  | 'm' => some .multiLine
  | 's' => some .dotMatchesNewline
  | 'U' => some .swapGreed
  | 'u' => some .unicode
  | 'R' => some .crlf
  | 'x' => some .ignoreBlank
  | _ => none

/-- The flags up to a colon or a closing bracket, and which of the two it is. Each flag may occur
once, and one negation, which may not be the last sign. -/
def flags? : (negated dangling : Bool) → FlagChanges → List Char →
    Option ((FlagChanges × Bool) × List Char)
  | _, _, _, [] => none
  | negated, dangling, changes, c :: cs =>
    if c = ':' ∨ c = ')' then
      if dangling then none else some ((changes, c == ':'), cs)
    else if c = '-' then if negated then none else flags? true true changes cs
    else do
      let f ← flag? c
      if changes.any fun change => change.1 == f then none
      flags? negated false (changes ++ [(f, !negated)]) cs

def isLetter (c : Char) : Bool :=
  c.isAlpha || (128 ≤ c.toNat &&
    ((Unicode.property? "alphabetic").map fun s => s.contains c.toNat).getD false)

def isNumeral (c : Char) : Bool :=
  c.isDigit ||
    (128 ≤ c.toNat && ((Unicode.category? "n").map fun s => s.contains c.toNat).getD false)

/-- The name of a group begins with a letter or underscore. -/
def isGroupName : List Char → Bool
  | [] => false
  | first :: rest =>
    (first == '_' || isLetter first) &&
      rest.all fun c => c == '_' || c == '.' || c == '[' || c == ']' || isLetter c || isNumeral c

/-- The name of a group up to `>`. -/
def groupName? (cs : List Char) : Option (List Char × List Char) :=
  let name := cs.takeWhile (· ≠ '>')
  match cs.dropWhile (· ≠ '>') with
  | _ :: rest => if isGroupName name then some (name, rest) else none
  | [] => none

inductive Item where
  | atom (a : Ast)
  | repetition (min : Nat) (max : Option Nat)
  | bar
  | close
  | opening (changes : FlagChanges) (name : Option (List Char))
  | flags (changes : FlagChanges)

/-- The beginning of a group, after its bracket. -/
def opening? (x : Bool) (cs : List Char) : Option (Item × List Char) :=
  match skip x cs with
  | '?' :: '=' :: _ | '?' :: '!' :: _ | '?' :: '<' :: '=' :: _ | '?' :: '<' :: '!' :: _ => none
  | '?' :: 'P' :: '<' :: cs | '?' :: '<' :: cs =>
    (groupName? cs).map fun (name, rest) => (.opening [] (some name), rest)
  | '?' :: cs => do
    let ((changes, isGroup), rest) ← flags? false false [] cs
    if isGroup then return (.opening changes none, rest)
    else if changes.isEmpty then none
    else return (.flags changes, rest)
  | cs => some (.opening [] none, cs)

/-- The next item of a pattern, which is not at its end. -/
def item? (x : Bool) : List Char → Option (Item × List Char)
  | [] => none
  | c :: cs =>
    match c with
    | '(' => opening? x cs
    | ')' => some (.close, cs)
    | '|' => some (.bar, cs)
    | '[' => (class? x cs).map fun (a, rest) => (.atom a, rest)
    | '?' => some (.repetition 0 (some 1), dropReluctance cs)
    | '*' => some (.repetition 0 none, dropReluctance cs)
    | '+' => some (.repetition 1 none, dropReluctance cs)
    | '\x7b' => (bounds? x cs).map fun ((min, max), rest) =>
      (.repetition min max, dropReluctance (skip x rest))
    | '\\' => (escape? x cs).map fun (p, rest) => (.atom (.primitive p), rest)
    | '.' => some (.atom .dot, cs)
    | '^' => some (.atom (.primitive (.boundary .startLine)), cs)
    | '$' => some (.atom (.primitive (.boundary .endLine)), cs)
    | c => some (.atom (.primitive (.literal ⟨c, false⟩)), cs)

end PlayerRegistry.Regex
