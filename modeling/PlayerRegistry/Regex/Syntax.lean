/-!
# Syntax of regular expressions

The tree that a written pattern stands for, before flags are applied.
-/

namespace PlayerRegistry.Regex

inductive Flag where
  | ignoreCase
  | multiLine
  | dotMatchesNewline
  | swapGreed
  | unicode
  | crlf
  | ignoreBlank
  deriving DecidableEq, Repr

/-- Flags that are switched on or off. -/
abbrev FlagChanges := List (Flag × Bool)

/-- A place between characters. -/
inductive Boundary where
  | startLine
  | endLine
  | startText
  | endText
  | word
  | notWord
  | wordStart
  | wordEnd
  | wordStartHalf
  | wordEndHalf
  deriving DecidableEq, Repr

inductive PerlClass where
  | digit
  | space
  | word
  deriving DecidableEq, Repr

/-- The name of a property of characters, with a value if it has several. -/
inductive PropertyQuery where
  | single (name : List Char)
  | valued (name value : List Char)
  deriving DecidableEq, Repr

/-- A character as written; `isByte` where it is given as a byte of two digits. -/
structure Literal where
  char : Char
  isByte : Bool
  deriving DecidableEq, Repr

/-- What an escape or a plain character stands for. -/
inductive Primitive where
  | literal (l : Literal)
  | boundary (b : Boundary)
  | perl (c : PerlClass) (negated : Bool)
  | property (q : PropertyQuery) (negated : Bool)
  deriving DecidableEq, Repr

inductive ClassOp where
  | intersection
  | difference
  | symmetricDifference
  deriving DecidableEq, Repr

mutual

/-- A member of a class in brackets. -/
inductive ClassItem where
  | range (first last : Literal)
  | ascii (name : String) (negated : Bool)
  | perl (c : PerlClass) (negated : Bool)
  | property (q : PropertyQuery) (negated : Bool)
  | nested (negated : Bool) (body : ClassBody)

/-- What stands in brackets: members, or two bodies and an operator between them. -/
inductive ClassBody where
  | items (members : List ClassItem)
  | op (kind : ClassOp) (left right : ClassBody)

end

inductive Ast where
  | empty
  | flags (changes : FlagChanges)
  | dot
  | primitive (p : Primitive)
  | bracketed (negated : Bool) (body : ClassBody)
  | repetition (min : Nat) (max : Option Nat) (body : Ast)
  | group (changes : FlagChanges) (body : Ast)
  | concat (parts : List Ast)
  | alternation (branches : List Ast)

/-- The smallest nesting of compound trees that is refused. -/
def nestLimit : Nat := 250

mutual

def ClassItem.depth : ClassItem → Nat
  | .nested _ body => 1 + body.depth
  | _ => 0

/-- Several members are one level more than a single one. -/
def ClassBody.depth : ClassBody → Nat
  | .items [item] => item.depth
  | .items members => (if members.isEmpty then 0 else 1) + ClassBody.depthOf members
  | .op _ left right => 1 + max left.depth right.depth

def ClassBody.depthOf : List ClassItem → Nat
  | [] => 0
  | item :: rest => max item.depth (ClassBody.depthOf rest)

end

mutual

def Ast.depth : Ast → Nat
  | .bracketed _ body => 1 + body.depth
  | .repetition _ _ body => 1 + body.depth
  | .group _ body => 1 + body.depth
  | .concat parts => 1 + Ast.depthOf parts
  | .alternation branches => 1 + Ast.depthOf branches
  | _ => 0

def Ast.depthOf : List Ast → Nat
  | [] => 0
  | a :: rest => max a.depth (Ast.depthOf rest)

end

end PlayerRegistry.Regex
