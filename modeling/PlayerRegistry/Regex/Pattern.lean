import PlayerRegistry.Text.CodePoints
import PlayerRegistry.Unicode.Category
import PlayerRegistry.Unicode.Property

/-!
# Patterns and what they match

A pattern is built of sets of characters and of conditions on a place in the text. `Matches` says
what it matches; `ends` finds the places where a match that begins at one of the given places can
end.
-/

namespace PlayerRegistry.Regex

/-- The characters of words: letters, marks, digits, connecting signs and joiners. -/
def wordSet : CodePoints :=
  ["alphabetic", "joincontrol"].foldl
    (fun s name => s.union ((Unicode.property? name).getD .empty))
    (["m", "nd", "pc"].foldl (fun s name => s.union ((Unicode.category? name).getD .empty)) .empty)

def asciiWordSet : CodePoints := ⟨[(0x30, 0x39), (0x41, 0x5a), (0x5f, 0x5f), (0x61, 0x7a)]⟩

/-- Which characters count as parts of words. -/
inductive WordSet where
  | ascii
  | unicode
  deriving DecidableEq

def WordSet.contains (w : WordSet) (c : Char) : Bool :=
  asciiWordSet.contains c.toNat || (w == .unicode && 128 ≤ c.toNat && wordSet.contains c.toNat)

/-- A condition on a place: where lines begin and end, and words. -/
inductive Look where
  | startText
  | endText
  | startLine
  | endLine
  | startLineCrlf
  | endLineCrlf
  | word (w : WordSet)
  | notWord (w : WordSet)
  | wordStart (w : WordSet)
  | wordEnd (w : WordSet)
  | wordStartHalf (w : WordSet)
  | wordEndHalf (w : WordSet)
  deriving DecidableEq

/-- Whether the condition holds between `before` and `after`, the characters on both sides if there
are any. -/
def Look.holds (l : Look) (before after : Option Char) : Bool :=
  let inWord (w : WordSet) (c : Option Char) : Bool := c.any w.contains
  match l with
  | startText => before.isNone
  | endText => after.isNone
  | startLine => before.isNone || before == some '\n'
  | endLine => after.isNone || after == some '\n'
  | startLineCrlf =>
    before.isNone || before == some '\n' || (before == some '\r' && after != some '\n')
  | endLineCrlf =>
    after.isNone || after == some '\r' || (after == some '\n' && before != some '\r')
  | word w => inWord w before != inWord w after
  | notWord w => inWord w before == inWord w after
  | wordStart w => !inWord w before && inWord w after
  | wordEnd w => inWord w before && !inWord w after
  | wordStartHalf w => !inWord w before
  | wordEndHalf w => !inWord w after

inductive Pattern where
  | empty
  | chars (set : CodePoints)
  | look (l : Look)
  | seq (p q : Pattern)
  | alt (p q : Pattern)
  | repetition (min : Nat) (max : Option Nat) (p : Pattern)

/-- `p` matches the text from place `i` to place `j`. -/
inductive Matches (text : List Char) : Pattern → Nat → Nat → Prop where
  | empty {i} : i ≤ text.length → Matches text .empty i i
  | chars {set i c} : text[i]? = some c → set.contains c.toNat = true →
      Matches text (.chars set) i (i + 1)
  | look {l i} : i ≤ text.length →
      l.holds (if i = 0 then none else text[i - 1]?) text[i]? = true →
      Matches text (.look l) i i
  | seq {p q i j k} : Matches text p i j → Matches text q j k → Matches text (.seq p q) i k
  | altLeft {p q i j} : Matches text p i j → Matches text (.alt p q) i j
  | altRight {p q i j} : Matches text q i j → Matches text (.alt p q) i j
  | stop {max p i} : i ≤ text.length → Matches text (.repetition 0 max p) i i
  | again {min max p i j k} : max ≠ some 0 → Matches text p i j →
      Matches text (.repetition (min - 1) (max.map (· - 1)) p) j k →
      Matches text (.repetition min max p) i k

/-- Places of both lists, without repetition. -/
def joinPlaces (a b : List Nat) : List Nat := a ++ b.filter fun i => !a.contains i

/-- `f` applied `n` times. -/
def times (f : List Nat → List Nat) : Nat → List Nat → List Nat
  | 0, places => places
  | n + 1, places => if places.isEmpty then [] else times f n (f places)

/-- The places reached by applying `f` up to `n` times. -/
def upTo (f : List Nat → List Nat) : Nat → List Nat → List Nat
  | 0, places => places
  | n + 1, places => upTo f n (joinPlaces places (f places))

/-- The places where matches that begin at `places` can end. -/
def ends (text : Array Char) : Pattern → List Nat → List Nat
  | .empty, places => places
  | .chars set, places =>
    (places.filter fun i => text[i]?.any fun c => set.contains c.toNat).map (· + 1)
  | .look l, places =>
    places.filter fun i => l.holds (if i = 0 then none else text[i - 1]?) text[i]?
  | .seq p q, places => ends text q (ends text p places)
  | .alt p q, places => joinPlaces (ends text p places) (ends text q places)
  | .repetition min max p, places =>
    let more := match max with
      | none => text.size + 1
      | some max => Nat.min (max - min) (text.size + 1)
    upTo (ends text p) more (times (ends text p) min places)

/-- Whether the pattern matches some part of the text. -/
def Pattern.occursIn (p : Pattern) (text : List Char) : Bool :=
  !(ends text.toArray p (List.range (text.length + 1))).isEmpty

/-- Whether the pattern matches the text from its start to its end. -/
def Pattern.covers (p : Pattern) (text : List Char) : Bool :=
  (ends text.toArray p [0]).contains text.length

/-- Memory that a compiled pattern may take, in bytes. -/
def sizeLimit : Nat := 10 * 1024 * 1024

def stateSize : Nat := 32

/-- An estimate of the memory that the compiled pattern takes. What a compiler really needs differs,
so that it decides about patterns near the limit in its own way. -/
def Pattern.size : Pattern → Nat
  | .empty => stateSize
  | .chars set => stateSize + 60 * set.ranges.length
  | .look _ => stateSize
  | .seq p q => p.size + q.size
  | .alt p q => stateSize + p.size + q.size
  | .repetition min max p =>
    match max with
    | none => (Nat.max min 1) * p.size + stateSize
    | some max => max * p.size + (max - min + 1) * stateSize

end PlayerRegistry.Regex
