import PlayerRegistry.Deflate.Bits

/-!
# Prefix codes

A canonical code is given by the lengths of its words: shorter words come first, and words of one
length are in the order of their symbols.
-/

namespace PlayerRegistry.Deflate

/-- How many words there are of each length from 1 to 15, and the symbols in the order of their
words. -/
structure Code where
  counts : List Nat
  symbols : Array Nat

namespace Code

def maxLength : Nat := 15

/-- Words that are left over after the given numbers of words of lengths 1, 2, … have been used;
none if there are too few. -/
def leftOver? : Nat → List Nat → Option Nat
  | left, [] => some left
  | left, count :: counts => if 2 * left < count then none else leftOver? (2 * left - count) counts

/-- The code whose symbol `k` has a word of length `lengths[k]`, or no word if that is zero. Every
sequence of bits has to begin with a word, except that a code of at most one word is accepted
where `sparse` allows it. -/
def ofLengths? (sparse : Bool) (lengths : List Nat) : Option Code :=
  let counts := (List.range' 1 maxLength).map fun n => lengths.count n
  let symbols := (List.range' 1 maxLength).flatMap fun n =>
    (lengths.zipIdx.filter fun (l, _) => l == n).map Prod.snd
  match leftOver? 1 counts with
  | none => none
  | some left =>
    if left = 0 ∨ (sparse ∧ symbols.length ≤ 1) then some ⟨counts, symbols.toArray⟩ else none

/-- Reads the rest of a word. `code` is what has been read, `first` the least word of this length,
and `index` the number of shorter words. -/
def symbolFrom? (symbols : Array Nat) :
    List Nat → (code first index : Nat) → Bits → Option (Nat × Bits)
  | [], _, _, _, _ => none
  | count :: counts, code, first, index, b => do
    let (bit, b) ← b.bit?
    let code := 2 * code + bit
    let first := 2 * first
    if code < first + count then
      let symbol ← symbols[index + (code - first)]?
      return (symbol, b)
    else symbolFrom? symbols counts code (first + count) (index + count) b

/-- The symbol whose word comes next. -/
def symbol? (c : Code) (b : Bits) : Option (Nat × Bits) := symbolFrom? c.symbols c.counts 0 0 0 b

end Code

end PlayerRegistry.Deflate
