/-!
# Modular arithmetic

Powers and inverses modulo a number, and a test for primes.
-/

namespace PlayerRegistry.Modular

/-- `acc * b ^ e` modulo `m`, by the binary digits of `e`. -/
def powLoop (m b e acc : Nat) : Nat :=
  if _h : e = 0 then acc
  else
    let acc := if e % 2 = 1 then acc * b % m else acc
    powLoop m (b * b % m) (e / 2) acc
termination_by e
decreasing_by omega

def pow (b e m : Nat) : Nat := powLoop m (b % m) e (1 % m)

/-- The greatest common divisor of `a` and `b` with the factor of `a` in it, given the factors
`x` and `y` with which the two were made. -/
def gcdFactor (a b : Nat) (x y : Int) : Nat × Int :=
  if _h : b = 0 then (a, x)
  else gcdFactor b (a % b) y (x - (a / b : Nat) * y)
termination_by b
decreasing_by exact Nat.mod_lt _ (by omega)

/-- The number whose product with `a` is one modulo `m`. -/
def inverse? (a m : Nat) : Option Nat :=
  let (g, x) := gcdFactor (a % m) m 1 0
  if g = 1 then some (x % m).toNat else none

def smallPrimes : List Nat :=
  (List.range 1000).filter fun n => 2 ≤ n && (List.range n).all fun d => d < 2 || n % d ≠ 0

/-- `n - 1` as a power of two times an odd number. -/
def oddPart (fuel n twos : Nat) : Nat × Nat :=
  match fuel with
  | 0 => (n, twos)
  | fuel + 1 => if n % 2 = 0 then oddPart fuel (n / 2) (twos + 1) else (n, twos)

/-- Whether `x`, squared up to `twos - 1` times, comes to `n - 1`. -/
def reachesMinusOne (n : Nat) : (twos x : Nat) → Bool
  | 0, _ => false
  | twos + 1, x => x == n - 1 || reachesMinusOne n twos (x * x % n)

/-- Whether `base` gives no proof that the odd number `n` is composite. -/
def passes (n base : Nat) : Bool :=
  let (odd, twos) := oddPart n.log2 (n - 1) 0
  let x := pow base odd n
  x == 1 || reachesMinusOne n twos x

/-- A test that every prime passes, and hardly any other number. -/
def isProbablePrime (n : Nat) : Bool :=
  if n < 1000000 then 2 ≤ n && smallPrimes.all fun p => n % p ≠ 0 || n == p
  else smallPrimes.all (fun p => n % p ≠ 0) && (smallPrimes.take 24).all (passes n)

end PlayerRegistry.Modular
