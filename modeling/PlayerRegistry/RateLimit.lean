import PlayerRegistry.Error
import PlayerRegistry.Net.Address
import PlayerRegistry.Number.Shortest

/-!
# Rate limits

Each client may make so many requests per second, and as many at once. A client stands for the
time at which its allowance is full again: an accepted request moves that time on by one period,
and a request is refused while the time lies too far ahead.
-/

namespace PlayerRegistry

namespace RateLimit

/-- Times are counts of nanoseconds. -/
structure Quota where
  /-- The time in which one request is earned. -/
  period : Nat
  /-- The number of requests that can be made at once. -/
  burst : Nat
  deriving DecidableEq, Repr

/-- Why a rate cannot be enforced. -/
inductive Fault where
  /-- A rate that is not a number greater than zero. -/
  | unusable (rate : Binary64)
  /-- Requests that come less than a nanosecond apart. -/
  | tooFast
  /-- Requests that lie further apart than a clock of 64 bits reaches. -/
  | tooSlow
  deriving DecidableEq

def Fault.error : Fault → Error
  | unusable rate => .config ("Invalid requests_per_second: " ++ rate.toText)
  | tooFast => .config "Rate limit period is zero"
  | tooSlow => .internal "Rate limit period is too long"

def nanosPerSecond : Nat := 1000000000

def clockBound : Nat := UInt64.size

/-- The nearest whole number of nanoseconds to a number of seconds that is not negative. -/
def nanos? (seconds : Binary64) : Option Nat :=
  match seconds.value with
  | .finite _ mantissa exponent =>
    let (n, d) := Binary64.ratio mantissa exponent
    some (Binary64.roundDiv (n * nanosPerSecond) d)
  | _ => none

def greatestBurst : Nat := UInt32.size - 1

/-- The quota of a rate: one second's worth of requests at once, and one request at least. -/
def Quota.ofRate (rate : Binary64) : Except Fault Quota :=
  if !rate.isPositive || !rate.isFinite then .error (.unusable rate)
  else
    let burst := max 1 (min greatestBurst ((rate.ceil?).getD 1))
    match nanos? rate.inverse with
    | none => .error .tooSlow
    | some period =>
      if period = 0 then .error .tooFast
      else if clockBound ≤ period * burst then .error .tooSlow
      else .ok ⟨period, burst⟩

/-- Clients with the times at which their allowances are full. -/
structure Limiter where
  quota : Quota
  clients : List (IpAddress × Nat)

namespace Limiter

def ofRate (rate : Binary64) : Except Fault Limiter := (Quota.ofRate rate).map fun q => ⟨q, []⟩

/-- A client that has not been seen is one period ahead. -/
def fullAt (l : Limiter) (now : Nat) (client : IpAddress) : Nat :=
  (l.clients.lookup client).getD (now + l.quota.period)

def admits (l : Limiter) (now : Nat) (client : IpAddress) : Bool :=
  l.fullAt now client - l.quota.period * l.quota.burst ≤ now

def remember (client : IpAddress) (time : Nat) : List (IpAddress × Nat) → List (IpAddress × Nat)
  | [] => [(client, time)]
  | c :: rest => if c.1 = client then (client, time) :: rest else c :: remember client time rest

/-- A request of a client: whether it is admitted, and the limiter afterwards. -/
def check (l : Limiter) (now : Nat) (client : IpAddress) : Bool × Limiter :=
  if l.admits now client then
    let next := max (l.fullAt now client) now + l.quota.period
    (true, { l with clients := remember client next l.clients })
  else (false, l)

/-- Forgets the clients whose allowance is full. -/
def prune (l : Limiter) (now : Nat) : Limiter :=
  { l with clients := l.clients.filter fun c => now < c.2 }

/-- The number of clients that are remembered. -/
def size (l : Limiter) : Nat := l.clients.length

end Limiter

end RateLimit

end PlayerRegistry
