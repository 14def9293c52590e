import Conveyor.Fault
import Conveyor.Word
/-!
# Worker limiter

A limiter bounds how many messages are processed at once with a pool of tokens. Taking a
token fails once the limiter is closed, or once shutdown has begun; with no token left the
caller waits. Giving tokens back never raises the pool above its capacity.
-/

namespace Conveyor

/-- A pool of worker tokens. -/
structure Limiter where
  capacity : Int
  tokens : Int
  closed : Bool := false

/-- What taking a token came to. -/
inductive TakeOutcome where
  | taken
  | refused (f : Fault)
  /-- No token is free: the caller must wait. -/
  | empty

namespace Limiter

/-- A full pool; a capacity that is not positive is one. -/
def create (capacity : Int) : Limiter :=
  let c := if capacity ≤ 0 then 1 else capacity
  { capacity := c, tokens := c }

/-- **Taking a token.** A closed limiter refuses first, then a begun shutdown. -/
def take (l : Limiter) (shutdown : Option Fault) : TakeOutcome × Limiter :=
  if l.closed then (.refused (.sentinel .limiterClosed), l)
  else match shutdown with
    | some f => (.refused f, l)
    | none => if l.tokens = 0 then (.empty, l) else (.taken, { l with tokens := Word.wrap (l.tokens - 1) })

/-- **Giving back** `n` tokens, up to the capacity; the count wraps as a 64-bit word. -/
def give (l : Limiter) (n : Int) : Limiter := { l with tokens := min (Word.wrap (l.tokens + n)) l.capacity }

/-- Tokens in use, as a 64-bit word. -/
def inUse (l : Limiter) : Int := Word.wrap (l.capacity - l.tokens)

/-- Closes the limiter. -/
def close (l : Limiter) : Limiter := { l with closed := true }

end Limiter

end Conveyor
