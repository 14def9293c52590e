import Conveyor.Decimal.Binary
import Conveyor.Time.Duration
/-!
# Retry policy

How often and how long a message is retried: `maxRetries` retries after the first attempt,
exponential backoff from `baseNs` doubling up to `maxNs`, a jitter fraction applied to each
wait, and an overall deadline (`0` for none).

The wait after the `n`-th failed attempt is `baseNs * 2^(n-1)`, computed in doubles and cut to
whole nanoseconds, kept within `[baseNs, maxNs]`; then multiplied by `1 + jitter * (2r - 1)`
for a random `r` in `[0, 1)`, cut again, and kept within `[0, maxNs]`. With no base there is
no wait at all.
-/

namespace Conveyor.Retry

/-- A retry policy. -/
structure Config where
  maxRetries : Int := 0
  baseNs : Int := 0
  maxNs : Int := 0
  jitter : Float := 0
  deadlineNs : Int := 0

/-- The policy as the engine uses it: no negative retry count, a ceiling no lower than the
base, and a jitter within `[0, 1]`. -/
def Config.normalize (c : Config) : Config :=
  { c with
    maxRetries := max c.maxRetries 0
    maxNs := if c.maxNs < c.baseNs then c.baseNs else c.maxNs
    jitter := if c.jitter < 0 then 0 else if c.jitter > 1 then 1 else c.jitter }

/-- The largest double that converts to a 64-bit duration without overflow: `2^63 - 1024`. -/
def durationCeiling : Float := Binary.ofInt (Int.pow 2 63 - 1024)

/-- **The exponential wait** before jitter for attempt index `k` (from zero), with floor
`lo` and ceiling `hi` (a non-positive floor means 100 ms, a non-positive ceiling 10 s). -/
def exponential (lo hi : Int) (k : Nat) : Int :=
  let lo := if lo ≤ 0 then 100 * Duration.millisecond else lo
  let hi := if hi ≤ 0 then 10 * Duration.second else hi
  if lo ≥ hi then hi else
  let d := Binary.ofInt lo * Binary.ofInt (Int.pow 2 k)
  if d > durationCeiling then hi else
  let n := Binary.toInt64 d
  if n < lo then lo else if n > hi then hi else n

/-- Whether a policy draws a random number for each wait. -/
def Config.jitters (c : Config) : Bool := c.jitter > 0

/-- **The wait after the `made`-th failed attempt**, with random draw `r` (used only when the
policy jitters). -/
def Config.delay (c : Config) (made : Nat) (r : Float) : Int :=
  if c.baseNs ≤ 0 then 0 else
  let d := exponential c.baseNs c.maxNs (made - 1)
  let d := if c.jitters then Binary.toInt64 (Binary.ofInt d * (1 + c.jitter * (2 * r - 1))) else d
  if d > c.maxNs then c.maxNs else if d < 0 then 0 else d

/-- How long to wait when a guard refuses a call but names no cool-down: the base, or 10 ms. -/
def Config.poll (c : Config) : Int := if c.baseNs > 0 then c.baseNs else 10 * Duration.millisecond

end Conveyor.Retry
