/-!
# Signed 64-bit words

Counters, offsets and durations are signed 64-bit words. Sums that leave the range wrap
around, as two's complement arithmetic does; differences of instants instead stop at the
nearer end of the range.
-/

namespace Conveyor.Word

/-- The least and greatest signed 64-bit words. -/
def least : Int := -(Int.pow 2 63)
def greatest : Int := Int.pow 2 63 - 1

/-- The word a result becomes when it wraps around. -/
def wrap (d : Int) : Int := (d + Int.pow 2 63) % Int.pow 2 64 - Int.pow 2 63

/-- A result that stops at the nearer end of the range. -/
def clamp (d : Int) : Int := if d < least then least else if d > greatest then greatest else d

end Conveyor.Word
