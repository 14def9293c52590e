/-!
# Time stamps

Instants are nanoseconds since the Unix epoch, in UTC. Their text is RFC 3339 with the
fraction of a second written only as far as it is not zero (`2023-11-14T22:13:20.01Z`). The
zero instant of the engine's clock, which stands for "no time", is year one, written
`0001-01-01T00:00:00Z`.
-/

namespace Conveyor.Stamp

/-- The civil date of a day number counted from 1970-01-01: year, month, day. -/
def civil (days : Int) : Int × Nat × Nat :=
  let z := days + 719468
  let era := (if z ≥ 0 then z else z - 146096) / 146097
  let doe := z - era * 146097
  let yoe := (doe - doe / 1460 + doe / 36524 - doe / 146096) / 365
  let y := yoe + era * 400
  let doy := doe - (365 * yoe + yoe / 4 - yoe / 100)
  let mp := (5 * doy + 2) / 153
  let d := doy - (153 * mp + 2) / 5 + 1
  let m := if mp < 10 then mp + 3 else mp - 9
  ((if m ≤ 2 then y + 1 else y), m.toNat, d.toNat)

/-- A number in at least `width` digits. -/
def padded (n : Nat) (width : Nat) : String :=
  let s := toString n
  String.ofList (List.replicate (width - s.length) '0') ++ s

/-- The fraction of a second in nanoseconds, after a point, without trailing zeros. -/
def fraction (ns : Nat) : String :=
  if ns = 0 then "" else
  let s := padded ns 9
  "." ++ String.ofList ((s.toList.reverse.dropWhile (· = '0')).reverse)

/-- **The RFC 3339 text of an instant** given in nanoseconds since the Unix epoch. -/
def text (unixNs : Int) : String :=
  let secs := unixNs / 1000000000
  let ns := (unixNs % 1000000000).toNat
  let days := secs / 86400
  let daySecs := (secs % 86400).toNat
  let (y, m, d) := civil days
  padded y.toNat 4 ++ "-" ++ padded m 2 ++ "-" ++ padded d 2 ++ "T" ++
    padded (daySecs / 3600) 2 ++ ":" ++ padded (daySecs / 60 % 60) 2 ++ ":" ++
    padded (daySecs % 60) 2 ++ fraction ns ++ "Z"

/-- The text of "no time". -/
def zeroText : String := "0001-01-01T00:00:00Z"

end Conveyor.Stamp
