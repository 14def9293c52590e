/-!
# Timestamps

A plain scalar that starts with a four-digit year and a dash may be a timestamp, in one of four
forms, tried in turn:

* `yyyy-m-dTh:m:s` with an optional fraction and a zone (`Z`, or `±hh:mm`), or the same with a
  lower-case `t`;
* `yyyy-m-d h:m:s` with an optional fraction and no zone, any number of spaces before the
  clock;
* `yyyy-m-d` alone.

Month, day, hour, minute and second take one or two digits; a fraction is a point or comma and
any number of digits, of which the first nine count. The month must be 1 to 12, the day must
exist in that month, hours are below 24, minutes and seconds below 60, and a zone's hours may
reach 24 and its minutes 60.

A timestamp without a zone, or with `Z`, is in UTC. One whose offset is zero is in the local
zone, which is UTC; any other offset makes a zone of its own, with no name.

A timestamp is shown as `2001-12-14 21:59:43.1 +0000 UTC`: fraction digits without trailing
zeros, and a zone with no name shown as its offset again (`-0500 -0500`). In the syntax of a
value it is `time.Date(2001, time.December, 14, 21, 59, 43, 100000000, time.UTC)`.
-/

namespace Conveyor.Yaml

/-- The zone of a timestamp. -/
inductive Zone where
  | utc
  /-- The local zone, which is UTC. -/
  | local
  /-- A zone with no name, this many seconds east of UTC. -/
  | fixed (seconds : Int)
  deriving DecidableEq, Repr

/-- A point in time as a timestamp writes it: the wall clock and its zone. -/
structure Timestamp where
  year : Nat
  month : Nat
  day : Nat
  hour : Nat
  minute : Nat
  second : Nat
  nanos : Nat
  zone : Zone
  deriving DecidableEq, Repr

namespace Timestamp

/-- Reads one or two digits. -/
def twoDigits : List Char → Option (Nat × List Char)
  | a :: b :: rest =>
    if a.isDigit then
      if b.isDigit then some ((a.toNat - 48) * 10 + (b.toNat - 48), rest)
      else some (a.toNat - 48, b :: rest)
    else none
  | [a] => if a.isDigit then some (a.toNat - 48, []) else none
  | [] => none

/-- Reads exactly two digits. -/
def fixedTwo : List Char → Option (Nat × List Char)
  | a :: b :: rest =>
    if a.isDigit && b.isDigit then some ((a.toNat - 48) * 10 + (b.toNat - 48), rest) else none
  | _ => none

/-- The days of a month. -/
def daysIn (month year : Nat) : Nat :=
  if month = 2 then
    if year % 4 = 0 && (year % 100 ≠ 0 || year % 400 = 0) then 29 else 28
  else if month = 4 || month = 6 || month = 9 || month = 11 then 30
  else 31

/-- The value of digits, the first nine of them, as nanoseconds. -/
def nanosOf (digits : List Char) : Nat :=
  let kept := digits.take 9
  (kept ++ List.replicate (9 - kept.length) '0').foldl (fun n c => n * 10 + (c.toNat - 48)) 0

/-- Reads an optional fraction of a second: a point or comma and digits. The nanoseconds and
the rest after it. -/
def readFraction : List Char → Nat × List Char
  | c :: d :: rest =>
    if (c == '.' || c == ',') && d.isDigit then
      (nanosOf (d :: rest.takeWhile Char.isDigit), rest.dropWhile Char.isDigit)
    else (0, c :: d :: rest)
  | s => (0, s)

/-- Reads `hour:minute:second` with an optional fraction: the four numbers and the rest. -/
def readClock (s : List Char) : Option ((Nat × Nat × Nat × Nat) × List Char) := do
  let (h, s) ← twoDigits s
  let s ← match s with | ':' :: r => some r | _ => none
  let (m, s) ← twoDigits s
  let s ← match s with | ':' :: r => some r | _ => none
  let (sec, s) ← twoDigits s
  if h ≥ 24 || m ≥ 60 || sec ≥ 60 then none
  let (nanos, s) := readFraction s
  some ((h, m, sec, nanos), s)

/-- Reads a zone: `Z`, or `±hh:mm`. -/
def readZone : List Char → Option (Zone × List Char)
  | 'Z' :: rest => some (.utc, rest)
  | c :: rest =>
    if c == '+' || c == '-' then do
      let (h, r) ← fixedTwo rest
      let r ← match r with | ':' :: r => some r | _ => none
      let (m, r) ← fixedTwo r
      if h > 24 || m > 60 then none
      let east : Int := if c == '-' then -((h * 60 + m) * 60 : Nat) else ((h * 60 + m) * 60 : Nat)
      some (if east = 0 then .local else .fixed east, r)
    else none
  | [] => none

/-- **Reads a timestamp**, when the whole text is one. -/
def read? (text : String) : Option Timestamp :=
  let s := text.toList
  let year := s.takeWhile Char.isDigit
  if year.length != 4 then none else
  match s.drop 4 with
  | '-' :: rest => do
    let y := year.foldl (fun n c => n * 10 + (c.toNat - 48)) 0
    let (month, rest) ← twoDigits rest
    let rest ← match rest with | '-' :: r => some r | _ => none
    let (day, rest) ← twoDigits rest
    if month < 1 || month > 12 || day < 1 || day > daysIn month y then none
    match rest with
    | [] => some ⟨y, month, day, 0, 0, 0, 0, .utc⟩
    | c :: more =>
      if c == 'T' || c == 't' then do
        let ((h, m, sec, nanos), rest) ← readClock more
        let (zone, rest) ← readZone rest
        if rest.isEmpty then some ⟨y, month, day, h, m, sec, nanos, zone⟩ else none
      else if c == ' ' then do
        let ((h, m, sec, nanos), rest) ← readClock (more.dropWhile (· == ' '))
        if rest.isEmpty then some ⟨y, month, day, h, m, sec, nanos, .utc⟩ else none
      else none
  | _ => none

/-- A number in decimal, at least `width` digits wide. -/
def padded (width n : Nat) : String :=
  let s := toString n
  String.ofList (List.replicate (width - s.length) '0') ++ s

/-- An offset east of UTC, in seconds, as `±hhmm`. -/
def offsetText (east : Int) : String :=
  let minutes := east.natAbs / 60
  (if east < 0 then "-" else "+") ++ padded 2 (minutes / 60) ++ padded 2 (minutes % 60)

/-- The fraction of a second, as a point and its digits without trailing zeros; empty for none. -/
def fractionText (nanos : Nat) : String :=
  if nanos = 0 then "" else
  let digits := (padded 9 nanos).toList
  "." ++ String.ofList (digits.reverse.dropWhile (· == '0')).reverse

/-- **The text of a timestamp**: `yyyy-mm-dd hh:mm:ss`, the fraction, the offset and the zone's
name (the offset again for a zone with no name). -/
def text (t : Timestamp) : String :=
  let clock := padded 4 t.year ++ "-" ++ padded 2 t.month ++ "-" ++ padded 2 t.day ++ " " ++
    padded 2 t.hour ++ ":" ++ padded 2 t.minute ++ ":" ++ padded 2 t.second ++ fractionText t.nanos
  match t.zone with
  | .utc | .local => clock ++ " +0000 UTC"
  | .fixed east => clock ++ " " ++ offsetText east ++ " " ++ offsetText east

/-- The English names of the months. -/
def monthNames : List String :=
  ["January", "February", "March", "April", "May", "June", "July", "August", "September",
    "October", "November", "December"]

/-- **A timestamp in the syntax of a value**: a call of the date constructor. -/
def goText (t : Timestamp) : String :=
  let zone := match t.zone with
    | .utc => "time.UTC"
    | .local => "time.Local"
    | .fixed _ => "time.Location(\"\")"
  "time.Date(" ++ toString t.year ++ ", time." ++ monthNames.getD (t.month - 1) "" ++ ", " ++
    toString t.day ++ ", " ++ toString t.hour ++ ", " ++ toString t.minute ++ ", " ++
    toString t.second ++ ", " ++ toString t.nanos ++ ", " ++ zone ++ ")"

end Timestamp

end Conveyor.Yaml
