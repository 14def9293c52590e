import Conveyor.Sink.Envelope
import Conveyor.Text.Quoted
/-!
# The console sink

A debugging sink that writes one line per envelope: `[sink] ` (or `[sink NNNNNN] ` with a
running count of at least six digits), then the origin, which is `source -> topic` when the
envelope has a source and the topic otherwise, then, when asked, ` value=` and the value
quoted, cut to at most a number of bytes when that number is positive.

With a positive delay, each envelope waits it out first, and a shutdown that begins before
the wait ends fails the delivery with the shutdown's fault.
-/

namespace Conveyor

/-- The console sink's configuration. -/
structure ConsoleConfig where
  delayMs : Int := 0
  printCounter : Bool := false
  printValue : Bool := false
  valueMaxBytes : Int := 0

/-- The console sink and the envelopes it has counted. -/
structure Console where
  config : ConsoleConfig
  count : Nat := 0

namespace Console

/-- The origin of an envelope. -/
def origin (e : Envelope) : String :=
  match e.source with
  | some r => r.label ++ " -> " ++ e.topic
  | none => e.topic

/-- A count of at least six digits. -/
def counterText (n : Nat) : String :=
  let s := toString n
  String.ofList (List.replicate (6 - s.length) '0') ++ s

/-- The value as written: cut to the byte limit when it is positive. -/
def shownValue (c : ConsoleConfig) (v : ByteArray) : ByteArray :=
  if c.valueMaxBytes > 0 && v.size > c.valueMaxBytes.toNat then v.extract 0 c.valueMaxBytes.toNat else v

/-- **Delivering an envelope**: the line written, or the fault of a shutdown that cut the
delay short. -/
def deliver (s : Console) (e : Envelope) (shutdown : Option Fault) : Except Fault String × Console :=
  match shutdown with
  | some f => if s.config.delayMs > 0 then (.error f, s) else write s
  | none => write s
where
  write (s : Console) : Except Fault String × Console :=
    let (head, s) := if s.config.printCounter then
        ("[sink " ++ counterText (s.count + 1) ++ "] ", { s with count := s.count + 1 })
      else ("[sink] ", s)
    let tail := if s.config.printValue then
        " value=" ++ Text.quoteBytes (shownValue s.config (e.value.getD ByteArray.empty))
      else ""
    (.ok (head ++ origin e ++ tail ++ "\n"), s)

end Console

end Conveyor
