import Conveyor.Sink.Envelope
import Conveyor.Json.Write
import Conveyor.Time.Stamp
/-!
# Dead letters

A message that cannot be processed or delivered is written to a dead-letter topic: the
source topic with a suffix, `.DLQ` unless configured otherwise. The dead letter keeps the
message as it was read, the stage that failed it, the fault, every attempt made on it, and
when it failed.

Its envelope carries the message's key, value and headers to the source partition of the
dead-letter topic, with nine headers added (replacing headers of the same names): the dead
letter's id, the fault's text, the failed stage, the source topic, partition and offset, the
number of attempts, the time of failure, and the attempt history as a JSON array (`null`
when there were no attempts).
-/

namespace Conveyor

namespace DeadLetter

/-- The suffix used when none is configured. -/
def defaultSuffix : String := ".DLQ"

/-- **The dead-letter topic** of a source topic. -/
def topicOf (source suffix : String) : String :=
  source ++ (if suffix.isEmpty then defaultSuffix else suffix)

/-- One attempt in a dead letter's history: the stage, the attempt's number, its fault's
text (empty for none), when it started (`none` for the zero time) and how long it took. -/
structure Trial where
  stage : String
  number : Int
  err : String := ""
  start : Option Int := none
  elapsed : Int := 0

/-- The text of an instant; `none` is the zero time. -/
def instantText : Option Int → String
  | some t => Stamp.text t
  | none => Stamp.zeroText

/-- An attempt as a JSON object; the fault's text is left out when empty. -/
def Trial.json (t : Trial) : Json :=
  Json.obj ([("stage", Json.text t.stage), ("number", Json.int t.number)] ++
    (if t.err.isEmpty then [] else [("error", Json.text t.err)]) ++
    [("at", Json.text (instantText t.start)), ("elapsed_ns", Json.int t.elapsed)])

/-- **The attempt history** as JSON text: an array of attempts, `null` when there are none. -/
def historyText (ts : List Trial) : ByteArray :=
  Json.write (if ts.isEmpty then .null else Json.list Trial.json ts)

end DeadLetter

/-- A message that failed for good, as written to the dead-letter topic. -/
structure DeadLetter where
  id : String
  message : Option Record
  stage : String
  err : Option Fault := none
  trials : List DeadLetter.Trial := []
  failedAt : Option Int := none

namespace DeadLetter

/-- **The envelope of a dead letter** under a topic suffix; a dead letter without a message
has none. -/
def envelope (d : DeadLetter) (suffix : String) : Except Fault Envelope :=
  match d.message with
  | none => .error (.text ("deadletter: record " ++ d.id ++ " has no message"))
  | some m =>
    let added : List (String × String) :=
      [("dlq_id", d.id), ("error_message", (d.err.map Fault.message).getD ""),
       ("failed_stage", d.stage), ("original_topic", m.topic),
       ("original_partition", toString m.partition), ("original_offset", toString m.offset),
       ("retry_attempts", toString d.trials.length), ("failed_at", instantText d.failedAt)]
    let hs := added.foldl (fun hs (k, v) => hs.insert k (some v.toUTF8)) (m.headers.getD [])
    let hs := hs.insert "attempt_history" (some (historyText d.trials))
    .ok { topic := topicOf m.topic suffix, partition := m.partition, key := m.key, value := m.value,
          headers := some hs, source := some m }

end DeadLetter

end Conveyor
