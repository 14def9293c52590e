import Conveyor.Record
import Conveyor.Fault
/-!
# Envelopes

An envelope is one record handed to a sink: the topic it goes to, whether a processor chose
that topic, the partition (`-1` lets the sink pick), the key, value and headers, and the
record it came from. A topic chosen by a processor wins over a sink's own topic.

Several sinks can stand behind one name: each envelope goes to all of them in order, and the
failures of the members are joined, each behind the member's name.
-/

namespace Conveyor

/-- One record handed to a sink. -/
structure Envelope where
  topic : String
  routed : Bool := false
  partition : Int
  key : Option ByteArray := none
  value : Option ByteArray := none
  headers : Option Headers := none
  source : Option Record := none

namespace Envelope

/-- The partition that lets the sink pick one. -/
def anyPartition : Int := -1

/-- **The downstream envelope** of a record, carrying a processed value. -/
def ofRecord (r : Record) (value : Option ByteArray) : Envelope :=
  { topic := r.topic, partition := anyPartition, key := r.key, value, headers := r.headers,
    source := some r }

/-- Sends the envelope to a topic a processor chose; an empty choice keeps the topic. -/
def routeTo (e : Envelope) (route : String) : Envelope :=
  if route.isEmpty then e else { e with topic := route, routed := true }

end Envelope

/-- **The failure of a group of sinks**: each member's failure behind its name, joined; none
when every member succeeded. -/
def Sink.joinFailures (results : List (String × Option Fault)) : Option Fault :=
  Fault.join (results.map fun (name, f) => f.map (Fault.wrap (name ++ ": ")))

end Conveyor
