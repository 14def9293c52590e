/-!
# Records

A record is one message read from a partition of a topic, as it travels through the
processing stages. Everything but `attempts` and `route` is fixed once it is read: the
processing stages write how many attempts the current stage has made, and processors may pick
the topic the record goes to downstream. A record has no key when its key is absent, which is
not the same as an empty key; the same holds for the value and for each header value.
-/

namespace Conveyor

/-- Headers: names with optional values, sorted by name, each name once. -/
abbrev Headers := List (String × Option ByteArray)

/-- One record. -/
structure Record where
  topic : String
  partition : Int
  offset : Int
  key : Option ByteArray := none
  value : Option ByteArray := none
  /-- The headers, or `none` when the record has no header map at all. -/
  headers : Option Headers := none
  /-- When the record was read, in nanoseconds on the engine's clock; `none` for no time. -/
  timestamp : Option Int := none
  /-- The attempt of the current stage that is processing the record, counted from one. -/
  attempts : Int := 0
  /-- The downstream topic a processor picked; empty keeps the sink's own. -/
  route : String := ""

namespace Record

/-- **The label of a record**: `topic[partition]@offset`. -/
def label (r : Record) : String :=
  r.topic ++ "[" ++ toString r.partition ++ "]@" ++ toString r.offset

/-- A copy carrying a new value, with its attempts reset for the next stage. -/
def withValue (r : Record) (v : Option ByteArray) : Record := { r with value := v, attempts := 0 }

/-- The value's bytes, empty when there is none. -/
def bytes (r : Record) : ByteArray := r.value.getD ByteArray.empty

end Record

/-- Inserts a header, replacing one of the same name and keeping the names sorted. -/
def Headers.insert (hs : Headers) (name : String) (v : Option ByteArray) : Headers :=
  let rest := hs.filter (·.1 != name)
  let (before, after) := rest.partition (·.1 < name)
  before ++ (name, v) :: after

/-- Headers from pairs in any order; a later pair wins over an earlier one of the same name. -/
def Headers.ofList (pairs : List (String × Option ByteArray)) : Headers :=
  pairs.foldl (fun hs (k, v) => hs.insert k v) []

end Conveyor
