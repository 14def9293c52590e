import Conveyor.Text.Quoted
import Conveyor.Text.Case
import Conveyor.Json.Write
import Conveyor.Text.Truth
/-!
# Log records

The engine reports what it does as log records: a level, a message and named values, in
order (a name may repeat). A logger keeps the records at or above its level and writes each
as one line, either as `key=value` pairs or as a JSON object, always beginning with the level
and the message.

In `key=value` lines a value is quoted, with escapes, when it is empty or holds a blank, `=`,
a quote, a control character, or a character that is not printable; other values stand as
they are. In JSON lines strings are escaped but `<`, `>` and `&` are kept.
-/

namespace Conveyor.Log

/-- How serious a record is. -/
inductive Level where
  | debug | info | warn | error
  deriving DecidableEq, Repr

/-- The rank of a level: a logger keeps records whose rank is at least its own. -/
def Level.rank : Level → Int
  | .debug => -4 | .info => 0 | .warn => 4 | .error => 8

/-- The name of a level. -/
def Level.name : Level → String
  | .debug => "DEBUG" | .info => "INFO" | .warn => "WARN" | .error => "ERROR"

/-- A level from configuration text: trimmed and compared without case; `debug`, `warn` and
`error` are known and anything else is `info`. -/
def Level.ofText (s : String) : Level :=
  match Text.lowerText (Text.trimSpace s) with
  | "debug" => .debug
  | "warn" => .warn
  | "error" => .error
  | _ => .info

/-- A value in a record. -/
inductive Value where
  | str (s : String)
  | int (n : Int)
  /-- Partitions by topic, topics sorted. -/
  | assignment (claims : List (String × List Int))

/-- One record. -/
structure Entry where
  level : Level
  message : String
  attrs : List (String × Value) := []

/-- Whether a text value must be quoted in a `key=value` line. -/
def needsQuote (s : String) : Bool :=
  s.isEmpty || s.toList.any fun c =>
    let n := c.toNat
    if n < 0x80 then c = ' ' || c = '=' || c = '"' || n < 0x20
    else Text.isSpace c || !Text.isPrintable c

/-- A text value in a `key=value` line. -/
def textValue (s : String) : String := if needsQuote s then Text.quote s else s

/-- Partitions by topic in the list style of the text handler: `map[t:[0 1]]`. -/
def assignmentText (claims : List (String × List Int)) : String :=
  "map[" ++ " ".intercalate (claims.map fun (t, ps) =>
    t ++ ":[" ++ " ".intercalate (ps.map toString) ++ "]") ++ "]"

/-- A value in a `key=value` line. -/
def Value.text : Value → String
  | .str s => textValue s
  | .int n => toString n
  | .assignment cs => textValue (assignmentText cs)

/-- A value in a JSON line. -/
def Value.json : Value → String
  | .str s => Json.plainLiteral s
  | .int n => toString n
  | .assignment cs =>
    "\x7b" ++ ",".intercalate (cs.map fun (t, ps) =>
      Json.plainLiteral t ++ ":[" ++ ",".intercalate (ps.map toString) ++ "]") ++ "\x7d"

/-- **A record as a `key=value` line.** -/
def Entry.text (e : Entry) : String :=
  " ".intercalate (("level=" ++ e.level.name) :: ("msg=" ++ textValue e.message) ::
    e.attrs.map fun (k, v) => k ++ "=" ++ v.text)

/-- **A record as a JSON line.** -/
def Entry.json (e : Entry) : String :=
  "\x7b" ++ ",".intercalate (("\"level\":" ++ Json.plainLiteral e.level.name) ::
    ("\"msg\":" ++ Json.plainLiteral e.message) ::
    e.attrs.map fun (k, v) => Json.plainLiteral k ++ ":" ++ v.json) ++ "\x7d"

/-- How the process logger writes. -/
structure Options where
  level : Level := .info
  json : Bool := false

/-- The lines a logger writes for some records. -/
def Options.lines (o : Options) (es : List Entry) : List String :=
  (es.filter fun e => e.level.rank ≥ o.level.rank).map fun e => if o.json then e.json else e.text

/-- The logger the environment asks for: the level in `KAFKABASIC_LOG_LEVEL`, and JSON lines
when `KAFKABASIC_LOG_JSON` reads, trimmed, as true. -/
def Options.ofEnv (env : List (String × String)) : Options :=
  { level := Level.ofText ((env.reverse.lookup "KAFKABASIC_LOG_LEVEL").getD ""),
    json := (Text.readBool (Text.trimSpace ((env.reverse.lookup "KAFKABASIC_LOG_JSON").getD ""))).getD false }

/-- Whether a logger writes records of a level. -/
def Options.enabled (o : Options) (l : Level) : Bool := l.rank ≥ o.level.rank

end Conveyor.Log
