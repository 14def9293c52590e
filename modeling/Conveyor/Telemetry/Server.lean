import Conveyor.Config.File
import Conveyor.Json.Map
import Conveyor.Json.Write
import Conveyor.Log
import Conveyor.Decimal.Layout
/-!
# The metrics and health server

An HTTP server with two routes:

* `/metrics` answers the metrics in the text exposition format;
* `/healthz` answers the health function's body as JSON, with status 503 when the source is
  down; with no health function it answers `{"status":"UP"}`. A body that does not encode is
  logged and leaves the answer empty.

Any other path is not found. A path that is not clean (a doubled slash, a `.` or `..`
segment) is redirected to its clean form, which the client follows; the query plays no part.
The server logs where it listens when it starts.
-/

namespace Conveyor.Telemetry

/-- An answer of the server. -/
structure Response where
  status : Nat
  contentType : String
  body : ByteArray

/-- What the health function reports: whether the source is up, and a body. -/
structure HealthReport where
  up : Bool
  body : Json
  /-- The type of a value in the body that no encoding carries. -/
  foreign : Option String := none

/-- A counter with its help text and value. -/
structure Counter where
  name : String
  help : String
  value : Float

/-- The content type of the exposition format. -/
def expositionType : String := "text/plain; version=0.0.4; charset=utf-8; escaping=underscores"

/-- A value in the exposition format. -/
def expositionValue (f : Float) : String := Decimal.formatFloat Decimal.Layout.general f

/-- **The exposition of counters**: each family's help, type and sample, families sorted by
name. -/
def exposition (cs : List Counter) : String :=
  let sorted := cs.mergeSort fun a b => decide (a.name ≤ b.name)
  String.join (sorted.map fun c =>
    "# HELP " ++ c.name ++ " " ++ c.help ++ "\n# TYPE " ++ c.name ++ " counter\n" ++
      c.name ++ " " ++ expositionValue c.value ++ "\n")

/-- The answer for a path that no route serves. -/
def notFound : Response := ⟨404, "text/plain; charset=utf-8", "404 page not found\n".toUTF8⟩

/-- The body with no health function. -/
def upBody : Json := Json.obj [("status", Json.text "UP")]

/-- **Answering a health request**: the body written as JSON and a line break; a body that
does not encode writes nothing and is logged. -/
def healthz (h : Option HealthReport) : Response × List Log.Entry :=
  let h := h.getD { up := true, body := upBody }
  let status := if h.up then 200 else 503
  match h.foreign with
  | some type =>
    (⟨status, "application/json", ByteArray.empty⟩,
      [⟨.warn, "healthz encode", [("err", .str ("json: unsupported type: " ++ type))]⟩])
  | none => (⟨status, "application/json", (Json.write (Json.asMapValue h.body)).push 0x0A⟩, [])

/-- The value of a hex digit. -/
def hexDigit (c : Char) : Option Nat :=
  if c.isDigit then some (c.toNat - '0'.toNat)
  else if 'a' ≤ c && c ≤ 'f' then some (c.toNat - 'a'.toNat + 10)
  else if 'A' ≤ c && c ≤ 'F' then some (c.toNat - 'A'.toNat + 10)
  else none

/-- Decodes `%` escapes of a path's bytes; an escape that is not two hex digits stays. -/
def unescapeBytes : List Char → List UInt8
  | '%' :: a :: b :: rest =>
    match hexDigit a, hexDigit b with
    | some x, some y => (x * 16 + y).toUInt8 :: unescapeBytes rest
    | _, _ => '%'.toNat.toUInt8 :: unescapeBytes (a :: b :: rest)
  | c :: rest => (String.singleton c).toUTF8.toList ++ unescapeBytes rest
  | [] => []

/-- A request's path, without query or fragment, and unescaped. -/
def requestPath (target : String) : String :=
  let raw := ((target.splitOn "#").headD "").splitOn "?" |>.headD ""
  String.fromUTF8? ⟨(unescapeBytes raw.toList).toArray⟩ |>.getD raw

/-- The clean form of a request path: rooted, `.` and `..` resolved, a final slash kept. -/
def routerPath (p : String) : String :=
  let p := if p.startsWith "/" then p else "/" ++ p
  let c := Config.cleanPath p
  if p.endsWith "/" && c != "/" then c ++ "/" else c

/-- **Serving a request** for a path, after following a redirect to the clean path. -/
def serve (metrics : String) (h : Option HealthReport) (target : String) : Response × List Log.Entry :=
  match routerPath (requestPath target) with
  | "/metrics" => (⟨200, expositionType, metrics.toUTF8⟩, [])
  | "/healthz" => healthz h
  | _ => (notFound, [])

/-- The entry that logs where the server listens. -/
def listening (addr : String) : Log.Entry := ⟨.info, "metrics listening", [("addr", .str addr)]⟩

end Conveyor.Telemetry
