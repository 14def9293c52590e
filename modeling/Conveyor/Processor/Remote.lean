import Conveyor.Fault
import Conveyor.Text.Quoted
/-!
# Remote processors

A remote processor is reached over gRPC at a target address. Making a client only reads the
target; the connection is opened on the first call. The target is read as a URL:

* a target whose scheme names a known resolver (`dns`, `passthrough`, `unix`,
  `unix-abstract`) and that reads as a URL is taken as it is;
* any other target is read as `dns:///<target>`, and a target that does not read even so is
  refused with `transform: dial <target>: ` and the reading's error.

A URL does not read when the part before `#` holds a control character, or when a `%` in its
path or fragment is not followed by two hex digits; a rootless path after a scheme is opaque
and not looked into.
-/

namespace Conveyor

/-- A remote processor: its target and how long one call may take (zero for no limit). -/
structure Remote where
  target : String
  timeoutNs : Int

namespace Remote

/-- The resolver schemes there are. -/
def knownSchemes : List String := ["dns", "passthrough", "unix", "unix-abstract"]

/-- The byte of a character known to be ASCII. -/
def byte (c : Char) : UInt8 := c.toNat.toUInt8

/-- Whether a byte is a hex digit. -/
def isHexByte (b : UInt8) : Bool :=
  (byte '0' ≤ b && b ≤ byte '9') || (byte 'a' ≤ b && b ≤ byte 'f') || (byte 'A' ≤ b && b ≤ byte 'F')

/-- The first malformed escape of a text: a `%` and at most the two bytes after it. -/
def badEscape : List UInt8 → Option (List UInt8)
  | [] => none
  | b :: rest =>
    if b == byte '%' then
      match rest with
      | x :: y :: more => if isHexByte x && isHexByte y then badEscape more else some ((b :: rest).take 3)
      | _ => some ((b :: rest).take 3)
    else badEscape rest

/-- The words for a malformed escape. -/
def escapeWords (e : List UInt8) : String := "invalid URL escape " ++ Text.quoteBytes ⟨e.toArray⟩

/-- Whether a byte is a control character. -/
def isControl (b : UInt8) : Bool := b < 32 || b == 127

/-- Splits bytes at the first occurrence of one, dropping it. -/
def cut (sep : UInt8) (bs : List UInt8) : List UInt8 × Option (List UInt8) :=
  match bs.idxOf? sep with
  | some i => (bs.take i, some (bs.drop (i + 1)))
  | none => (bs, none)

/-- The scheme of a URL and the rest after its colon; no scheme when the text does not begin
with letters, digits, `+`, `-` and `.` (a letter first) followed by a colon. -/
def scheme (bs : List UInt8) : Option (String × List UInt8) :=
  let isLetter (b : UInt8) := (byte 'a' ≤ b && b ≤ byte 'z') || (byte 'A' ≤ b && b ≤ byte 'Z')
  let isSchemeByte (b : UInt8) :=
    isLetter b || (byte '0' ≤ b && b ≤ byte '9') || b == byte '+' || b == byte '-' || b == byte '.'
  match bs with
  | first :: _ =>
    if !isLetter first then none else
    let name := bs.takeWhile isSchemeByte
    match bs.drop name.length with
    | c :: rest => if c == byte ':' then some (String.fromUTF8! ⟨name.toArray⟩ |>.map Char.toLower, rest) else none
    | [] => none
  | [] => none

/-- **Reading a URL**: the error, in words, when it does not read. -/
def urlProblem (raw : List UInt8) : Option String :=
  let (u, frag) := cut (byte '#') raw
  let quoted (bs : List UInt8) := Text.quoteBytes ⟨bs.toArray⟩
  let fail (bs : List UInt8) (why : String) := some ("parse " ++ quoted bs ++ ": " ++ why)
  if u.any isControl then fail u "net/url: invalid control character in URL" else
  let body := match scheme u with
    | some (_, rest) => if rest.head? == some (byte '/') then rest else []
    | none => u
  let (path, _) := cut (byte '?') body
  match badEscape path with
  | some e => fail u (escapeWords e)
  | none =>
    match frag.bind badEscape with
    | some e => fail raw (escapeWords e)
    | none => none

/-- **Reading a target**: the error, in words, when it reads neither as a URL with a known
resolver nor as `dns:///` and itself. -/
def targetProblem (target : String) : Option String :=
  let bs := target.toUTF8.toList
  let direct := match scheme bs with
    | some (s, _) => knownSchemes.contains s && (urlProblem bs).isNone
    | none => false
  if direct then none else urlProblem ("dns:///".toUTF8.toList ++ bs)

/-- **Making a client** for a target. -/
def dial (target : String) (timeoutNs : Int) : Except Fault Remote :=
  match targetProblem target with
  | some why => .error (.text ("transform: dial " ++ target ++ ": " ++ why))
  | none => .ok { target, timeoutNs }

/-- The fault of a call to a target where nothing answers. -/
def unreachable (r : Remote) : Fault :=
  .status .unavailable ("connection error: desc = \"transport: Error while dialing: dial tcp " ++ r.target ++
    ": connect: connection refused\"")

end Remote

end Conveyor
