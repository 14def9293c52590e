import Conveyor.Fault
import Conveyor.Decimal.Integer
import Conveyor.Text.Quoted
/-!
# What a Kafka client checks before it connects

A client of a Kafka cluster is given a protocol version, a client id, the producer's
acknowledgement level, optional SASL credentials and the broker addresses. Before it opens a
connection it checks them, in this order:

* a version is `0.a.b.c` or `a.b.c`, at least five bytes long, with only decimal digits
  between the points; anything else is `invalid version` and the text in backquotes;
* with SASL on, the user and the password must both be given;
* the acknowledgement level is at least `-1`;
* before version 1.0.0 the client id is letters, digits, `.`, `_` and `-` only;
* at least one broker address is given.

A client that passes every check then dials the brokers, whose answer the caller gives
(`ClientOptions.connect`). No broker can be reached from here (`unreachable`), so such a client
fails to connect with `kafka: client has run out of available brokers to talk to`.
-/

namespace Conveyor.Kafka

/-- A protocol version: four numbers, compared in order. -/
structure Version where
  major : Nat
  minor : Nat
  patch : Nat
  build : Nat
  deriving DecidableEq, Repr

namespace Version

/-- The numbers of a version, most significant first. -/
def parts (v : Version) : List Nat := [v.major, v.minor, v.patch, v.build]

/-- Whether one list of numbers is at least another, compared in order. -/
def partsAtLeast : List Nat → List Nat → Bool
  | a :: as, b :: bs => if a = b then partsAtLeast as bs else decide (a > b)
  | _, _ => true

/-- The text of a version: `0.a.b.c` below 1, `a.b.c` from 1 on. -/
def text (v : Version) : String :=
  let dotted (ns : List Nat) := ".".intercalate (ns.map toString)
  if v.major = 0 then dotted [0, v.minor, v.patch, v.build] else dotted [v.major, v.minor, v.patch]

/-- Whether a version is at least another. -/
def atLeast (v w : Version) : Bool := partsAtLeast v.parts w.parts

/-- The version a client speaks when none is given: 2.1.0. -/
def standard : Version := ⟨2, 1, 0, 0⟩

/-- Version 1.0.0, from which the broker checks the client id itself. -/
def v1 : Version := ⟨1, 0, 0, 0⟩

/-- The refusal of a version text. -/
def invalid (text : String) : Fault := .text ("invalid version `" ++ text ++ "`")

/-- Whether a text is one or more decimal digits. -/
def isDigits (s : String) : Bool := !s.isEmpty && s.all Char.isDigit

/-- Reads one number of a version; a number beyond 64 bits is out of range. -/
def number (tok : String) : Except Fault Nat :=
  match Decimal.readNatural tok 10 64 with
  | .ok n => .ok n
  | .error e => .error (.text ("strconv.ParseUint: parsing " ++ Text.quote tok ++ ": " ++ e.words))

/-- **Reading a version**: `0.a.b.c` when the text starts with `0`, `a.b.c` otherwise. -/
def parse (text : String) : Except Fault Version :=
  if text.utf8ByteSize < 5 then .error (invalid text) else
  match text.splitOn "." with
  | ["0", a, b, c] =>
    if isDigits a && isDigits b && isDigits c then do
      return ⟨0, ← number a, ← number b, ← number c⟩
    else .error (invalid text)
  | [a, b, c] =>
    if !text.startsWith "0" && isDigits a && isDigits b && isDigits c then do
      return ⟨← number a, ← number b, ← number c, 0⟩
    else .error (invalid text)
  | _ => .error (invalid text)

end Version

/-- What a client is given. -/
structure ClientOptions where
  version : Version := Version.standard
  clientId : String := "sarama"
  requiredAcks : Int := 1
  /-- The SASL user and password, when SASL is on. -/
  sasl : Option (String × String) := none
  brokers : List String := []

/-- A refused configuration. -/
def configurationError (what : String) : Fault := .text ("kafka: invalid configuration (" ++ what ++ ")")

/-- The fault of a client that reached no broker. -/
def outOfBrokers : Fault := .broker .outOfBrokers

/-- Whether a client id is letters, digits, `.`, `_` and `-` only, and not empty. -/
def validClientId (id : String) : Bool :=
  !id.isEmpty && id.all fun c => c.isAlphanum || c == '.' || c == '_' || c == '-'

namespace ClientOptions

/-- **The checks before connecting**: the first rule the options break. -/
def check (o : ClientOptions) : Option Fault :=
  match o.sasl with
  | some (user, password) =>
    if user.isEmpty then some (configurationError "Net.SASL.User must not be empty when SASL is enabled")
    else if password.isEmpty then
      some (configurationError "Net.SASL.Password must not be empty when SASL is enabled")
    else rest
  | none => rest
where
  rest : Option Fault :=
    if o.requiredAcks < -1 then some (configurationError "Producer.RequiredAcks must be >= -1")
    else if !o.version.atLeast Version.v1 && !validClientId o.clientId then
      some (configurationError "ClientID value is not valid for Kafka versions before 1.0.0")
    else if o.brokers.isEmpty then some (configurationError "You must provide at least one broker address")
    else none

/-- **Connecting**: the checks, then the brokers, which answer `dial`. -/
def connect (dial : ClientOptions → Fault) (o : ClientOptions) : Fault := (o.check).getD (dial o)

end ClientOptions

/-- Brokers none of which answers, as every broker is from here. -/
def unreachable (_ : ClientOptions) : Fault := outOfBrokers

/-- The client id a client goes by: the one given, or `sarama`. -/
def clientIdOr (id : String) : String := if id.isEmpty then "sarama" else id

/-- **Configuring a consumer**: the version is read (an empty one is refused too), SASL is on
when a user is given, and the client connects to brokers that answer `dial`. -/
def configureConsumer (dial : ClientOptions → Fault) (version clientId saslUser saslPassword : String)
    (brokers : List String) : Fault :=
  match Version.parse version with
  | .error f => f
  | .ok v =>
    ClientOptions.connect dial
      { version := v, clientId := clientIdOr clientId, brokers,
        sasl := if saslUser.isEmpty then none else some (saslUser, saslPassword) }

end Conveyor.Kafka
