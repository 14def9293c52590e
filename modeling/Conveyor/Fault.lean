import Conveyor.Text.Quoted
import Conveyor.Time.Duration
/-!
# Faults

Every failure in the engine is a `Fault`: a tree whose leaves are plain texts and fixed
failures, and whose inner nodes add context to the faults below them. Callers ask three kinds
of question of a fault, and each looks at the nodes in order, the node itself before those
below it, left to right:

* whether it *is* a given fixed failure (`Fault.isa`), or holds a node of a given kind
  (`Fault.holds`);
* what the first node that carries its own retry verdict says (`Fault.verdict?`);
* what its first remote status is (`Fault.status?`).

Whether to retry (`Fault.classify`) is decided from these: a filtered message never; a
carried verdict wins; a passed deadline, a timed-out network call and a remote status that
signals a transient condition are retried; a remote status that signals a bad request is not;
anything else is retried.
-/

namespace Conveyor

/-- The fixed failures, each one value that callers test for. -/
inductive Sentinel where
  /-- A processor dropped the message on purpose. -/
  | filtered
  /-- Work on a message stopped because shutdown began. -/
  | abandoned
  /-- A circuit breaker refused the call. -/
  | breakerOpen
  /-- Every permitted attempt failed. -/
  | exhausted
  /-- The processing deadline passed. -/
  | deadlinePassed
  /-- Shutdown interrupted the retries. -/
  | interrupted
  /-- Offsets were tracked or resolved out of order. -/
  | orderViolation
  /-- The worker limiter was closed. -/
  | limiterClosed
  /-- A message could not be dead-lettered. -/
  | deadLetterFailed
  /-- The surrounding work was cancelled. -/
  | canceled
  /-- The surrounding work ran out of time. -/
  | deadlineExceeded
  deriving DecidableEq, Repr

/-- The text of each fixed failure. -/
def Sentinel.message : Sentinel → String
  | .filtered => "message filtered"
  | .abandoned => "message abandoned at shutdown"
  | .breakerOpen => "circuit breaker is open"
  | .exhausted => "retry attempts exhausted"
  | .deadlinePassed => "processing deadline exceeded"
  | .interrupted => "retry interrupted by shutdown"
  | .orderViolation => "commit order violation"
  | .limiterClosed => "limiter closed"
  | .deadLetterFailed => "dead-letter write failed"
  | .canceled => "context canceled"
  | .deadlineExceeded => "context deadline exceeded"

/-- The status codes of a remote call. -/
inductive StatusCode where
  | ok | canceled | unknown | invalidArgument | deadlineExceeded | notFound | alreadyExists
  | permissionDenied | resourceExhausted | failedPrecondition | aborted | outOfRange
  | unimplemented | internal | unavailable | dataLoss | unauthenticated
  deriving DecidableEq, Repr, Inhabited

/-- All status codes, in the order of their numbers. -/
def StatusCode.all : List StatusCode :=
  [.ok, .canceled, .unknown, .invalidArgument, .deadlineExceeded, .notFound, .alreadyExists,
   .permissionDenied, .resourceExhausted, .failedPrecondition, .aborted, .outOfRange,
   .unimplemented, .internal, .unavailable, .dataLoss, .unauthenticated]

/-- The name of a status code. -/
def StatusCode.name : StatusCode → String
  | .ok => "OK" | .canceled => "Canceled" | .unknown => "Unknown"
  | .invalidArgument => "InvalidArgument" | .deadlineExceeded => "DeadlineExceeded"
  | .notFound => "NotFound" | .alreadyExists => "AlreadyExists"
  | .permissionDenied => "PermissionDenied" | .resourceExhausted => "ResourceExhausted"
  | .failedPrecondition => "FailedPrecondition" | .aborted => "Aborted"
  | .outOfRange => "OutOfRange" | .unimplemented => "Unimplemented" | .internal => "Internal"
  | .unavailable => "Unavailable" | .dataLoss => "DataLoss"
  | .unauthenticated => "Unauthenticated"

/-- The status code of a name. -/
def StatusCode.ofName? (s : String) : Option StatusCode := StatusCode.all.find? (·.name == s)

/-- Codes that say the request itself is wrong, so that repeating it cannot help. -/
def StatusCode.isRequestFault : StatusCode → Bool
  | .invalidArgument | .failedPrecondition | .outOfRange | .unimplemented
  | .permissionDenied | .notFound | .alreadyExists | .unauthenticated => true
  | _ => false

/-- Failures reported by the message broker, compared by value. -/
inductive BrokerFault where
  | messageTooLarge | invalidMessage | invalidTopic | topicAuthorizationFailed
  | notLeaderForPartition | requestTimedOut | unknownTopicOrPartition | topicAlreadyExists
  /-- The client has no broker left to talk to. -/
  | outOfBrokers
  /-- The consumer group was closed. -/
  | groupClosed
  deriving DecidableEq, Repr

/-- The text of each broker failure. -/
def BrokerFault.message : BrokerFault → String
  | .messageTooLarge =>
    "kafka server: Message was too large, server rejected it to avoid allocation error"
  | .invalidMessage => "kafka server: Message contents does not match its CRC"
  | .invalidTopic =>
    "kafka server: The request attempted to perform an operation on an invalid topic"
  | .topicAuthorizationFailed => "kafka server: The client is not authorized to access this topic"
  | .notLeaderForPartition =>
    "kafka server: Tried to send a message to a replica that is not the leader for some partition. Your metadata is out of date"
  | .requestTimedOut => "kafka server: Request exceeded the user-specified time limit in the request"
  | .unknownTopicOrPartition =>
    "kafka server: Request was for a topic or partition that does not exist on this broker"
  | .topicAlreadyExists => "kafka server: Topic with this name already exists"
  | .outOfBrokers => "kafka: client has run out of available brokers to talk to"
  | .groupClosed => "kafka: tried to use a consumer group that was closed"

/-- A failure, with the context it was reported in. -/
inductive Fault where
  /-- A fixed failure. -/
  | sentinel (s : Sentinel)
  /-- A failure known only by its text. -/
  | text (message : String)
  /-- Processing failed in a way that retrying cannot mend. -/
  | permanent (cause : Option Fault)
  /-- Processing failed in a way that may pass. -/
  | transient (cause : Option Fault)
  /-- A failure that carries its own retry verdict. -/
  | verdict (message : String) (retriable : Bool)
  /-- A network failure, which may be a timeout. -/
  | network (message : String) (timeout : Bool)
  /-- A remote call's status. -/
  | status (code : StatusCode) (description : String)
  /-- A failure reported by the broker. -/
  | broker (b : BrokerFault)
  /-- A sink will never accept the record. -/
  | undeliverable (cause : Fault)
  /-- A processed message could not be delivered by the named sink. -/
  | delivery (sink : String) (cause : Option Fault)
  /-- The named circuit is open for `remainingNs` more nanoseconds. -/
  | circuitOpen (name : String) (remainingNs : Int)
  /-- An offset was tracked or resolved out of order. -/
  | outOfOrder (topic : String) (partition : Int) (offset : Int) (reason : String)
  /-- Context written before a cause: the text is `lead` followed by the cause's. -/
  | wrap (lead : String) (cause : Fault)
  /-- The named message could not be dead-lettered because of `cause`. -/
  | deadLetter (subject : String) (cause : Fault)
  /-- Several failures at once. -/
  | joined (parts : List Fault)

/-- The kinds of node that callers look for. -/
inductive FaultKind where
  | permanent | transient | undeliverable | delivery | circuitOpen | outOfOrder
  deriving DecidableEq, Repr

namespace Fault

instance : Inhabited Fault := ⟨.text ""⟩

mutual

/-- **The text of a fault.** Joined faults are one per line. -/
def message : Fault → String
  | .sentinel s => s.message
  | .text m => m
  | .permanent none => "permanent processing error"
  | .permanent (some c) => "permanent processing error: " ++ c.message
  | .transient none => "retriable processing error"
  | .transient (some c) => "retriable processing error: " ++ c.message
  | .verdict m _ => m
  | .network m _ => m
  | .status code d => "rpc error: code = " ++ code.name ++ " desc = " ++ d
  | .broker b => b.message
  | .undeliverable c => "permanent delivery error: " ++ c.message
  | .delivery sink none => "sink " ++ sink ++ ": delivery failed: <nil>"
  | .delivery sink (some c) => "sink " ++ sink ++ ": delivery failed: " ++ c.message
  | .circuitOpen name rem => "circuit " ++ Text.quote name ++ " open (retry in " ++ Duration.text rem ++ ")"
  | .outOfOrder t p o r =>
    "commit order violation on " ++ t ++ "[" ++ toString p ++ "]@" ++ toString o ++ ": " ++ r
  | .wrap lead c => lead ++ c.message
  | .deadLetter subject c => "dead-letter write failed for " ++ subject ++ ": " ++ c.message
  | .joined ps => "\n".intercalate (messages ps)

/-- The texts of several faults. -/
def messages : List Fault → List String
  | [] => []
  | f :: fs => message f :: messages fs

end

mutual

/-- The nodes of a fault in order: the node itself, then the nodes below each of its causes,
left to right. -/
def nodes : Fault → List Fault
  | f@(.permanent (some c)) | f@(.transient (some c)) | f@(.undeliverable c)
  | f@(.delivery _ (some c)) | f@(.wrap _ c) => f :: nodes c
  | f@(.deadLetter _ c) => f :: .sentinel .deadLetterFailed :: nodes c
  | f@(.joined ps) => f :: nodesOfList ps
  | f => [f]

/-- The nodes of several faults, one after the other. -/
def nodesOfList : List Fault → List Fault
  | [] => []
  | f :: fs => nodes f ++ nodesOfList fs

end

/-- Whether the node itself is the fixed failure `s`; an open circuit is `breakerOpen` and an
out-of-order offset is `orderViolation`. -/
def nodeIsa (s : Sentinel) : Fault → Bool
  | .sentinel s' => s == s'
  | .circuitOpen _ _ => s == .breakerOpen
  | .outOfOrder _ _ _ _ => s == .orderViolation
  | _ => false

/-- The kind of the node itself. -/
def nodeKind? : Fault → Option FaultKind
  | .permanent _ => some .permanent
  | .transient _ => some .transient
  | .undeliverable _ => some .undeliverable
  | .delivery _ _ => some .delivery
  | .circuitOpen _ _ => some .circuitOpen
  | .outOfOrder _ _ _ _ => some .outOfOrder
  | _ => none

/-- The retry verdict the node itself carries. -/
def nodeVerdict? : Fault → Option Bool
  | .permanent _ | .undeliverable _ => some false
  | .transient _ | .circuitOpen _ _ => some true
  | .verdict _ r => some r
  | _ => none

/-- Whether the node itself is a network failure, and if so whether a timeout. A passed
context deadline counts as a timed-out one. -/
def nodeTimeout? : Fault → Option Bool
  | .network _ t => some t
  | .sentinel .deadlineExceeded => some true
  | _ => none

/-- The remote status of the node itself. -/
def nodeStatus? : Fault → Option StatusCode
  | .status c _ => some c
  | _ => none

/-- Whether a fault is the fixed failure `s` or holds it. -/
def isa (s : Sentinel) (f : Fault) : Bool := f.nodes.any (nodeIsa s)

/-- Whether a fault holds a node of kind `k`. -/
def holds (k : FaultKind) (f : Fault) : Bool := f.nodes.any (·.nodeKind? == some k)

/-- The first retry verdict carried by a node. -/
def verdict? (f : Fault) : Option Bool := f.nodes.findSome? nodeVerdict?

/-- Whether the first network failure among the nodes is a timeout. -/
def timeout? (f : Fault) : Option Bool := f.nodes.findSome? nodeTimeout?

/-- The first remote status among the nodes. -/
def status? (f : Fault) : Option StatusCode := f.nodes.findSome? nodeStatus?

/-- **Whether to retry**, for processing: never a filtered message; the first carried verdict
if there is one; then yes for a passed deadline and a network timeout; no for a remote status
that says the request is wrong; yes for anything else. -/
def classify (f : Fault) : Bool :=
  if f.isa .filtered then false else
  match f.verdict? with
  | some r => r
  | none =>
    if f.isa .deadlineExceeded then true
    else if f.timeout? == some true then true
    else match f.status? with
      | some c => !c.isRequestFault
      | none => true

/-- Whether to retry, for the retry engine: the first carried verdict, else yes. -/
def retriable (f : Fault) : Bool := f.verdict?.getD true

/-- Whether a failure is permanent: a fault that is not to be retried. -/
def isPermanent (f : Fault) : Bool := !f.classify

/-- Several failures as one; `none` when there is none. -/
def join (fs : List (Option Fault)) : Option Fault :=
  match fs.filterMap id with
  | [] => none
  | ps => some (.joined ps)

end Fault

end Conveyor
