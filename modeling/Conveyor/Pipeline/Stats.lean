import Conveyor.Retry.Engine
import Conveyor.Word
/-!
# Stage statistics

Each stage counts what happened inside it: the messages that entered it, how many of them
succeeded, failed for good or were abandoned at shutdown, the attempts made and how many of
them failed, the waits before a retry and the time spent in them, and the calls its breaker
refused. The counts are fed by the retry engine's events and by each run's report.
-/

namespace Conveyor.Pipeline

/-- The counters of one stage. -/
structure StageStats where
  messages : Nat := 0
  succeeded : Nat := 0
  failed : Nat := 0
  abandoned : Nat := 0
  attempts : Nat := 0
  attemptFailures : Nat := 0
  retries : Nat := 0
  rejections : Nat := 0
  /-- Nanoseconds spent waiting before retries, as a 64-bit sum. -/
  backoff : Int := 0
  deriving Inhabited

namespace StageStats

/-- Counts a message entering the stage. -/
def entered (s : StageStats) : StageStats := { s with messages := s.messages + 1 }

/-- **Counts an engine event**: an attempt and whether it failed, a wait before a retry, or
a refused call. -/
def record (s : StageStats) : Retry.Event → StageStats
  | .attempted _ err =>
    { s with attempts := s.attempts + 1,
             attemptFailures := s.attemptFailures + (if err.isSome then 1 else 0) }
  | .backedOff d => { s with retries := s.retries + 1, backoff := Word.wrap (s.backoff + d) }
  | .rejected _ => { s with rejections := s.rejections + 1 }

/-- **Counts the end of a run**: succeeded, abandoned at shutdown, or failed. -/
def finish (s : StageStats) (rep : Retry.Report) : StageStats :=
  if rep.succeeded then { s with succeeded := s.succeeded + 1 }
  else if rep.interrupted then { s with abandoned := s.abandoned + 1 }
  else { s with failed := s.failed + 1 }

end StageStats

end Conveyor.Pipeline
