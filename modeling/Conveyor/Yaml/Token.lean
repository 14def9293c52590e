/-!
# YAML tokens and reading problems

A YAML text is read in three steps: a scanner cuts it into tokens, a parser turns the tokens
into events, and a composer builds the node tree from the events. This module holds what the
steps share: positions in the text, tokens, and the problems a step can report.

A problem's message is `yaml: ` followed, when known, by `line N: ` and the problem. The
line is the context's line when the problem has a context on a line after the first, else
the problem's own line; positions count lines from zero, and a scanner's problem is told one
line further on than a parser's.
-/

namespace Conveyor.Yaml

/-- A position in the text: the character index, the line and the column, all from zero. -/
structure Mark where
  index : Nat := 0
  line : Nat := 0
  column : Nat := 0
  deriving Inhabited, Repr

/-- How a scalar is written. -/
inductive ScalarStyle where
  | plain
  | singleQuoted
  | doubleQuoted
  | literal
  | folded
  deriving DecidableEq, Inhabited, Repr

/-- The kinds of tokens. -/
inductive TokenKind where
  | streamStart
  | streamEnd
  | versionDirective (major minor : Nat)
  | tagDirective (handle pfx : String)
  | documentStart
  | documentEnd
  | blockSequenceStart
  | blockMappingStart
  | blockEnd
  | flowSequenceStart
  | flowSequenceEnd
  | flowMappingStart
  | flowMappingEnd
  | blockEntry
  | flowEntry
  | key
  | value
  | alias (name : String)
  | anchor (name : String)
  | tag (handle suffix : String)
  | scalar (text : String) (style : ScalarStyle)
  deriving Inhabited, Repr

/-- A token with where it starts and ends. -/
structure Token where
  kind : TokenKind
  start : Mark
  stop : Mark
  deriving Inhabited, Repr

/-- Which step found a problem. -/
inductive Stage where
  | reader
  | scanner
  | parser
  | composer
  deriving DecidableEq, Inhabited, Repr

/-- A problem found while reading. -/
structure Problem where
  stage : Stage
  problem : String
  problemMark : Mark := {}
  context : String := ""
  contextMark : Mark := {}
  deriving Inhabited, Repr

/-- **The message of a problem.** -/
def Problem.message (p : Problem) : String :=
  let shift := if p.stage == .scanner then 1 else 0
  let line :=
    if p.contextMark.line ≠ 0 then p.contextMark.line + shift
    else if p.problemMark.line ≠ 0 then p.problemMark.line + shift
    else 0
  "yaml: " ++ (if line ≠ 0 then "line " ++ toString line ++ ": " else "") ++ p.problem

end Conveyor.Yaml
