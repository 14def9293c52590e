import Conveyor.Decimal.Integer
import Conveyor.Time.Duration
import Conveyor.Text.Truth
import Conveyor.Text.Quoted
/-!
# Command-line flags

Flags in the GNU style. An argument that starts with `--` names a long flag, with its value
after `=` or in the next argument; one that starts with a single `-` holds shorthand letters,
a letter that takes a value taking the rest of the argument (after an optional `=`) or the
next argument. A truth flag given alone is true. `--` ends the flags, and every other argument
is left for the command. `--help` and `-h` ask for the usage.

A whole number is read in the base its prefix chooses, a duration as a sum of numbers with
units, and a truth value in its usual spellings. The first problem ends parsing, in the words
of the flag set: an unknown flag, a flag missing its value, a value that does not read, or a
malformed argument.
-/

namespace Conveyor.Cli

/-- The kind of value a flag takes. -/
inductive FlagKind where
  | text | integer | duration | truth
  deriving DecidableEq, Repr

/-- A flag: its long name, its shorthand letter, its kind, what it is for, and the text of
its default value. -/
structure Flag where
  name : String
  shorthand : Option Char := none
  kind : FlagKind
  usage : String
  defaultText : String

/-- A value given to a flag. -/
inductive FlagValue where
  | text (s : String)
  | integer (n : Int)
  | duration (ns : Int)
  | truth (b : Bool)

/-- Why parsing ended early. -/
inductive Stop where
  /-- The usage was asked for. -/
  | help
  /-- An argument was refused, in these words. -/
  | failed (message : String)

/-- The name of a kind of value in the usage. -/
def FlagKind.typeName : FlagKind → String
  | .text => "string"
  | .integer => "int"
  | .duration => "duration"
  | .truth => ""

/-- **Reading a flag's value**, or the words of the reason it does not read. -/
def FlagKind.read (k : FlagKind) (s : String) : Except String FlagValue :=
  match k with
  | .text => .ok (.text s)
  | .integer => match Decimal.readInteger s 0 64 with
    | .ok n => .ok (.integer n)
    | .error e => .error ("strconv.ParseInt: parsing " ++ Text.quote s ++ ": " ++ e.words)
  | .duration => (Duration.read s).map .duration
  | .truth => match Text.readBool s with
    | some b => .ok (.truth b)
    | none => .error ("strconv.ParseBool: parsing " ++ Text.quote s ++ ": invalid syntax")

/-- How a flag is named in a refusal: its shorthand too, when it has one. -/
def Flag.title (f : Flag) : String :=
  match f.shorthand with
  | some c => "-" ++ String.singleton c ++ ", --" ++ f.name
  | none => "--" ++ f.name

/-- Gives a flag its value. -/
def Flag.assign (f : Flag) (value : String) : Except Stop (String × FlagValue) :=
  match f.kind.read value with
  | .ok v => .ok (f.name, v)
  | .error why =>
    .error (.failed ("invalid argument " ++ Text.quote value ++ " for " ++ Text.quote f.title ++
      " flag: " ++ why))

/-- The first byte of a letter, read as a character of its own, quoted: the refusal of a
shorthand speaks of bytes. -/
def quoteLetter (c : Char) : String :=
  let b := (String.singleton c).toUTF8.toList.headD 0
  "'" ++ String.singleton (Char.ofNat b.toNat) ++ "'"

/-- Reads the shorthand letters of one argument; `rest` are the arguments after it. A refusal
names the letters not yet read. -/
def shorthands (flags : List Flag) (rest : List String) :
    List Char → Except Stop (List (String × FlagValue) × List String)
  | [] => .ok ([], rest)
  | c :: more =>
    let left := String.ofList (c :: more)
    match flags.find? (·.shorthand == some c) with
    | none =>
      if c == 'h' then .error .help
      else .error (.failed ("unknown shorthand flag: " ++ quoteLetter c ++ " in -" ++ left))
    | some f =>
      if f.kind == .truth then do
        let a ← f.assign (match more with
          | '=' :: v@(_ :: _) => String.ofList v
          | _ => "true")
        match more with
        | '=' :: _ :: _ => return ([a], rest)
        | _ =>
          let (as, rest) ← shorthands flags rest more
          return (a :: as, rest)
      else
        match more, rest with
        | '=' :: v@(_ :: _), _ => do return ([← f.assign (String.ofList v)], rest)
        | _ :: _, _ => do return ([← f.assign (String.ofList more)], rest)
        | [], r :: rs => do return ([← f.assign r], rs)
        | [], [] => .error (.failed ("flag needs an argument: " ++ quoteLetter c ++ " in -" ++ left))

/-- Reads a long flag, `body` the argument after its dashes; `rest` are the arguments after it. -/
def longFlag (flags : List Flag) (arg body : String) (rest : List String) :
    Except Stop (String × FlagValue × List String) :=
  if body.isEmpty || body.startsWith "-" || body.startsWith "=" then
    .error (.failed ("bad flag syntax: " ++ arg))
  else
    let (name, given) := match body.splitOn "=" with
      | n :: v :: more => (n, some ("=".intercalate (v :: more)))
      | _ => (body, none)
    match flags.find? (·.name == name) with
    | none => if name == "help" then .error .help else .error (.failed ("unknown flag: --" ++ name))
    | some f =>
      match given, f.kind, rest with
      | some v, _, _ => do let (n, x) ← f.assign v; return (n, x, rest)
      | none, .truth, _ => do let (n, x) ← f.assign "true"; return (n, x, rest)
      | none, _, r :: rs => do let (n, x) ← f.assign r; return (n, x, rs)
      | none, _, [] => .error (.failed ("flag needs an argument: " ++ arg))

/-- **Parsing arguments**: the values given, in order, and the arguments left; at most `fuel`
arguments are read. -/
def parseWith (flags : List Flag) : List String → Nat → Except Stop (List (String × FlagValue) × List String)
  | [], _ => .ok ([], [])
  | _, 0 => .ok ([], [])
  | arg :: rest, fuel + 1 =>
    if arg == "--" then .ok ([], rest)
    else if arg.length < 2 || !arg.startsWith "-" then do
      let (vs, left) ← parseWith flags rest fuel
      return (vs, arg :: left)
    else if arg.startsWith "--" then do
      let (n, v, rest) ← longFlag flags arg (arg.drop 2).toString rest
      let (vs, left) ← parseWith flags rest fuel
      return ((n, v) :: vs, left)
    else do
      let (as, rest) ← shorthands flags rest (arg.drop 1).toString.toList
      let (vs, left) ← parseWith flags rest fuel
      return (as ++ vs, left)

/-- **Parsing arguments** against a set of flags. -/
def parse (flags : List Flag) (args : List String) : Except Stop (List (String × FlagValue) × List String) :=
  parseWith flags args (args.length + 1)

/-- The last value given to a flag. -/
def valueOf (vs : List (String × FlagValue)) (name : String) : Option FlagValue :=
  (vs.filter (·.1 == name)).getLast?.map (·.2)

/-- **The usage of a flag set**: one line a flag, sorted by name, each with its kind, what it
is for, and its default when that is not the zero value. -/
def usage (program : String) (flags : List Flag) : List String :=
  let sorted := flags.mergeSort fun a b => decide (a.name ≤ b.name)
  let heads := sorted.map fun f =>
    let lead := match f.shorthand with
      | some c => "  -" ++ String.singleton c ++ ", --" ++ f.name
      | none => "      --" ++ f.name
    if f.kind.typeName.isEmpty then lead else lead ++ " " ++ f.kind.typeName
  let width := (heads.map String.length).foldl max 0 + 1
  let lines := (heads.zip sorted).map fun (h, f) =>
    let dflt :=
      if f.defaultText.isEmpty || f.defaultText == "0" || f.defaultText == "false" then ""
      else if f.kind == .text then " (default " ++ Text.quote f.defaultText ++ ")"
      else " (default " ++ f.defaultText ++ ")"
    h ++ " " ++ String.ofList (List.replicate (width - h.length) ' ') ++ " " ++ f.usage ++ dflt
  ("Usage of " ++ program ++ ":") :: lines

end Conveyor.Cli
