import Conveyor.Yaml.Datum
import Conveyor.Decimal.Integer
/-!
# The type of a plain scalar

A plain scalar's text decides its type, following the YAML core schema with a few older
spellings:

* `true`, `True`, `TRUE`, `false`, `False`, `FALSE` are booleans; the empty text, `~`,
  `null`, `Null`, `NULL` are null; `.inf`, `-.inf`, `.nan` and their capitalised spellings
  are doubles; `<<` is a merge key;
* a text that starts with a digit or a sign may be a timestamp (`Timestamp.read?`), a whole
  number (underscores ignored; `0x`, `0o`, `0b` and a leading `0` choose the base), a number
  beyond the signed range that still fits 64 bits, or a decimal double;
* a text that starts with `.` may be a double;
* anything else is a string.

A tag written on a scalar asks for a type; a text that does not have it is an error, except
that a whole number may be asked to be a double.
-/

namespace Conveyor.Yaml

/-- The prefix of the standard tags. -/
def standardTagPrefix : String := "tag:yaml.org,2002:"

/-- The short form of a tag: the standard ones are written `!!name`. -/
def shortTag (tag : String) : String :=
  if tag.startsWith standardTagPrefix then
    "!!" ++ String.ofList (tag.toList.drop standardTagPrefix.length)
  else tag

/-! ### Resolving -/

/-- The tags whose values are told from the text. -/
def resolvableTag (tag : String) : Bool :=
  tag == "" || tag == "!!str" || tag == "!!bool" || tag == "!!int" || tag == "!!float" ||
    tag == "!!timestamp" || tag == "!!null"

/-- The words with a fixed meaning. -/
def fixedWord? (text : String) : Option (String × Datum) :=
  match text with
  | "true" | "True" | "TRUE" => some ("!!bool", .bool true)
  | "false" | "False" | "FALSE" => some ("!!bool", .bool false)
  | "" | "~" | "null" | "Null" | "NULL" => some ("!!null", .null)
  | ".nan" | ".NaN" | ".NAN" => some ("!!float", .float Binary.nan)
  | ".inf" | ".Inf" | ".INF" | "+.inf" | "+.Inf" | "+.INF" => some ("!!float", .float (Binary.infinity false))
  | "-.inf" | "-.Inf" | "-.INF" => some ("!!float", .float (Binary.infinity true))
  | "<<" => some ("!!merge", .str "<<")
  | _ => none

/-- What the first character of a text hints at: a sign, a digit, a fixed word, a point. -/
inductive Hint where
  | sign
  | digit
  | word
  | point

/-- The hint of a text's first character; the empty text hints at a fixed word. -/
def hintOf (text : String) : Option Hint :=
  match text.toList with
  | [] => some .word
  | c :: _ =>
    if c == '+' || c == '-' then some .sign
    else if c.isDigit then some .digit
    else if "yYnNtTfFoO~".contains c then some .word
    else if c == '.' then some .point
    else none

/-- Whether a text is a decimal double in the plain form: an optional sign, digits with an
optional point (or a point and digits), and an optional exponent. -/
def isDecimalForm (text : String) : Bool :=
  let s := text.toList
  let s := match s with | '+' :: r | '-' :: r => r | r => r
  let whole := s.takeWhile Char.isDigit
  let rest := s.dropWhile Char.isDigit
  let mantissaRest : Option (List Char) :=
    if whole.isEmpty then
      match rest with
      | '.' :: r =>
        let frac := r.takeWhile Char.isDigit
        if frac.isEmpty then none else some (r.dropWhile Char.isDigit)
      | _ => none
    else
      match rest with
      | '.' :: r => some (r.dropWhile Char.isDigit)
      | r => some r
  match mantissaRest with
  | none => false
  | some [] => true
  | some (e :: r) =>
    if e == 'e' || e == 'E' then
      let r := match r with | '+' :: r | '-' :: r => r | r => r
      !r.isEmpty && r.all Char.isDigit
    else false

/-- A whole number as the value it stands for. -/
def wholeDatum (n : Int) : Datum := .int n

/-- Reads a whole number in a base, signed and then unsigned. -/
def readWhole (text : String) (base : Nat) : Option Datum :=
  match Decimal.readInteger text base 64 with
  | .ok n => some (wholeDatum n)
  | .error _ =>
    match Decimal.readNatural text base 64 with
    | .ok n => some (.uint n)
    | .error _ => none

/-- The type and value a plain text takes by its hint, for a requested tag. -/
def typeByText (tag text : String) : String × Datum :=
  match hintOf text with
  | none => ("!!str", .str text)
  | some hint =>
    if tag == "!!str" || tag == "!!binary" then ("!!str", .str text) else
    match fixedWord? text with
    | some r => r
    | none =>
      match hint with
      | .word => ("!!str", .str text)
      | .point =>
        match Decimal.readFloat text with
        | .ok f => ("!!float", .float f)
        | .error _ => ("!!str", .str text)
      | .sign | .digit =>
        match (if tag == "" || tag == "!!timestamp" then Timestamp.read? text else none) with
        | some t => ("!!timestamp", .time t)
        | none =>
          let plain := String.ofList (text.toList.filter (· != '_'))
          match readWhole plain 0 with
          | some d => ("!!int", d)
          | none =>
            let asFloat : Option Datum :=
              if isDecimalForm plain then
                match Decimal.readFloat plain with
                | .ok f => some (.float f)
                | .error _ => none
              else none
            match asFloat with
            | some d => ("!!float", d)
            | none =>
              let rest (n : Nat) := String.ofList (plain.toList.drop n)
              let viaPrefix : Option Datum :=
                if plain.startsWith "0b" then readWhole (rest 2) 2
                else if plain.startsWith "-0b" then
                  (Decimal.readInteger ("-" ++ rest 3) 2 64).toOption.map wholeDatum
                else if plain.startsWith "0o" then readWhole (rest 2) 8
                else if plain.startsWith "-0o" then
                  (Decimal.readInteger ("-" ++ rest 3) 8 64).toOption.map wholeDatum
                else none
              match viaPrefix with
              | some d => ("!!int", d)
              | none => ("!!str", .str text)

/-- **Resolving a scalar**: its type and value, for the tag written on it (short or long,
empty when none). Tags that are not told from the text keep the text as a string. -/
def resolve (tag text : String) : Except String (String × Datum) :=
  let tag := shortTag tag
  if !resolvableTag tag then .ok (tag, .str text) else
  let (rtag, out) := typeByText tag text
  if tag == "" || tag == rtag || tag == "!!str" || tag == "!!binary" then .ok (rtag, out)
  else match tag, out with
    | "!!float", .int n => .ok ("!!float", .float (Binary.ofInt n))
    | _, _ => .error ("yaml: cannot decode " ++ rtag ++ " `" ++ text ++ "` as a " ++ tag)

end Conveyor.Yaml
