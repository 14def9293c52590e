/-!
# Truth values in text

A truth value is written `1`, `t`, `T`, `TRUE`, `true` or `True`, and its opposite `0`,
`f`, `F`, `FALSE`, `false` or `False`; any other text is not a truth value.
-/

namespace Conveyor.Text

/-- **Reads a truth value**, or none for any other text. -/
def readBool (s : String) : Option Bool :=
  if ["1", "t", "T", "TRUE", "true", "True"].contains s then some true
  else if ["0", "f", "F", "FALSE", "false", "False"].contains s then some false
  else none

end Conveyor.Text
