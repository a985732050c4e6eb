import SchemaGen.Text.Blank
import SchemaGen.Text.Case

/-!
# Comparing names without regard to case

Type names and override keys are compared in lower case and without blanks around them.
-/

namespace SchemaGen.Text

/-- The lowercase form of a text. -/
def lowered (s : String) : String :=
  String.ofList (lower s.toList)

/-- The text without blanks at its ends. -/
def trimmed (s : String) : String :=
  String.ofList (trim s.toList)

end SchemaGen.Text
