/-!
# Modes

What a run does with the modules that it generates.
-/

namespace SchemaGen

/-- The three ways to treat a generated module. -/
inductive Mode where
  /-- Store it. -/
  | write
  /-- Only tell what would be stored. -/
  | dryRun
  /-- Compare it with what is stored. -/
  | check
  deriving DecidableEq, Repr

/-- The name of the mode in the log. -/
def Mode.name : Mode → String
  | .write => "Write"
  | .dryRun => "DryRun"
  | .check => "Check"

end SchemaGen
