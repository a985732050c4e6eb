import SchemaGen.Config.Toml
import SchemaGen.Session

/-!
# Loading the configuration

The configuration is read from a file.  Where there is no such file, a run uses the defaults.

* `Config.parse`: the configuration that a text tells, if it is usable.
* `Config.load`: the configuration of a session.
-/

namespace SchemaGen.Config

/-- The file that is read unless another is named. -/
def standardFile : String := "dto-zod.toml"

/-- The configuration that a text tells, if it is usable. -/
def parse (path text : String) : Except ConfigError Config := do
  match ofToml? text with
  | none => throw (.invalidToml path)
  | some config =>
    config.checkUsable
    return config

/-- The configuration of a session. -/
def load (file : Option String) : Job ConfigError Config := do
  let path := file.getD standardFile
  if !(← Job.inspect fun fs => fs.exists path) then return standard
  let text ← Job.access (.unreadable path) fun fs => fs.readText path
  MonadExcept.ofExcept (parse path text)

end SchemaGen.Config
