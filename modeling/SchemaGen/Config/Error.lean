import SchemaGen.FileSystem.Basic

/-!
# Why there is no usable configuration
-/

namespace SchemaGen

/-- Why there is no usable configuration. -/
inductive ConfigError where
  /-- The file cannot be read. -/
  | unreadable (path : String) (error : IoError)
  /-- The text is not well formed, or a setting is of the wrong kind.  What is wrong is not told. -/
  | invalidToml (path : String)
  /-- A setting cannot be used. -/
  | invalidValue (key reason : String)
  deriving DecidableEq, Repr

/-- The text of the error. -/
def ConfigError.message : ConfigError → String
  | .unreadable path error => "Failed to read config " ++ path ++ ": " ++ error.message
  | .invalidToml path => "Invalid TOML in " ++ path
  | .invalidValue key reason =>
    "Invalid configuration value for '" ++ key ++ "': " ++ reason

end SchemaGen
