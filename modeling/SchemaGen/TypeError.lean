/-!
# Types that have no schema

Why the type of a field could not be mapped.  Each cause carries the texts that its message
repeats.
-/

namespace SchemaGen

/-- What is wrong with a generic signature. -/
inductive SignatureFault where
  /-- It has no closing bracket. -/
  | noClosingBracket
  /-- Neither a dot nor an opening bracket stands before the last closing one. -/
  | noSeparator
  /-- What stands there is no type name. -/
  | notATypeName (name : String)
  deriving DecidableEq, Repr

/-- What is wrong with the type of a field. -/
inductive TypeError where
  /-- A collection whose elements are collections. -/
  | recursiveCollection (type : String)
  /-- A signature from which no element type can be read. -/
  | malformedSignature (signature : String) (fault : SignatureFault)
  /-- A collection that does not tell its element type. -/
  | missingElementType (declared : String)
  /-- A name that no generated module could use. -/
  | invalidTypeName (name : String)
  deriving DecidableEq, Repr

/-- The text of the fault. -/
def SignatureFault.message : SignatureFault → String
  | .noClosingBracket => "no closing generic bracket"
  | .noSeparator => "no path separator before closing bracket"
  | .notATypeName name => "'" ++ name ++ "' is not a type name"

/-- The text of the error. -/
def TypeError.message : TypeError → String
  | .recursiveCollection type => "recursive collection not supported: " ++ type
  | .malformedSignature signature fault =>
    "could not find simple type name in '" ++ signature ++ "': " ++ fault.message
  | .missingElementType declared => "collection type '" ++ declared ++ "' has no element type"
  | .invalidTypeName name => "type name '" ++ name ++ "' is not a valid identifier"

end SchemaGen
