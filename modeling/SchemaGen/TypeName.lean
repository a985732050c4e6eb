import SchemaGen.Text.Lowered
import SchemaGen.TypeError

/-!
# Names of types

A declared type is a text such as `com.acme.User`, `List<com.acme.Tag>` or `int[]`.  This module
holds the questions that are asked about such a text alone.

* `simple`: the name without its package.
* `isCollection`: whether the text names a collection.
* `isIdentifier`: whether a generated module can use the text as a name.
* `elementOf`: the element type that a generic signature such as `List<Tag>` tells.
-/

namespace SchemaGen.TypeName

open Text

/-- The name without its package: what follows the last dot. -/
def simple (text : String) : String :=
  String.ofList (afterLast (· = '.') (trim text.toList))

/-- The simple names of collections, in lower case. -/
def collectionNames : List String :=
  ["list", "arraylist", "linkedlist", "set", "hashset", "linkedhashset", "treeset", "sortedset",
    "collection", "iterable"]

/-- What precedes the first opening bracket. -/
def outer (text : String) : String :=
  String.ofList (uptoFirst (· = '<') text.toList)

/-- Whether the text names an array or, whatever its type arguments, one of the known
collections. -/
def isCollection (text : String) : Bool :=
  let name := trimmed text
  "[]".toList.isSuffixOf name.toList || collectionNames.contains (lowered (simple (outer name)))

/-- A character that an identifier may begin with. -/
def isIdentifierStart (c : Char) : Bool :=
  isAsciiLetter c || c = '_' || c = '$'

/-- A character that an identifier may hold after its first. -/
def isIdentifierPart (c : Char) : Bool :=
  isIdentifierStart c || isAsciiDigit c

/-- Whether the text is an identifier: ASCII letters, digits, underscores and dollar signs, the
first of them no digit. -/
def isIdentifier (text : String) : Bool :=
  match text.toList with
  | [] => false
  | c :: rest => isIdentifierStart c && rest.all isIdentifierPart

/-- The element type of a generic signature: the last segment, at a dot or an opening bracket,
before the last closing bracket.  More than one opening bracket before it means a collection of
collections, and so does an element that is itself named like a collection. -/
def elementOf (signature : String) : Except TypeError String :=
  match splitLast? (· = '>') signature.toList with
  | none => .error (.malformedSignature signature .noClosingBracket)
  | some (head, _, _) =>
    match splitLast? (fun c => c = '.' || c = '<') head with
    | none => .error (.malformedSignature signature .noSeparator)
    | some (_, _, segment) =>
      let name := String.ofList (trim segment)
      if 1 < head.count '<' then .error (.recursiveCollection signature)
      else if isCollection name then .error (.recursiveCollection name)
      else if isIdentifier name then .ok name
      else .error (.malformedSignature signature (.notATypeName name))

end SchemaGen.TypeName
