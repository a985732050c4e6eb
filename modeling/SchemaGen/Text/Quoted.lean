import SchemaGen.Text.CharClass
import SchemaGen.Text.Hex

/-!
# Single-quoted string literals

An object key that is no identifier is written as a string literal between single quotes.  The
quote, the backslash and every character that could end the line, or is a control, is escaped, so
a literal stays on its line whatever the key holds.

* `encode s`: the characters between the quotes; `literal s`: with the quotes.
* `decode t`: reads the characters between the quotes back; it refuses what no literal may hold
  raw, a quote or the end of a line.
-/

namespace SchemaGen.Text.Quoted

/-- A character that is written by its code point. -/
def needsCodePoint (c : Char) : Bool :=
  isControl c || c = '\u2028' || c = '\u2029'

/-- One character as it stands inside a literal. -/
def escape (c : Char) : List Char :=
  if c = '\\' then ['\\', '\\']
  else if c = '\'' then ['\\', '\'']
  else if c = '\n' then ['\\', 'n']
  else if c = '\r' then ['\\', 'r']
  else if c = '\t' then ['\\', 't']
  else if needsCodePoint c then '\\' :: 'u' :: hexDigits 4 c.toNat
  else [c]

/-- The characters between the quotes. -/
def encode (s : List Char) : List Char :=
  s.flatMap escape

/-- A text as a literal. -/
def literal (s : String) : String :=
  String.ofList ('\'' :: encode s.toList ++ ['\''])

/-- The text whose literal has these characters between its quotes. -/
def decode : List Char → Option (List Char)
  | [] => some []
  | '\\' :: 'u' :: a :: b :: c :: d :: r => do
    let n ← readHex? [a, b, c, d]
    let rest ← decode r
    return Char.ofNat n :: rest
  | '\\' :: c :: r => do
    let plain ←
      if c = '\\' ∨ c = '\'' then some c
      else if c = 'n' then some '\n'
      else if c = 'r' then some '\r'
      else if c = 't' then some '\t'
      else none
    let rest ← decode r
    return plain :: rest
  | c :: r =>
    if c = '\\' || c = '\'' || c = '\n' || c = '\r' then none else (decode r).map (c :: ·)

end SchemaGen.Text.Quoted
