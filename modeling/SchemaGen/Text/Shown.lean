import SchemaGen.Text.CharClass
import SchemaGen.Text.Hex

/-!
# Texts shown in messages

A message that repeats a text of the input shows it between double quotes, with everything
escaped that a reader could not see or could take for the end of the text: the quote, the
backslash, and each character that has no shape of its own.
-/

namespace SchemaGen.Text.Shown

/-- One character as it is shown. -/
def escape (c : Char) : List Char :=
  if c.toNat = 0 then ['\\', '0']
  else if c = '\t' then ['\\', 't']
  else if c = '\r' then ['\\', 'r']
  else if c = '\n' then ['\\', 'n']
  else if c = '\\' || c = '"' then ['\\', c]
  else if isGraphemeExtend c || !isPrintable c then
    ['\\', 'u', '\x7b'] ++ shortestHex c.toNat ++ ['\x7d']
  else [c]

/-- A text between double quotes. -/
def quote (s : String) : String :=
  String.ofList ('"' :: s.toList.flatMap escape ++ ['"'])

end SchemaGen.Text.Shown
