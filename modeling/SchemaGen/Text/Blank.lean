import SchemaGen.Text.Basic

/-!
# Blank characters

A character is blank if it has the Unicode property `White_Space`.  The zero-width space, the
byte order mark and the Mongolian vowel separator do not have it, the next-line control has.
`trim` removes blanks at both ends.
-/

namespace SchemaGen.Text

/-- The Unicode property `White_Space`. -/
def isBlank (c : Char) : Bool :=
  c = ' ' || ('\t' ≤ c && c ≤ '\r') || c = '\u0085' || c = '\u00a0' || c = '\u1680' ||
    ('\u2000' ≤ c && c ≤ '\u200a') || c = '\u2028' || c = '\u2029' || c = '\u202f' ||
    c = '\u205f' || c = '\u3000'

/-- The text without blanks at its ends. -/
def trim (s : List Char) : List Char :=
  strip isBlank s

end SchemaGen.Text
