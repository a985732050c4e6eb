import SchemaGen.Text.Boundaries
import SchemaGen.Text.ClassTable

/-!
# Classes of characters

Unicode properties that the naming and quoting rules ask about.  ASCII is decided by its own
ranges, all else by a table, so a fact about ASCII text needs no table.
-/

namespace SchemaGen.Text

/-- An ASCII character. -/
def isAscii (c : Char) : Bool :=
  c.toNat < 0x80

/-- An ASCII letter. -/
def isAsciiLetter (c : Char) : Bool :=
  ('a' ≤ c && c ≤ 'z') || ('A' ≤ c && c ≤ 'Z')

/-- An ASCII digit. -/
def isAsciiDigit (c : Char) : Bool :=
  '0' ≤ c && c ≤ '9'

/-- A control character, general category `Cc`. -/
def isControl (c : Char) : Bool :=
  c.toNat < 0x20 || (0x7f ≤ c.toNat && c.toNat < 0xa0)

/-- A letter, a digit or another number, of any script. -/
def isAlphanumeric (c : Char) : Bool :=
  if isAscii c then isAsciiLetter c || isAsciiDigit c else inside c.toNat ClassTable.alphanumeric

/-- A character that takes part in casing: the property `Cased`. -/
def isCased (c : Char) : Bool :=
  if isAscii c then isAsciiLetter c else inside c.toNat ClassTable.cased

/-- A character that casing looks past: the property `Case_Ignorable`. -/
def isCaseIgnorable (c : Char) : Bool :=
  if isAscii c then c = '\'' || c = '.' || c = ':' || c = '^' || c = '\x60'
  else inside c.toNat ClassTable.caseIgnorable

/-- A mark that extends the character before it: the property `Grapheme_Extend`. -/
def isGraphemeExtend (c : Char) : Bool :=
  !isAscii c && inside c.toNat ClassTable.graphemeExtend

/-- A character that has a shape of its own on paper, or is the plain space. -/
def isPrintable (c : Char) : Bool :=
  if isAscii c then 0x20 ≤ c.toNat && c.toNat < 0x7f else !inside c.toNat ClassTable.unprintable

end SchemaGen.Text
