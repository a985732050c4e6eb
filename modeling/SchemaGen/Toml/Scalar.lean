import SchemaGen.Text.Basic
import SchemaGen.Text.Hex
import SchemaGen.Toml.Moment
import SchemaGen.Toml.Value

/-!
# Values without quotes

A truth value, a number or a moment is written without quotes.  Digits may be grouped by
underscores, each between two digits.

* `integer?`, `float?`: numbers.
* `Value.ofBare?`: any value without quotes.
-/

namespace SchemaGen.Toml

open Text

/-- Digits, without the underscores between them. -/
def grouped? (isDigit : Char → Bool) (s : List Char) : Option (List Char) :=
  let groups := pieces (· = '_') s
  if groups.all fun g => !g.isEmpty && g.all isDigit then some groups.flatten else none

/-- Decimal digits of a whole number: a zero comes first only if it stands alone. -/
def whole? (s : List Char) : Option (List Char) :=
  match grouped? isAsciiDigit s with
  | some ('0' :: _ :: _) => none
  | r => r

/-- The number that digits write in a base up to sixteen. -/
def valueOf (base : Nat) (ds : List Char) : Nat :=
  ds.foldl (fun n c => n * base + (hexValue? c).getD 0) 0

/-- Whether a character is a digit in a base up to sixteen. -/
def isDigitOf (base : Nat) (c : Char) : Bool :=
  match hexValue? c with
  | some d => d < base
  | none => false

/-- A whole number; one that is not decimal has no sign. -/
def integer? : List Char → Option Int
  | '0' :: 'x' :: s => (grouped? (isDigitOf 16) s).map fun ds => valueOf 16 ds
  | '0' :: 'o' :: s => (grouped? (isDigitOf 8) s).map fun ds => valueOf 8 ds
  | '0' :: 'b' :: s => (grouped? (isDigitOf 2) s).map fun ds => valueOf 2 ds
  | '-' :: s => (whole? s).map fun ds => -(valueOf 10 ds : Int)
  | '+' :: s => (whole? s).map fun ds => valueOf 10 ds
  | s => (whole? s).map fun ds => valueOf 10 ds

/-- Removes one sign. -/
def unsigned : List Char → List Char
  | '+' :: s | '-' :: s => s
  | s => s

/-- The exponent of a number that has one. -/
def exponent? : List Char → Option Int
  | '-' :: s => (grouped? isAsciiDigit s).map fun ds => -(valueOf 10 ds : Int)
  | '+' :: s => (grouped? isAsciiDigit s).map fun ds => valueOf 10 ds
  | s => (grouped? isAsciiDigit s).map fun ds => valueOf 10 ds

/-- Whether the number `digits * 10 ^ exponent` is a floating point number or rounds to one.  The
first number that does not lies halfway between the largest one and `2 ^ 1024`. -/
def fitsFloat (digits : List Char) (exponent : Int) : Bool :=
  let digits := digits.dropWhile (· = '0')
  let places : Int := digits.length + exponent
  digits.isEmpty || places < 309 ||
    (places = 309 &&
      valueOf 10 digits * Nat.pow 10 exponent.toNat <
        (Nat.pow 2 1024 - Nat.pow 2 970) * Nat.pow 10 (-exponent).toNat)

/-- Whether a floating point number fits, if the text is one.  It has a fraction or an exponent,
or is one of the two that are words. -/
def float? (s : List Char) : Option Bool := do
  let s := unsigned s
  if s = ['i', 'n', 'f'] || s = ['n', 'a', 'n'] then return true
  let isExponent (c : Char) := c = 'e' || c = 'E'
  let mantissa := s.takeWhile fun c => !isExponent c
  let exponent ←
    match s.dropWhile fun c => !isExponent c with
    | [] => if mantissa.contains '.' then some 0 else none
    | _ :: s => exponent? s
  let digits ← whole? (uptoFirst (· = '.') mantissa)
  match mantissa.dropWhile (· ≠ '.') with
  | [] => return fitsFloat digits exponent
  | _ :: s =>
    let fraction ← grouped? isAsciiDigit s
    return fitsFloat (digits ++ fraction) (exponent - fraction.length)

/-- A value that is written without quotes. -/
def Value.ofBare? (s : List Char) : Option Value :=
  if s = ['t', 'r', 'u', 'e'] then some (.bool true)
  else if s = ['f', 'a', 'l', 's', 'e'] then some (.bool false)
  else if isMoment s then some .moment
  else
    match integer? s with
    | some n => some (.integer n)
    | none => (float? s).map .float

end SchemaGen.Toml
