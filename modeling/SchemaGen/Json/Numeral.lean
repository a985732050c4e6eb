import SchemaGen.Decimal.Shortest
import SchemaGen.Json.Error

/-!
# Numerals

No value of a manifest is a number, so the value of a numeral matters only for the message that
refuses it, and a numeral of any size can be skipped.

* `Numeral.read`: the numeral at the beginning of a text.
* `Numeral.value?`: its value.  Whole numbers of 64 bits are kept as they are.  Any other is the
  floating point number that its first digits give, as many as 64 bits can hold, scaled by a
  power of ten; it may differ from the nearest one in the last place.
* `Number.shown`: a value as a message shows it.
-/

namespace SchemaGen.Json

open Text Decimal

/-- Why a text does not begin with a numeral. -/
inductive NumeralFault where
  /-- It ends where a digit has to stand. -/
  | endOfInput
  /-- Something else stands where a digit has to, or a zero comes first. -/
  | malformed
  deriving DecidableEq, Repr

/-- A number as it is written. -/
structure Numeral where
  negative : Bool
  whole : List Char
  fraction : Option (List Char)
  /-- The exponent, with its sign if that is a minus. -/
  exponent : Option (Bool × List Char)
  deriving DecidableEq, Repr

/-- The value of a numeral. -/
inductive Number where
  | integer (n : Int)
  | float (x : Float)

/-- The value of a digit. -/
def digitValue (c : Char) : Nat :=
  c.toNat - '0'.toNat

/-- The digits at the beginning of a text, of which there has to be one. -/
def readDigits (s : List Char) : Except NumeralFault (List Char × List Char) :=
  match s with
  | [] => .error .endOfInput
  | c :: _ =>
    if isAsciiDigit c then .ok (s.takeWhile isAsciiDigit, s.dropWhile isAsciiDigit)
    else .error .malformed

theorem length_readDigits {s ds rest : List Char} (h : readDigits s = .ok (ds, rest)) :
    rest.length < s.length := by
  unfold readDigits at h
  split at h
  · simp at h
  · next c s =>
    split at h
    · next hc =>
      simp only [Except.ok.injEq, Prod.mk.injEq] at h
      rw [← h.2]
      have := (List.dropWhile_suffix isAsciiDigit (l := s)).length_le
      simp only [List.dropWhile_cons, hc, if_true, List.length_cons]
      omega
    · simp at h

namespace Numeral

/-- The sign at the beginning of a text. -/
def readSign : List Char → Bool × List Char
  | '-' :: s => (true, s)
  | s => (false, s)

/-- The digits before the point.  A zero stands alone. -/
def readWhole (s : List Char) : Except NumeralFault (List Char × List Char) :=
  match readDigits s with
  | .ok ('0' :: _ :: _, _) => .error .malformed
  | r => r

/-- The digits after the point, if there is one. -/
def readFraction : List Char → Except NumeralFault (Option (List Char) × List Char)
  | '.' :: s => (readDigits s).map fun (ds, rest) => (some ds, rest)
  | s => .ok (none, s)

/-- The sign of an exponent. -/
def readExponentSign : List Char → Bool × List Char
  | '-' :: s => (true, s)
  | '+' :: s => (false, s)
  | s => (false, s)

/-- The exponent, if there is one. -/
def readExponent : List Char → Except NumeralFault (Option (Bool × List Char) × List Char)
  | [] => .ok (none, [])
  | c :: s =>
    if c = 'e' || c = 'E' then
      (readDigits (readExponentSign s).2).map fun (ds, rest) =>
        (some ((readExponentSign s).1, ds), rest)
    else .ok (none, c :: s)

/-- The numeral at the beginning of a text, and what follows it. -/
def read (s : List Char) : Except NumeralFault (Numeral × List Char) := do
  let (negative, s) := readSign s
  let (whole, s) ← readWhole s
  let (fraction, s) ← readFraction s
  let (exponent, s) ← readExponent s
  return (⟨negative, whole, fraction, exponent⟩, s)

/-! ## The value -/

/-- A number as some first digits and a power of ten. -/
structure Scaled where
  significand : Nat
  exponent : Int

/-- Appends digits before the point.  From the first that does not fit into 64 bits on, digits
only count as places. -/
def Scaled.appendWhole : Scaled → List Char → Scaled
  | n, [] => n
  | n, d :: ds =>
    let longer := n.significand * 10 + digitValue d
    if longer < UInt64.size then appendWhole ⟨longer, n.exponent⟩ ds
    else ⟨n.significand, n.exponent + (d :: ds).length⟩

/-- Appends digits after the point, up to the first that does not fit into 64 bits. -/
def Scaled.appendFraction : Scaled → List Char → Scaled
  | n, [] => n
  | n, d :: ds =>
    let longer := n.significand * 10 + digitValue d
    if longer < UInt64.size then appendFraction ⟨longer, n.exponent - 1⟩ ds else n

/-- The value of the exponent. -/
def exponentValue : Option (Bool × List Char) → Int
  | none => 0
  | some (negative, ds) =>
    let n : Int := ds.foldl (fun n d => n * 10 + digitValue d) (0 : Nat)
    if negative then -n else n

/-- A power of ten. -/
def power (n : Nat) : Float :=
  Float.ofScientific 1 false n

/-- The floating point number of a scaled one, unless it is too large.  No power of ten above
`10 ^ 308` is a floating point number, so a small number is divided twice. -/
def Scaled.toFloat? (n : Scaled) : Option Float :=
  let x := Float.ofNat n.significand
  if n.significand = 0 then some 0
  else if 308 < n.exponent then none
  else if 0 ≤ n.exponent then
    let y := x * power n.exponent.toNat
    if y.isInf then none else some y
  else
    let places := (-n.exponent).toNat
    if places ≤ 308 then some (x / power places)
    else if places ≤ 616 then some (x / power 308 / power (places - 308))
    else some 0

/-- The value of a numeral as a whole number of 64 bits, if it is one.  A negative zero is not. -/
def integer? (n : Numeral) : Option Int :=
  if n.fraction.isNone && n.exponent.isNone then
    let magnitude := n.whole.foldl (fun m d => m * 10 + digitValue d) 0
    if n.negative then
      if 0 < magnitude && magnitude ≤ UInt64.size / 2 then some (-magnitude) else none
    else if magnitude < UInt64.size then some magnitude
    else none
  else none

/-- The value of a numeral, unless it is too large. -/
def value? (n : Numeral) : Option Number :=
  match n.integer? with
  | some i => some (.integer i)
  | none =>
    let digits := (Scaled.mk 0 0).appendWhole n.whole |>.appendFraction (n.fraction.getD [])
    let scaled : Scaled := ⟨digits.significand, digits.exponent + exponentValue n.exponent⟩
    scaled.toFloat?.map fun x => .float (if n.negative then -x else x)

end Numeral

/-! ## Values in messages -/

/-- The text of a decimal: with a point and at least one digit after it if the first digit stands
between the fifth place after the point and the sixteenth before it, otherwise with an
exponent. -/
def decimalText (d : Decimal) : String :=
  let digits := (toString d.digits).toList
  let digits := match (digits.reverse.dropWhile (· = '0')).reverse with
    | [] => ['0']
    | ds => ds
  let place := d.exponent + ((toString d.digits).length - 1 : Nat)
  let count := digits.length
  let zeros (n : Nat) := List.replicate n '0'
  if -5 ≤ place && place ≤ 15 then
    if place < 0 then String.ofList ('0' :: '.' :: zeros (-place - 1).toNat ++ digits)
    else if count ≤ place.toNat + 1 then
      String.ofList (digits ++ zeros (place.toNat + 1 - count) ++ ['.', '0'])
    else String.ofList (digits.take (place.toNat + 1) ++ '.' :: digits.drop (place.toNat + 1))
  else
    let exponent := (if place < 0 then "e-" else "e+") ++ toString place.natAbs
    match digits with
    | [d] => String.singleton d ++ exponent
    | ds => String.ofList (ds.take 1 ++ '.' :: ds.drop 1) ++ exponent

/-- A floating point number in a message. -/
def floatText (x : Float) : String :=
  let magnitude := if x == 0 then "0.0" else decimalText (Binary.ofFloat x).shortest
  if x.toBits.toNat < UInt64.size / 2 then magnitude else "-" ++ magnitude

/-- A value in a message. -/
def Number.shown : Number → String
  | .integer n => "integer \x60" ++ toString n ++ "\x60"
  | .float x => "floating point \x60" ++ floatText x ++ "\x60"

end SchemaGen.Json
