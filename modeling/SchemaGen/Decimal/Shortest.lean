/-!
# The shortest decimal of a floating point number

A floating point number is shown by the fewest digits that read back as itself.  The reals that
round to a positive number form an interval around it, whose ends belong to it iff its
significand is even.  Among the decimals of one digit, then of two, and so on, the first that lie
in the interval are found next to the number itself; of two, the nearer is taken.

* `Binary.ofFloat`: a positive number as a significand and a power of two.
* `Binary.shortest`: its shortest decimal.

All comparisons are made between natural numbers, so nothing is rounded on the way.
-/

namespace SchemaGen

/-- The decimal number `digits * 10 ^ exponent`. -/
structure Decimal where
  digits : Nat
  exponent : Int
  deriving DecidableEq, Repr

namespace Decimal

/-- The number `significand * 2 ^ exponent`. -/
structure Binary where
  significand : Nat
  exponent : Int
  /-- Whether the next smaller number is only half as far away as the next larger one. -/
  closerBelow : Bool
  deriving DecidableEq, Repr

namespace Binary

/-- A positive floating point number. -/
def ofFloat (x : Float) : Binary :=
  let bits : Nat := x.toBits.toNat
  let fraction : Nat := bits % Nat.pow 2 52
  let biased : Nat := bits / Nat.pow 2 52 % Nat.pow 2 11
  if biased = 0 then ⟨fraction, -1074, false⟩
  else ⟨Nat.pow 2 52 + fraction, (biased : Int) - 1075, fraction = 0 && 1 < biased⟩

/-- The side of a comparison that stands for `quarters / 4` units of the last binary place, when
the other side counts units of `10 ^ exponent`. -/
def scaled (b : Binary) (quarters : Nat) (exponent : Int) : Nat :=
  quarters * Nat.pow 2 (b.exponent - 2).toNat * Nat.pow 10 (-exponent).toNat

/-- The unit that the other side of the comparison is counted in. -/
def unit (b : Binary) (exponent : Int) : Nat :=
  Nat.pow 2 (2 - b.exponent).toNat * Nat.pow 10 exponent.toNat

/-- Whether `10 ^ exponent` is at most the number. -/
def atLeastPower (b : Binary) (exponent : Int) : Bool :=
  b.unit exponent ≤ b.scaled (4 * b.significand) exponent

/-- The place of the first decimal digit: the largest power of ten that is at most the number.
The logarithm of two gives it up to one place. -/
def magnitude (b : Binary) : Int :=
  let guess := (Nat.log2 b.significand + b.exponent) * 30103 / 100000
  if b.atLeastPower (guess + 1) then guess + 1
  else if b.atLeastPower guess then guess
  else guess - 1

/-- Whether a decimal reads back as the number. -/
def reads (b : Binary) (d : Decimal) : Bool :=
  let value := d.digits * b.unit d.exponent
  let low := b.scaled (4 * b.significand - if b.closerBelow then 1 else 2) d.exponent
  let high := b.scaled (4 * b.significand + 2) d.exponent
  if b.significand % 2 = 0 then low ≤ value && value ≤ high else low < value && value < high

/-- The decimals with the last digit in a given place that are next to the number. -/
def neighbour (b : Binary) (exponent : Int) : Decimal :=
  ⟨b.scaled (4 * b.significand) exponent / b.unit exponent, exponent⟩

/-- The best decimal with the last digit in a given place, if one reads back: the nearer of the
two neighbours, and the even one if both are equally near. -/
def best? (b : Binary) (exponent : Int) : Option Decimal :=
  let below := b.neighbour exponent
  let above : Decimal := ⟨below.digits + 1, exponent⟩
  let twice := 2 * b.scaled (4 * b.significand) exponent
  let middle := (2 * below.digits + 1) * b.unit exponent
  match b.reads below, b.reads above with
  | false, false => none
  | true, false => some below
  | false, true => some above
  | true, true =>
    if twice < middle || (twice = middle && below.digits % 2 = 0) then some below else some above

/-- The shortest decimal of the number.  Seventeen digits always suffice. -/
def shortest (b : Binary) : Decimal :=
  let exponents := (List.range 17).map fun (places : Nat) => b.magnitude - (places : Int)
  (exponents.findSome? b.best?).getD (b.neighbour (b.magnitude - 16))

end Binary

end Decimal

end SchemaGen
