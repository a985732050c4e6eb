import SchemaGen.Text.CharClass

/-!
# Dates and times

A moment is a date, a time of day, or both, and if both it may tell the offset from universal
time.  Months have the lengths of the Gregorian calendar.  The seconds may be left out, and a
minute may have a leap second.  A configuration or a manifest has no use for moments, so it is
only decided which texts are one.

* `Moment.date?`, `Moment.time?`, `Moment.offset?`: what follows the part at the beginning of a
  text.
* `isMoment`: whether a text is a moment.
-/

namespace SchemaGen.Toml

open Text

namespace Moment

/-- The number of two digits at the beginning of a text, and what follows it. -/
def twoDigits? : List Char → Option (Nat × List Char)
  | a :: b :: s =>
    if isAsciiDigit a && isAsciiDigit b then
      some ((a.toNat - 48) * 10 + (b.toNat - 48), s)
    else none
  | _ => none

/-- What follows a fixed character at the beginning of a text. -/
def after? (c : Char) : List Char → Option (List Char)
  | d :: s => if d = c then some s else none
  | [] => none

/-- Whether a year has a leap day. -/
def isLeap (year : Nat) : Bool :=
  year % 4 = 0 && (year % 100 ≠ 0 || year % 400 = 0)

/-- The number of days of a month. -/
def daysIn (year month : Nat) : Nat :=
  if month = 2 then if isLeap year then 29 else 28
  else if month = 4 || month = 6 || month = 9 || month = 11 then 30
  else 31

/-- What follows a date. -/
def date? (s : List Char) : Option (List Char) := do
  let (century, s) ← twoDigits? s
  let (rest, s) ← twoDigits? s
  let (month, s) ← twoDigits? (← after? '-' s)
  let (day, s) ← twoDigits? (← after? '-' s)
  if 1 ≤ month && month ≤ 12 && 1 ≤ day && day ≤ daysIn (century * 100 + rest) month then some s
  else none

/-- What follows the seconds of a time, with their fraction, if they are told. -/
def seconds? : List Char → Option (List Char)
  | ':' :: s => do
    let (second, s) ← twoDigits? s
    if 60 < second then none
    else
      match s with
      | '.' :: s =>
        if (s.takeWhile isAsciiDigit).isEmpty then none else some (s.dropWhile isAsciiDigit)
      | s => some s
  | s => some s

/-- What follows a time of day. -/
def time? (s : List Char) : Option (List Char) := do
  let (hour, s) ← twoDigits? s
  let (minute, s) ← twoDigits? (← after? ':' s)
  if hour ≤ 23 && minute ≤ 59 then seconds? s else none

/-- What follows the offset from universal time, if it is told. -/
def offset? : List Char → Option (List Char)
  | [] => some []
  | c :: s =>
    if c = 'Z' || c = 'z' then some s
    else if c = '+' || c = '-' then do
      let (hours, s) ← twoDigits? s
      let (minutes, s) ← twoDigits? (← after? ':' s)
      if hours ≤ 23 && minutes ≤ 59 then some s else none
    else none

/-- Whether a text is a date, and a time with it or not. -/
def isDated (s : List Char) : Bool :=
  match date? s with
  | none => false
  | some [] => true
  | some (c :: s) =>
    (c = 'T' || c = 't' || c = ' ') && (time? s).bind offset? = some []

end Moment

/-- Whether a text is a moment. -/
def isMoment (s : List Char) : Bool :=
  Moment.isDated s || Moment.time? s = some []

end SchemaGen.Toml
