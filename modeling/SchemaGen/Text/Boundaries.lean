/-!
# Sets of code points by their boundaries

A set of numbers is written as the ascending list of the points where membership changes.  A
number belongs to it iff an odd number of boundaries are at or below it.

* `inside`: membership, reading no further than the first boundary above the number.
-/

namespace SchemaGen.Text

mutual

/-- Membership in the set that starts at the next boundary. -/
def inside (n : Nat) : List Nat → Bool
  | [] => false
  | first :: rest => if n < first then false else beforeEnd n rest

/-- Membership in the set that ends at the next boundary. -/
def beforeEnd (n : Nat) : List Nat → Bool
  | [] => true
  | stop :: rest => if n < stop then true else inside n rest

end

end SchemaGen.Text
