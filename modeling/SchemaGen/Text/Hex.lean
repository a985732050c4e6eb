/-!
# Hexadecimal numbers

Code points are written in lowercase hexadecimal digits and read back in either case.

* `hexDigits k n`: the last `k` digits of `n`, with `length_hexDigits`.
* `hexValue?`: the value of one digit; `readHex?`: the value of several.
* `shortestHex`: as many digits as the number has.
-/

namespace SchemaGen.Text

/-- The digit of a value below sixteen. -/
def hexDigit (d : Nat) : Char :=
  if d < 10 then Char.ofNat (48 + d) else Char.ofNat (87 + d)

/-- The last `k` digits of `n`, the most significant first. -/
def hexDigits : Nat → Nat → List Char
  | 0, _ => []
  | k + 1, n => hexDigits k (n / 16) ++ [hexDigit (n % 16)]

theorem length_hexDigits (k n : Nat) : (hexDigits k n).length = k := by
  induction k generalizing n with
  | zero => rfl
  | succ k ih => simp [hexDigits, ih]

/-- The digits of `n` without leading zeros; the code points have at most six. -/
def shortestHex (n : Nat) : List Char :=
  match (hexDigits 6 n).dropWhile (· = '0') with
  | [] => ['0']
  | ds => ds

/-- The value of a hexadecimal digit. -/
def hexValue? (c : Char) : Option Nat :=
  if '0' ≤ c ∧ c ≤ '9' then some (c.toNat - 48)
  else if 'a' ≤ c ∧ c ≤ 'f' then some (c.toNat - 87)
  else if 'A' ≤ c ∧ c ≤ 'F' then some (c.toNat - 55)
  else none

/-- The number that the digits continue, if they are all digits. -/
def readHexFrom (acc : Nat) : List Char → Option Nat
  | [] => some acc
  | c :: s => (hexValue? c).bind fun d => readHexFrom (acc * 16 + d) s

/-- The number that the digits write. -/
def readHex? (s : List Char) : Option Nat :=
  readHexFrom 0 s

theorem hexValue?_hexDigit : ∀ d, d < 16 → hexValue? (hexDigit d) = some d := by decide

theorem readHexFrom_append (acc : Nat) (s t : List Char) :
    readHexFrom acc (s ++ t) = (readHexFrom acc s).bind fun n => readHexFrom n t := by
  induction s generalizing acc with
  | nil => rfl
  | cons c s ih =>
    simp only [List.cons_append, readHexFrom]
    cases hexValue? c with
    | none => rfl
    | some d => simpa using ih _

/-- What `hexDigits` writes is read back, up to the digits that it leaves out. -/
theorem readHex?_hexDigits (k n : Nat) : readHex? (hexDigits k n) = some (n % Nat.pow 16 k) := by
  unfold readHex?
  induction k generalizing n with
  | zero => simp [hexDigits, readHexFrom, Nat.mod_one]
  | succ k ih =>
    rw [hexDigits, readHexFrom_append, ih]
    simp only [Option.bind_some, readHexFrom,
      hexValue?_hexDigit _ (Nat.mod_lt _ (by decide : 0 < 16))]
    congr 1
    show n / 16 % Nat.pow 16 k * 16 + n % 16 = n % (Nat.pow 16 k * 16)
    rw [Nat.mul_comm (Nat.pow 16 k) 16, Nat.mod_mul]
    omega

end SchemaGen.Text
