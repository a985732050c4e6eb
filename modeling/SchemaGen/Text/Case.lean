import SchemaGen.Text.CharClass
import SchemaGen.Text.CaseTable

/-!
# Letter case

The full case mappings of Unicode, without a locale.  A character maps to one or more
characters, independently of its neighbours, with one exception: a capital sigma that ends a word
becomes the final small sigma.

* `lowerChar`, `upperChar`: the mappings of one character.
* `lower`, `upper`: the mappings of a text.
-/

namespace SchemaGen.Text

/-! ## One character -/

/-- The shift of the run that holds `n`, if any. -/
def shiftOf (runs : List (Nat × Nat × Nat × Int)) (n : Nat) : Int :=
  match runs.find? fun (first, last, step, _) =>
      first ≤ n && n ≤ last && (n - first) % step = 0 with
  | some (_, _, _, shift) => shift
  | none => 0

/-- The mapping that the two tables give for `n`. -/
def mapping (expansions : List (Nat × List Nat)) (runs : List (Nat × Nat × Nat × Int)) (n : Nat) :
    List Char :=
  match expansions.lookup n with
  | some ns => ns.map Char.ofNat
  | none => [Char.ofNat (n + shiftOf runs n).toNat]

/-- The lowercase form of one character on its own. -/
def lowerChar (c : Char) : List Char :=
  if isAscii c then [if 'A' ≤ c ∧ c ≤ 'Z' then Char.ofNat (c.toNat + 32) else c]
  else mapping CaseTable.lowerExpansions CaseTable.lowerRuns c.toNat

/-- The uppercase form of one character. -/
def upperChar (c : Char) : List Char :=
  if isAscii c then [if 'a' ≤ c ∧ c ≤ 'z' then Char.ofNat (c.toNat - 32) else c]
  else mapping CaseTable.upperExpansions CaseTable.upperRuns c.toNat

/-! ## Texts -/

/-- Whether the first character that casing does not look past takes part in casing. -/
def beginsCased (s : List Char) : Bool :=
  match s.dropWhile isCaseIgnorable with
  | [] => false
  | c :: _ => isCased c

/-- The lowercase form of a text that follows other text; `inWord` tells whether the last
character before it that casing does not look past takes part in casing. -/
def lowerFrom (inWord : Bool) : List Char → List Char
  | [] => []
  | c :: s =>
    (if c = 'Σ' then [if inWord && !beginsCased s then 'ς' else 'σ'] else lowerChar c) ++
      lowerFrom (if isCaseIgnorable c then inWord else isCased c) s

/-- The lowercase form of a text. -/
def lower (s : List Char) : List Char :=
  lowerFrom false s

/-- The uppercase form of a text. -/
def upper (s : List Char) : List Char :=
  s.flatMap upperChar

end SchemaGen.Text
