import SchemaGen.Json.Literal
import SchemaGen.Json.Numeral
import SchemaGen.Text.Basic

/-!
# Tokens

A JSON text as the sequence of its tokens.  A token that is broken is the last of its text: a
reader can only fail there, and what stands behind it has no bearing on how.

* `Token.first`: the token that a character begins, and what follows it.
* `tokens`: the tokens of a text.
-/

namespace SchemaGen.Json

open Text

/-- A token of a JSON text. -/
inductive Token where
  | openObject
  | closeObject
  | openList
  | closeList
  | colon
  | comma
  | null
  | bool (b : Bool)
  /-- The beginning of a word that is not that word. -/
  | brokenWord (e : Error)
  | number (n : Numeral)
  | brokenNumber (f : NumeralFault)
  | text (l : Literal)
  /-- A character that begins no token. -/
  | other
  deriving DecidableEq, Repr

/-- The characters between tokens. -/
def isSpace (c : Char) : Bool :=
  c = ' ' || c = '\n' || c = '\t' || c = '\r'

namespace Token

/-- The word whose first letter has been read: the token `t` if `ending` follows. -/
def word (t : Token) (ending s : List Char) : Token × List Char :=
  match stripPrefix? ending s with
  | some rest => (t, rest)
  | none => (.brokenWord (if s.isPrefixOf ending then .endInValue else .expectedWord), [])

/-- The number at the beginning of a text. -/
def numeral (s : List Char) : Token × List Char :=
  match Numeral.read s with
  | .ok (n, rest) => (.number n, rest)
  | .error f => (.brokenNumber f, [])

/-- The token that a character begins, and what follows it. -/
def first (c : Char) (s : List Char) : Token × List Char :=
  match c with
  | '\x7b' => (.openObject, s)
  | '\x7d' => (.closeObject, s)
  | '[' => (.openList, s)
  | ']' => (.closeList, s)
  | ':' => (.colon, s)
  | ',' => (.comma, s)
  | 'n' => word .null ['u', 'l', 'l'] s
  | 't' => word (.bool true) ['r', 'u', 'e'] s
  | 'f' => word (.bool false) ['a', 'l', 's', 'e'] s
  | '"' => ((.text (Literal.read s).1), (Literal.read s).2)
  | c => if c = '-' || isAsciiDigit c then numeral (c :: s) else (.other, s)

theorem length_word (t : Token) (ending s : List Char) : (word t ending s).2.length ≤ s.length := by
  unfold word
  split
  · next rest h =>
    rw [stripPrefix?_eq_some] at h
    simp [h]
  · simp

theorem length_readExponent {s rest : List Char} {e : Option (Bool × List Char)}
    (h : Numeral.readExponent s = .ok (e, rest)) : rest.length ≤ s.length := by
  unfold Numeral.readExponent at h
  split at h
  · simp only [Except.ok.injEq, Prod.mk.injEq] at h
    simp [← h.2]
  · next c s =>
    split at h
    · cases hd : readDigits (Numeral.readExponentSign s).2 with
      | error f => simp [hd, Except.map] at h
      | ok r =>
        obtain ⟨ds, rest'⟩ := r
        simp only [hd, Except.map, Except.ok.injEq, Prod.mk.injEq] at h
        have := length_readDigits hd
        have hs : (Numeral.readExponentSign s).2.length ≤ s.length := by
          unfold Numeral.readExponentSign
          split <;> simp
        rw [← h.2]
        simp only [List.length_cons]
        omega
    · simp only [Except.ok.injEq, Prod.mk.injEq] at h
      simp [← h.2]

theorem length_readFraction {s rest : List Char} {f : Option (List Char)}
    (h : Numeral.readFraction s = .ok (f, rest)) : rest.length ≤ s.length := by
  unfold Numeral.readFraction at h
  split at h
  · next s =>
    cases hd : readDigits s with
    | error f => simp [hd, Except.map] at h
    | ok r =>
      obtain ⟨ds, rest'⟩ := r
      simp only [hd, Except.map, Except.ok.injEq, Prod.mk.injEq] at h
      have := length_readDigits hd
      rw [← h.2]
      simp only [List.length_cons]
      omega
  · simp only [Except.ok.injEq, Prod.mk.injEq] at h
    simp [← h.2]

theorem length_readWhole {s ds rest : List Char} (h : Numeral.readWhole s = .ok (ds, rest)) :
    rest.length < s.length := by
  unfold Numeral.readWhole at h
  split at h
  · simp at h
  · exact length_readDigits h

/-- A number takes at least one character. -/
theorem length_read {s rest : List Char} {n : Numeral} (h : Numeral.read s = .ok (n, rest)) :
    rest.length < s.length := by
  unfold Numeral.read at h
  simp only [bind, Except.bind, pure, Except.pure] at h
  split at h
  · simp at h
  · next w hw =>
    split at h
    · simp at h
    · next f hf =>
      split at h
      · simp at h
      · next e he =>
        simp only [Except.ok.injEq, Prod.mk.injEq] at h
        have h1 := length_readWhole hw
        have h2 := length_readFraction hf
        have h3 := length_readExponent he
        have h4 : (Numeral.readSign s).2.length ≤ s.length := by
          unfold Numeral.readSign
          split <;> simp
        rw [← h.2]
        omega

/-- What follows a token is no longer than what follows its first character. -/
theorem length_first (c : Char) (s : List Char) : (first c s).2.length ≤ s.length := by
  unfold first
  split
  · simp
  · simp
  · simp
  · simp
  · simp
  · simp
  · exact length_word _ _ _
  · exact length_word _ _ _
  · exact length_word _ _ _
  · exact Literal.length_read s
  · split
    · unfold numeral
      split
      · next h => exact Nat.le_of_lt_succ (length_read h)
      · simp
    · simp

end Token

/-- The tokens of a text. -/
def tokens : List Char → List Token
  | [] => []
  | c :: s =>
    if isSpace c then tokens s else (Token.first c s).1 :: tokens (Token.first c s).2
termination_by s => s.length
decreasing_by
  · simp
  · exact Nat.lt_succ_of_le (Token.length_first c s)

end SchemaGen.Json
