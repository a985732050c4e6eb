import SchemaGen.Text.Basic
import SchemaGen.Toml.Literal
import SchemaGen.Toml.Moment

/-!
# Tokens of a document

Blanks and comments are dropped, line ends are kept.  A run of other characters is one token: it
may be a part of a key, with its dots, or a value.  A date and the time after it are one run,
although a single space may stand between them.

* `unifyLines`: replaces both forms of a line end by a newline.
* `tokens?`: the tokens of a text, unless a literal or a comment is broken.
-/

namespace SchemaGen.Toml

open Text

/-- A token of a document. -/
inductive Token where
  | newline
  | equals
  | comma
  /-- An opening bracket, and whether another follows it at once. -/
  | openBracket (doubled : Bool)
  /-- A closing bracket, and whether another follows it at once. -/
  | closeBracket (doubled : Bool)
  | openBrace
  | closeBrace
  /-- A run of characters without quotes. -/
  | bare (s : List Char)
  /-- A text between quotes on one line. -/
  | line (s : String)
  /-- A text between quotes on several lines. -/
  | lines (s : String)
  deriving DecidableEq, Repr

/-- Replaces both forms of a line end by a newline. -/
def unifyLines : List Char → List Char
  | '\r' :: '\n' :: s => '\n' :: unifyLines s
  | c :: s => c :: unifyLines s
  | [] => []

/-- A character that ends a run. -/
def endsRun (c : Char) : Bool :=
  c = '=' || c = ',' || c = '[' || c = ']' || c = '\x7b' || c = '\x7d' || c = ' ' || c = '\t' ||
    c = '#' || c = '\n' || c = '"' || c = '\''

/-- The run of characters at the beginning of a text, and what follows it. -/
def run (s : List Char) : List Char × List Char :=
  (s.takeWhile fun c => !endsRun c, s.dropWhile fun c => !endsRun c)

/-- The run that a character begins, with the time of day that belongs to it if it is a date. -/
def datedRun (c : Char) (s : List Char) : List Char × List Char :=
  match run s with
  | (tail, ' ' :: d :: rest) =>
    if Moment.date? (c :: tail) = some [] && isAsciiDigit d then
      (c :: tail ++ ' ' :: (run (d :: rest)).1, (run (d :: rest)).2)
    else (c :: tail, ' ' :: d :: rest)
  | (tail, rest) => (c :: tail, rest)

theorem length_run (s : List Char) : (run s).2.length ≤ s.length :=
  (List.dropWhile_suffix _).length_le

theorem length_datedRun (c : Char) (s : List Char) : (datedRun c s).2.length ≤ s.length := by
  unfold datedRun
  have h := length_run s
  split
  · next d rest hr =>
    rw [hr] at h
    have := length_run (d :: rest)
    simp only [List.length_cons] at h this
    split
    · simp only
      omega
    · simpa using h
  · next hr =>
    rw [hr] at h
    exact h

/-- A text token without the newline right after its opening quotes. -/
def afterFirstLine : List Char → List Char
  | '\n' :: s => s
  | s => s

/-- A literal as a token. -/
def literal? (token : String → Token) (r : Option (List Char × List Char)) :
    Option (Token × List Char) :=
  r.map fun (s, rest) => (token (String.ofList s), rest)

/-- The token that a character begins, and what follows it.  The character is no blank and begins
no comment. -/
def first? (c : Char) (s : List Char) : Option (Token × List Char) :=
  match c with
  | '\n' => some (.newline, s)
  | '=' => some (.equals, s)
  | ',' => some (.comma, s)
  | '[' => some (.openBracket (s.head? = some '['), s)
  | ']' => some (.closeBracket (s.head? = some ']'), s)
  | '\x7b' => some (.openBrace, s)
  | '\x7d' => some (.closeBrace, s)
  | '\'' =>
    match s with
    | '\'' :: '\'' :: s => literal? .lines (plainLines (afterFirstLine s))
    | s => literal? .line (plainLine s)
  | '"' =>
    match s with
    | '"' :: '"' :: s => literal? .lines (escapedLines (afterFirstLine s))
    | s => literal? .line (escapedLine s)
  | c => some (.bare (datedRun c s).1, (datedRun c s).2)

theorem length_literal? {token : String → Token} {r : Option (List Char × List Char)} {n : Nat}
    (hr : ∀ text rest, r = some (text, rest) → rest.length ≤ n) {t : Token} {rest : List Char}
    (h : literal? token r = some (t, rest)) : rest.length ≤ n := by
  simp only [literal?, Option.map_eq_some_iff, Prod.mk.injEq, Prod.exists] at h
  obtain ⟨text, rest', h, _, rfl⟩ := h
  exact hr text rest' h

theorem length_afterFirstLine (s : List Char) : (afterFirstLine s).length ≤ s.length := by
  unfold afterFirstLine
  split <;> simp

/-- What follows a token is no longer than what follows its first character. -/
theorem length_first? {c : Char} {s rest : List Char} {t : Token}
    (h : first? c s = some (t, rest)) : rest.length ≤ s.length := by
  unfold first? at h
  split at h
  case h_8 =>
    split at h
    · next s =>
      refine length_literal? (fun text rest h => ?_) h
      have h1 := length_plainLines h
      have h2 := length_afterFirstLine s
      simp only [List.length_cons]
      omega
    · exact length_literal? (fun text rest h => length_plainLine h) h
  case h_9 =>
    split at h
    · next s =>
      refine length_literal? (fun text rest h => ?_) h
      have h1 := length_escapedLines h
      have h2 := length_afterFirstLine s
      simp only [List.length_cons]
      omega
    · exact length_literal? (fun text rest h => length_escapedLine h) h
  case h_10 =>
    simp only [Option.some.injEq, Prod.mk.injEq] at h
    rw [← h.2]
    exact length_datedRun _ _
  all_goals
    simp only [Option.some.injEq, Prod.mk.injEq] at h
    simp [← h.2]

/-- The tokens of a text, unless a literal or a comment is broken.  A comment goes as far as its
line. -/
def tokens? : List Char → Option (List Token)
  | [] => some []
  | c :: s =>
    if c = ' ' || c = '\t' then tokens? s
    else if c = '#' then
      if (s.takeWhile (· ≠ '\n')).all isPlain then tokens? (s.dropWhile (· ≠ '\n')) else none
    else
      match _h : first? c s with
      | none => none
      | some (t, rest) => (tokens? rest).map (t :: ·)
termination_by s => s.length
decreasing_by
  · simp
  · have := (List.dropWhile_suffix (· ≠ '\n') (l := s)).length_le
    simp only [List.length_cons]
    omega
  · have := length_first? _h
    simp only [List.length_cons]
    omega

end SchemaGen.Toml
