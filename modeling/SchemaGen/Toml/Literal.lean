import SchemaGen.Text.Hex

/-!
# Texts between quotes

Four kinds of literals hold a text: between single or double quotes, on one line or on several.
Between double quotes a backslash escapes.  Control characters other than the tab are not allowed,
nor is a carriage return that does not end a line; here a line ends in a newline, the longer form
having been replaced before.

* `plainLine`, `escapedLine`: the literals of one line.
* `plainLines`, `escapedLines`: those of several lines.

Each gives the text and what follows the literal, if it is well formed.
-/

namespace SchemaGen.Toml

open Text

/-- A character that may stand in a text or a comment as itself. -/
def isPlain (c : Char) : Bool :=
  c = '\t' || (' ' ≤ c && c ≠ '\x7f')

/-- The character of a code point, if it is one. -/
def codePoint? (digits : List Char) : Option Char := do
  let n ← readHex? digits
  if n.isValidChar then some (Char.ofNat n) else none

/-- The character that a short escape stands for. -/
def shortEscape? (c : Char) : Option Char :=
  if c = 'b' then some '\x08'
  else if c = 't' then some '\t'
  else if c = 'n' then some '\n'
  else if c = 'f' then some '\x0c'
  else if c = 'r' then some '\r'
  else if c = 'e' then some '\x1b'
  else if c = '"' || c = '\\' then some c
  else none

/-- A text read so far is continued by another character. -/
def consText (c : Char) (r : Option (List Char × List Char)) : Option (List Char × List Char) :=
  r.map fun (text, rest) => (c :: text, rest)

/-- The character of an escape, and what follows it; the backslash has been read. -/
def escape? : List Char → Option (Char × List Char)
  | 'x' :: a :: b :: s => (codePoint? [a, b]).map (·, s)
  | 'u' :: a :: b :: c :: d :: s => (codePoint? [a, b, c, d]).map (·, s)
  | 'U' :: a :: b :: c :: d :: e :: f :: g :: h :: s =>
    (codePoint? [a, b, c, d, e, f, g, h]).map (·, s)
  | c :: s => (shortEscape? c).map (·, s)
  | [] => none

/-- An escape takes at least one character. -/
theorem length_escape? {s rest : List Char} {c : Char} (h : escape? s = some (c, rest)) :
    rest.length < s.length := by
  unfold escape? at h
  split at h
  case h_5 => simp at h
  all_goals
    simp only [Option.map_eq_some_iff, Prod.mk.injEq] at h
    obtain ⟨_, _, _, rfl⟩ := h
    simp only [List.length_cons]
    omega

/-- The text between single quotes on one line. -/
def plainLine : List Char → Option (List Char × List Char)
  | [] => none
  | c :: s =>
    if c = '\'' then some ([], s)
    else if isPlain c then consText c (plainLine s)
    else none

/-- The text between double quotes on one line. -/
def escapedLine : List Char → Option (List Char × List Char)
  | [] => none
  | c :: s =>
    if c = '"' then some ([], s)
    else if c = '\\' then
      match _h : escape? s with
      | some (x, rest) => consText x (escapedLine rest)
      | none => none
    else if isPlain c then consText c (escapedLine s)
    else none
termination_by s => s.length
decreasing_by
  · have := length_escape? _h
    simp only [List.length_cons]
    omega
  · simp

/-- The text between triple single quotes.  Up to two quotes may stand right before the end. -/
def plainLines : List Char → Option (List Char × List Char)
  | '\'' :: '\'' :: '\'' :: '\'' :: '\'' :: s => some (['\'', '\''], s)
  | '\'' :: '\'' :: '\'' :: '\'' :: s => some (['\''], s)
  | '\'' :: '\'' :: '\'' :: s => some ([], s)
  | c :: s => if isPlain c || c = '\n' then consText c (plainLines s) else none
  | [] => none

/-- What follows the blanks after a backslash at the end of a line, on this line and the next
ones. -/
def nextLine? (s : List Char) : Option (List Char) :=
  match s.dropWhile fun c => c = ' ' || c = '\t' with
  | '\n' :: s => some (s.dropWhile fun c => c = ' ' || c = '\t' || c = '\n')
  | _ => none

theorem length_nextLine? {s rest : List Char} (h : nextLine? s = some rest) :
    rest.length < s.length := by
  unfold nextLine? at h
  split at h
  · next s' h' =>
    have h1 := (List.dropWhile_suffix (fun c => c = ' ' || c = '\t') (l := s)).length_le
    have h2 :=
      (List.dropWhile_suffix (fun c => c = ' ' || c = '\t' || c = '\n') (l := s')).length_le
    rw [h'] at h1
    simp only [Option.some.injEq] at h
    rw [h] at h2
    simp only [List.length_cons] at h1
    omega
  · simp at h

/-- The text between triple double quotes.  Up to two quotes may stand right before the end. -/
def escapedLines : List Char → Option (List Char × List Char)
  | '"' :: '"' :: '"' :: '"' :: '"' :: s => some (['"', '"'], s)
  | '"' :: '"' :: '"' :: '"' :: s => some (['"'], s)
  | '"' :: '"' :: '"' :: s => some ([], s)
  | c :: s =>
    if c = '\\' then
      match _h : nextLine? s with
      | some rest => escapedLines rest
      | none =>
        match _h : escape? s with
        | some (x, rest) => consText x (escapedLines rest)
        | none => none
    else if isPlain c || c = '\n' then consText c (escapedLines s)
    else none
  | [] => none
termination_by s => s.length
decreasing_by
  · have := length_nextLine? _h
    simp only [List.length_cons]
    omega
  · have := length_escape? _h
    simp only [List.length_cons]
    omega
  · simp

/-! ## Lengths

What follows a literal is no longer than what follows its opening quotes.
-/

theorem length_consText {c : Char} {r : Option (List Char × List Char)} {n : Nat}
    (hr : ∀ text rest, r = some (text, rest) → rest.length ≤ n) {text rest : List Char}
    (h : consText c r = some (text, rest)) : rest.length ≤ n := by
  simp only [consText, Option.map_eq_some_iff, Prod.mk.injEq, Prod.exists] at h
  obtain ⟨text', rest', h, _, rfl⟩ := h
  exact hr text' rest' h

theorem length_plainLine {s text rest : List Char} (h : plainLine s = some (text, rest)) :
    rest.length ≤ s.length := by
  induction s generalizing text rest with
  | nil => simp [plainLine] at h
  | cons c s ih =>
    unfold plainLine at h
    split at h
    · simp only [Option.some.injEq, Prod.mk.injEq] at h
      simp [← h.2]
    · split at h
      · exact Nat.le_succ_of_le (length_consText (fun _ _ h => ih h) h)
      · simp at h

theorem length_escapedLine {s text rest : List Char} (h : escapedLine s = some (text, rest)) :
    rest.length ≤ s.length := by
  fun_induction escapedLine s generalizing text rest with
  | case1 => simp at h
  | case2 s =>
    simp only [Option.some.injEq, Prod.mk.injEq] at h
    simp [← h.2]
  | case3 s x rest' he _ ih =>
    have h1 := length_escape? he
    have h2 := length_consText (fun _ _ h => ih h) h
    simp only [List.length_cons]
    omega
  | case4 => simp at h
  | case5 c s _ _ _ ih => exact Nat.le_succ_of_le (length_consText (fun _ _ h => ih h) h)
  | case6 => simp at h

theorem length_plainLines {s text rest : List Char} (h : plainLines s = some (text, rest)) :
    rest.length ≤ s.length := by
  fun_induction plainLines s generalizing text rest with
  | case1 | case2 | case3 =>
    simp only [Option.some.injEq, Prod.mk.injEq] at h
    simp only [← h.2, List.length_cons]
    omega
  | case4 c s _ _ _ _ ih => exact Nat.le_succ_of_le (length_consText (fun _ _ h => ih h) h)
  | case5 => simp at h
  | case6 => simp at h

theorem length_escapedLines {s text rest : List Char} (h : escapedLines s = some (text, rest)) :
    rest.length ≤ s.length := by
  fun_induction escapedLines s generalizing text rest with
  | case1 | case2 | case3 =>
    simp only [Option.some.injEq, Prod.mk.injEq] at h
    simp only [← h.2, List.length_cons]
    omega
  | case4 s rest' he _ _ _ ih =>
    have h1 := length_nextLine? he
    have h2 := ih h
    simp only [List.length_cons]
    omega
  | case5 s _ x rest' he _ _ _ ih =>
    have h1 := length_escape? he
    have h2 := length_consText (fun _ _ h => ih h) h
    simp only [List.length_cons]
    omega
  | case6 => simp at h
  | case7 c s _ _ _ _ _ ih => exact Nat.le_succ_of_le (length_consText (fun _ _ h => ih h) h)
  | case8 => simp at h
  | case9 => simp at h

end SchemaGen.Toml
