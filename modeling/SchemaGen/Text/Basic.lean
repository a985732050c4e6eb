/-!
# Cutting and searching text

The rules of this library read text from left to right, so they work on the list of its
characters.  This module holds the cuts they share.

* `decidableForallMem`: a property of all characters of a text is decidable.
* `pieces sep s`: the maximal runs of `s` between separators, with `pieces_ne_nil`.
* `afterLast p s`, `uptoFirst p s`: what follows the last, and what precedes the first, character
  of a class.
* `stripSuffix? t s`: `s` without the ending `t`, with `stripSuffix?_eq_some`.
* `hasInfix t s`: whether `t` occurs in `s`, with `hasInfix_iff`.
* `unlines`: lines, each closed by a newline, with `toList_unlines_cons` and
  `toList_unlines_append`.
-/

namespace SchemaGen.Text

/-- What all characters of a text have in common is decided along the text, and not by going
through all characters there are. -/
instance (priority := high) decidableForallMem (p : Char → Prop) [DecidablePred p]
    (s : List Char) : Decidable (∀ c ∈ s, p c) :=
  List.decidableBAll p s

/-! ## Cuts at a class of characters -/

/-- The runs of `s` between characters of the class `sep`; `n` separators give `n + 1` runs. -/
def pieces (sep : Char → Bool) : List Char → List (List Char)
  | [] => [[]]
  | c :: s =>
    if sep c then [] :: pieces sep s
    else
      match pieces sep s with
      | [] => [[c]]
      | p :: ps => (c :: p) :: ps

/-- There is always a run, if only an empty one. -/
theorem pieces_ne_nil (sep : Char → Bool) (s : List Char) : pieces sep s ≠ [] := by
  cases s with
  | nil => simp [pieces]
  | cons c s =>
    unfold pieces
    split
    · simp
    · split <;> simp

/-- What follows the last character of the class `p`, or the whole text if there is none. -/
def afterLast (p : Char → Bool) (s : List Char) : List Char :=
  (s.reverse.takeWhile fun c => !p c).reverse

/-- What precedes the first character of the class `p`, or the whole text if there is none. -/
def uptoFirst (p : Char → Bool) (s : List Char) : List Char :=
  s.takeWhile fun c => !p c

/-- The text before and after the last character of the class `p`, and that character. -/
def splitLast? (p : Char → Bool) (s : List Char) : Option (List Char × Char × List Char) :=
  match s.reverse.dropWhile fun c => !p c with
  | [] => none
  | c :: front => some (front.reverse, c, afterLast p s)

/-- Removes the characters of the class `p` from both ends. -/
def strip (p : Char → Bool) (s : List Char) : List Char :=
  ((s.dropWhile p).reverse.dropWhile p).reverse

/-! ## Fixed texts inside a text -/

/-- `s` without the ending `t`. -/
def stripSuffix? (t s : List Char) : Option (List Char) :=
  if t.isSuffixOf s then some (s.take (s.length - t.length)) else none

/-- `s` without the beginning `t`. -/
def stripPrefix? : List Char → List Char → Option (List Char)
  | [], s => some s
  | _ :: _, [] => none
  | c :: t, d :: s => if c = d then stripPrefix? t s else none

theorem stripPrefix?_eq_some {t s r : List Char} : stripPrefix? t s = some r ↔ s = t ++ r := by
  induction t generalizing s with
  | nil => simp [stripPrefix?, eq_comm]
  | cons c t ih =>
    cases s with
    | nil => simp [stripPrefix?]
    | cons d s =>
      by_cases h : c = d
      · simp [stripPrefix?, h, ih]
      · simp [stripPrefix?, h, Ne.symm h]

theorem stripSuffix?_eq_some {t s r : List Char} : stripSuffix? t s = some r ↔ s = r ++ t := by
  unfold stripSuffix?
  split
  · next h =>
    obtain ⟨a, rfl⟩ := List.isSuffixOf_iff_suffix.1 h
    simp
  · next h =>
    simp only [reduceCtorEq, false_iff]
    rintro rfl
    exact h (List.isSuffixOf_iff_suffix.2 ⟨r, rfl⟩)

/-- Whether `t` occurs in `s`. -/
def hasInfix (t : List Char) : List Char → Bool
  | [] => t.isEmpty
  | c :: s => t.isPrefixOf (c :: s) || hasInfix t s

theorem hasInfix_iff {t s : List Char} : hasInfix t s = true ↔ ∃ a b, s = a ++ t ++ b := by
  induction s with
  | nil =>
    cases t with
    | nil => simp [hasInfix]
    | cons c t => simp [hasInfix]
  | cons c s ih =>
    simp only [hasInfix, Bool.or_eq_true, ih, List.isPrefixOf_iff_prefix]
    constructor
    · rintro (⟨b, hb⟩ | ⟨a, b, rfl⟩)
      · exact ⟨[], b, by simpa using hb.symm⟩
      · exact ⟨c :: a, b, by simp⟩
    · rintro ⟨a, b, h⟩
      cases a with
      | nil => exact .inl ⟨b, by simpa using h.symm⟩
      | cons d a =>
        simp only [List.cons_append, List.cons.injEq] at h
        exact .inr ⟨a, b, h.2⟩

/-! ## Lines -/

/-- The text of `lines`, each closed by a newline. -/
def unlines (lines : List String) : String :=
  String.join (lines.map (· ++ "\n"))

theorem toList_unlines_cons (line : String) (lines : List String) :
    (unlines (line :: lines)).toList = line.toList ++ '\n' :: (unlines lines).toList := by
  simp [unlines]

theorem toList_unlines_append (lines more : List String) :
    (unlines (lines ++ more)).toList = (unlines lines).toList ++ (unlines more).toList := by
  simp [unlines]

end SchemaGen.Text
