/-!
# Similar words

How much two words have in common, as a number between zero and one.  Equal characters match if
their positions differ by less than half the longer length; every character matches at most once.
The measure is the mean of three shares: that of the characters of either word that match, and
that of the matches that are not out of order.

* `Similarity.of`: the measure, as an exact fraction.
* `Similarity.best?`: the most similar of several words, if it is similar enough.
-/

namespace SchemaGen

/-- A measure as a fraction. -/
structure Similarity where
  numerator : Nat
  denominator : Nat
  deriving DecidableEq, Repr

namespace Similarity

/-- Matches the character at position `i` with the first character in reach that is free, and
gives the word with that character taken. -/
def take (c : Char) (i reach : Nat) (word : List (Char × Bool)) : Option (List (Char × Bool)) :=
  let candidate (j : Nat) : Bool := i ≤ j + reach && j ≤ i + reach && word[j]? = some (c, false)
  ((List.range word.length).find? candidate).map fun j => word.set j (c, true)

/-- The characters of a word that match another one, in order, and the other word with its
matches taken. -/
def matchFrom (reach : Nat) : Nat → List Char → List (Char × Bool) → List Char × List (Char × Bool)
  | _, [], word => ([], word)
  | i, c :: s, word =>
    match take c i reach word with
    | some word =>
      let (matched, word) := matchFrom reach (i + 1) s word
      (c :: matched, word)
    | none => matchFrom reach (i + 1) s word

/-- The measure of two words. -/
def of (a b : List Char) : Similarity :=
  if a.isEmpty && b.isEmpty then ⟨1, 1⟩
  else
    let reach := max a.length b.length / 2 - 1
    let (left, word) := matchFrom reach 0 a (b.map fun c => (c, false))
    let right := (word.filter Prod.snd).map Prod.fst
    let n := left.length
    let swapped := ((left.zip right).filter fun (c, d) => c ≠ d).length / 2
    if n = 0 then ⟨0, 1⟩
    else
      ⟨n * b.length * n + n * a.length * n + (n - swapped) * a.length * b.length,
        3 * a.length * b.length * n⟩

/-- Whether one measure is greater than another. -/
def exceeds (x y : Similarity) : Bool :=
  y.numerator * x.denominator < x.numerator * y.denominator

/-- How similar a word has to be to be suggested. -/
def threshold : Similarity := ⟨7, 10⟩

/-- The word that is most similar to the given one, if it is similar enough; the first of several
that are equally similar. -/
def best? {α : Type} (name : α → List Char) (word : List Char) (choices : List α) : Option α :=
  let better (best : Option (α × Similarity)) (choice : α) :=
    let x := of word (name choice)
    if x.exceeds ((best.map Prod.snd).getD threshold) then some (choice, x) else best
  (choices.foldl better none).map Prod.fst

end Similarity

end SchemaGen
