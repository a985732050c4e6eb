import SchemaGen.Text.Boundaries
import SchemaGen.Text.ClusterTable

/-!
# Extended grapheme clusters

What a reader takes for one character may be several: a letter with its marks, a syllable of
Hangul, a flag, a family of pictographs, an Indic conjunct.  `clusters` cuts a text into such
clusters by the rules of Unicode text segmentation.

* `ClusterClass.ofChar`: the class of a character.
* `LeftContext.step`: what has to be remembered of the text on the left.
* `breaks`: whether two neighbours belong to different clusters.
* `clusters`: the clusters of a text.
-/

namespace SchemaGen.Text

/-- The classes that the segmentation rules tell apart. -/
inductive ClusterClass where
  | carriageReturn
  | lineFeed
  | control
  | extend
  | joiner
  | spacingMark
  | prepended
  | regionalIndicator
  | leadingJamo
  | vowelJamo
  | trailingJamo
  | openSyllable
  | closedSyllable
  | pictographic
  | other
  deriving DecidableEq, Repr

namespace ClusterClass

/-- The class of a character. -/
def ofChar (c : Char) : ClusterClass :=
  let n := c.toNat
  if n < 0x80 then
    if c = '\r' then .carriageReturn
    else if c = '\n' then .lineFeed
    else if n < 0x20 || n = 0x7f then .control
    else .other
  else if inside n ClusterTable.control then .control
  else if inside n ClusterTable.extend then .extend
  else if n = 0x200d then .joiner
  else if inside n ClusterTable.spacingMark then .spacingMark
  else if inside n ClusterTable.prepend then .prepended
  else if 0x1f1e6 ≤ n && n ≤ 0x1f1ff then .regionalIndicator
  else if inside n ClusterTable.leadingJamo then .leadingJamo
  else if inside n ClusterTable.vowelJamo then .vowelJamo
  else if inside n ClusterTable.trailingJamo then .trailingJamo
  else if 0xac00 ≤ n && n < 0xd7a4 then
    if (n - 0xac00) % 28 = 0 then .openSyllable else .closedSyllable
  else if inside n ClusterTable.pictographic then .pictographic
  else .other

end ClusterClass

/-! ## The text on the left -/

/-- What a break depends on besides the two classes: how a pictographic sequence, a conjunct and
a run of regional indicators stand after the text read so far. -/
structure LeftContext where
  /-- A pictograph and then only continuing marks have been read. -/
  pictograph : Bool
  /-- A pictograph, continuing marks and a joiner have been read. -/
  joined : Bool
  /-- A conjunct consonant and then only marks that keep the conjunct open have been read. -/
  consonant : Bool
  /-- Such marks have been read, and one of them was a linker. -/
  linked : Bool
  /-- The number of regional indicators at the end is odd. -/
  oddIndicators : Bool
  deriving DecidableEq, Repr

namespace LeftContext

/-- Nothing has been read. -/
def start : LeftContext :=
  ⟨false, false, false, false, false⟩

/-- The context after one more character. -/
def step (left : LeftContext) (c : Char) : LeftContext :=
  let cls := ClusterClass.ofChar c
  let linker := inside c.toNat ClusterTable.conjunctLinker
  let keepsConjunct := (cls = .extend && c.toNat ≠ 0x200c) || cls = .joiner
  { pictograph := cls = .pictographic || (left.pictograph && cls = .extend)
    joined := left.pictograph && cls = .joiner
    consonant :=
      inside c.toNat ClusterTable.conjunctConsonant || (left.consonant && keepsConjunct)
    linked := left.consonant && keepsConjunct && (left.linked || linker)
    oddIndicators := cls = .regionalIndicator && !left.oddIndicators }

end LeftContext

/-! ## Breaks -/

/-- Whether a cluster ends between `a` and `b`, where `left` is the context up to and with `a`. -/
def breaks (left : LeftContext) (a b : Char) : Bool :=
  match ClusterClass.ofChar a, ClusterClass.ofChar b with
  | .carriageReturn, .lineFeed => false
  | .carriageReturn, _ | .lineFeed, _ | .control, _ => true
  | _, .carriageReturn | _, .lineFeed | _, .control => true
  | .leadingJamo, .leadingJamo | .leadingJamo, .vowelJamo => false
  | .leadingJamo, .openSyllable | .leadingJamo, .closedSyllable => false
  | .openSyllable, .vowelJamo | .vowelJamo, .vowelJamo => false
  | .openSyllable, .trailingJamo | .vowelJamo, .trailingJamo => false
  | .closedSyllable, .trailingJamo | .trailingJamo, .trailingJamo => false
  | _, .extend | _, .joiner | _, .spacingMark => false
  | .prepended, _ => false
  | .joiner, .pictographic => !left.joined
  | .regionalIndicator, .regionalIndicator => !left.oddIndicators
  | _, _ => !(left.linked && inside b.toNat ClusterTable.conjunctConsonant)

/-- The clusters of `c :: s`, where `left` is the context up to and with `c`. -/
def clustersFrom (left : LeftContext) (c : Char) : List Char → List (List Char)
  | [] => [[c]]
  | d :: s =>
    let rest := clustersFrom (left.step d) d s
    if breaks left c d then [c] :: rest
    else
      match rest with
      | [] => [[c]]
      | cluster :: others => (c :: cluster) :: others

/-- The extended grapheme clusters of a text. -/
def clusters : List Char → List (List Char)
  | [] => []
  | c :: s => clustersFrom (LeftContext.start.step c) c s

end SchemaGen.Text
