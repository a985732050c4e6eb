/-!
# Path patterns

A filter selects manifests by a pattern of their paths.  In a pattern, a question mark stands for
one character, an asterisk for any number of them, and brackets for one of several characters;
all of these may be slashes too.  Two asterisks stand for any number of whole directories.

* `PathPattern.parse`: the pattern that a text writes.
* `PathPattern.matches`: whether a path fits.
-/

namespace SchemaGen

/-- Characters between brackets. -/
inductive CharRange where
  | single (c : Char)
  | between (first last : Char)
  deriving DecidableEq, Repr

/-- Whether a character is meant. -/
def CharRange.has (c : Char) : CharRange → Bool
  | single d => c = d
  | between first last => first ≤ c && c ≤ last

namespace PathPattern

/-- A part of a pattern. -/
inductive Part where
  | literal (c : Char)
  | anyChar
  | anyText
  /-- Any number of directories, each with its slash, or all the rest. -/
  | anyDirectories
  | oneOf (ranges : List CharRange)
  | noneOf (ranges : List CharRange)
  deriving DecidableEq, Repr

/-- What is wrong with a text that writes no pattern. -/
inductive Fault where
  /-- Three or more asterisks. -/
  | tooManyAsterisks
  /-- Two asterisks that are not all of a path component. -/
  | partOfComponent
  /-- Brackets that are not closed. -/
  | invalidRange
  deriving DecidableEq, Repr

/-- A fault and the number of characters before it. -/
structure Error where
  position : Nat
  fault : Fault
  deriving DecidableEq, Repr

/-- The text of the fault. -/
def Fault.message : Fault → String
  | tooManyAsterisks => "wildcards are either regular \x60*\x60 or recursive \x60**\x60"
  | partOfComponent => "recursive wildcards must form a single path component"
  | invalidRange => "invalid range pattern"

/-- The text of the error. -/
def Error.message (e : Error) : String :=
  "Pattern syntax error near position " ++ toString e.position ++ ": " ++ e.fault.message

end PathPattern

/-- A pattern of paths. -/
structure PathPattern where
  parts : List PathPattern.Part
  deriving DecidableEq, Repr

namespace PathPattern

/-! ## Reading -/

/-- The ranges between brackets. -/
def ranges : List Char → List CharRange
  | a :: '-' :: b :: s => .between a b :: ranges s
  | a :: s => .single a :: ranges s
  | [] => []

/-- The characters up to the bracket that closes, and what follows it.  The first character is
not looked at, so a bracket may stand there. -/
def bracketed? : List Char → Option (List Char × List Char)
  | [] => none
  | c :: s =>
    match s.dropWhile (· ≠ ']') with
    | [] => none
    | _ :: rest => some (c :: s.takeWhile (· ≠ ']'), rest)

theorem length_bracketed? {s inner rest : List Char} (h : bracketed? s = some (inner, rest)) :
    rest.length < s.length := by
  unfold bracketed? at h
  split at h
  · simp at h
  · next c s =>
    split at h
    · simp at h
    · next d rest' hd =>
      have := (List.dropWhile_suffix (· ≠ ']') (l := s)).length_le
      simp only [hd, List.length_cons] at this
      simp only [Option.some.injEq, Prod.mk.injEq] at h
      rw [← h.2]
      simp only [List.length_cons]
      omega

/-- The part that an opening bracket begins, and what follows it. -/
def range? : List Char → Option (Part × List Char)
  | '!' :: s => (bracketed? s).map fun (inner, rest) => (.noneOf (ranges inner), rest)
  | s => (bracketed? s).map fun (inner, rest) => (.oneOf (ranges inner), rest)

theorem length_range? {s rest : List Char} {p : Part} (h : range? s = some (p, rest)) :
    rest.length < s.length := by
  unfold range? at h
  split at h
  all_goals
    simp only [Option.map_eq_some_iff, Prod.mk.injEq, Prod.exists] at h
    obtain ⟨inner, rest', h, -, rfl⟩ := h
  · exact Nat.lt_succ_of_lt (length_bracketed? h)
  · exact length_bracketed? h

/-- What follows two asterisks, if they are all of a path component; a slash after them belongs
to them.  `total` is the length of the whole pattern. -/
def component (total : Nat) (previous : Option Char) (rest : List Char) :
    Except Error (List Char) :=
  if previous.all (· = '/') then
    match rest with
    | [] => .ok []
    | c :: s =>
      if c = '/' then .ok s else .error ⟨total - rest.length, .partOfComponent⟩
  else .error ⟨total - rest.length - 3, .partOfComponent⟩

theorem length_component {total : Nat} {previous : Option Char} {rest s : List Char}
    (h : component total previous rest = .ok s) : s.length ≤ rest.length := by
  unfold component at h
  split at h
  · split at h
    · simp only [Except.ok.injEq] at h
      simp [← h]
    · split at h
      · simp only [Except.ok.injEq] at h
        simp [← h]
      · simp at h
  · simp at h

/-- Reads the rest of a pattern of length `total`, behind the character `previous`. -/
def parseFrom (total : Nat) (previous : Option Char) : List Char → Except Error (List Part)
  | [] => .ok []
  | c :: s =>
    if c = '?' then (parseFrom total (some c) s).map (.anyChar :: ·)
    else if c = '*' then
      match s with
      | '*' :: '*' :: _ => .error ⟨total - s.length + 1, .tooManyAsterisks⟩
      | '*' :: rest =>
        match _h : component total previous rest with
        | .error e => .error e
        | .ok rest => (parseFrom total (some '/') rest).map (.anyDirectories :: ·)
      | s => (parseFrom total (some c) s).map (.anyText :: ·)
    else if c = '[' then
      match _h : range? s with
      | none => .error ⟨total - s.length - 1, .invalidRange⟩
      | some (p, rest) => (parseFrom total (some ']') rest).map (p :: ·)
    else (parseFrom total (some c) s).map (.literal c :: ·)
termination_by s => s.length
decreasing_by
  · simp
  · have := length_component _h
    simp only [List.length_cons]
    omega
  · simp
  · have := length_range? _h
    simp only [List.length_cons]
    omega
  · simp

/-- The pattern that a text writes. -/
def parse (text : String) : Except Error PathPattern :=
  (parseFrom text.length none text.toList).map .mk

/-! ## Matching -/

/-- What may be left of a text after whole directories: all of it, what follows any of its
slashes, or nothing. -/
def afterDirectories (s : List Char) : List (List Char) :=
  s :: go s
where
  /-- What follows any of the slashes, and nothing. -/
  go : List Char → List (List Char)
    | [] => [[]]
    | c :: s => if c = '/' then s :: go s else go s

/-- What may be left of a text after any number of characters. -/
def suffixes : List Char → List (List Char)
  | [] => [[]]
  | c :: s => (c :: s) :: suffixes s

/-- Whether a part that stands for one character may stand for this one. -/
def Part.fits (c : Char) : Part → Bool
  | .literal d => c = d
  | .oneOf ranges => ranges.any (CharRange.has c)
  | .noneOf ranges => !ranges.any (CharRange.has c)
  | .anyChar | .anyText | .anyDirectories => true

/-- Whether the parts stand for the whole of a text. -/
def fit : List Part → List Char → Bool
  | [], s => s.isEmpty
  | .anyText :: ps, s => (suffixes s).any (fit ps)
  | .anyDirectories :: ps, s => (afterDirectories s).any (fit ps)
  | p :: ps, s =>
    match s with
    | [] => false
    | c :: s => p.fits c && fit ps s

/-- Whether a path fits. -/
def «matches» (p : PathPattern) (path : String) : Bool :=
  fit p.parts path.toList

end PathPattern

end SchemaGen
