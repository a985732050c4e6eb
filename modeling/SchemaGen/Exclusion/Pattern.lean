/-!
# Patterns of excluded paths

The pattern language of version control: a question mark and an asterisk stay within one name,
two asterisks between slashes stand for any number of directories, brackets stand for one of
several characters, and braces for one of several patterns.  Paths are sequences of bytes, and so
a question mark stands for one byte.

* `Pattern.parse`: the pattern that a text writes, or why it writes none.
* `Pattern.fits`: whether a path fits.
-/

namespace SchemaGen.Exclusion

/-- Why a text writes no pattern. -/
inductive PatternError where
  /-- Braces are closed that are not open. -/
  | unopenedBraces
  /-- Braces are never closed. -/
  | unclosedBraces
  /-- A range ends before it begins. -/
  | invalidRange (first last : Char)
  /-- Nothing follows the last backslash. -/
  | danglingEscape
  deriving DecidableEq, Repr

/-- The text of the error. -/
def PatternError.message : PatternError → String
  | .unopenedBraces =>
    "unopened alternate group; missing '\x7b' (maybe escape '\x7d' with '[\x7d]'?)"
  | .unclosedBraces =>
    "unclosed alternate group; missing '\x7d' (maybe escape '\x7b' with '[\x7b]'?)"
  | .invalidRange first last =>
    "invalid range; '" ++ String.singleton first ++ "' > '" ++ String.singleton last ++ "'"
  | .danglingEscape => "dangling '\\'"

/-- A part of a pattern. -/
inductive Part where
  | byte (b : UInt8)
  /-- One byte of a name. -/
  | any
  /-- Any number of bytes of a name. -/
  | anyText
  /-- Any number of directories, before the first name. -/
  | leading
  /-- Everything below a directory. -/
  | trailing
  /-- Any number of directories, between two names. -/
  | between
  /-- One of several bytes, or one that is none of them. -/
  | oneOf (negated : Bool) (ranges : List (UInt8 × UInt8))
  | alternatives (branches : List (List Part))

/-- The byte that separates names. -/
def slash : UInt8 := 0x2f

/-! ## Reading -/

/-- The bytes of a character. -/
def bytesOf (c : Char) : List UInt8 :=
  (String.singleton c).toUTF8.toList

/-- The bytes of a range of characters: a range runs from the last byte of its first character to
the first byte of its last. -/
def rangeBytes (first last : Char) : List (UInt8 × UInt8) :=
  if first = last then (bytesOf first).map fun b => (b, b)
  else
    match (bytesOf first).reverse, bytesOf last with
    | a :: before, b :: after =>
      before.reverse.map (fun b => (b, b)) ++ (a, b) :: after.map fun b => (b, b)
    | _, _ => []

/-- What comes of an opening bracket. -/
inductive Bracketed where
  /-- The ranges, in reverse order, and what follows the bracket that closes. -/
  | closed (ranges : List (Char × Char)) (rest : List Char)
  /-- No bracket closes. -/
  | unclosed
  /-- A range ends before it begins. -/
  | invalid (first last : Char)

/-- Reads ranges.  `first` tells that nothing has been read, `open` that the last range still
lacks its end. -/
def readRanges (first «open» : Bool) (ranges : List (Char × Char)) : List Char → Bracketed
  | [] => .unclosed
  | c :: s =>
    if c = ']' && !first then .closed (if «open» then ('-', '-') :: ranges else ranges) s
    else if c = '-' && !first && !«open» then readRanges false true ranges s
    else
      match «open», ranges with
      | true, (a, _) :: others =>
        if c < a then .invalid a c else readRanges false false ((a, c) :: others) s
      | _, _ => readRanges false false ((c, c) :: ranges) s

theorem length_readRanges {first o : Bool} {ranges result : List (Char × Char)}
    {s rest : List Char} (h : readRanges first o ranges s = .closed result rest) :
    rest.length < s.length := by
  induction s generalizing first o ranges with
  | nil => simp [readRanges] at h
  | cons c s ih =>
    unfold readRanges at h
    split at h
    · simp only [Bracketed.closed.injEq] at h
      simp [h.2]
    · split at h
      · exact Nat.lt_succ_of_lt (ih h)
      · split at h
        · split at h
          · simp at h
          · exact Nat.lt_succ_of_lt (ih h)
        · exact Nat.lt_succ_of_lt (ih h)

/-- The mark that negates brackets, and what follows it. -/
def readNegation : List Char → Bool × List Char
  | '!' :: s | '^' :: s => (true, s)
  | s => (false, s)

theorem length_readNegation (s : List Char) : (readNegation s).2.length ≤ s.length := by
  unfold readNegation
  split <;> simp

/-- The branches of braces that are open: those that are complete and the parts of the one that
the braces stand in, each in reverse order. -/
structure Braces where
  branches : List (List Part)
  outer : List Part

/-- What has been read: the braces that are open, the parts of the current branch in reverse
order, the last character, and whether brackets are still looked for. -/
structure Reading where
  braces : List Braces
  parts : List Part
  previous : Option Char
  brackets : Bool

namespace Reading

/-- The state before the first character. -/
def start : Reading :=
  ⟨[], [], none, true⟩

/-- Adds parts. -/
def push (r : Reading) (ps : List Part) (last : Char) : Reading :=
  { r with parts := ps ++ r.parts, previous := some last }

/-- Opens braces. -/
def openBraces (r : Reading) : Reading :=
  { r with braces := ⟨[], r.parts⟩ :: r.braces, parts := [], previous := some '\x7b' }

/-- Ends a branch, or adds a comma where there are no braces. -/
def comma (r : Reading) : Reading :=
  match r.braces with
  | [] => r.push [.byte 0x2c] ','
  | b :: braces =>
    { r with
      braces := { b with branches := r.parts.reverse :: b.branches } :: braces
      parts := []
      previous := some ',' }

/-- Closes braces. -/
def closeBraces (r : Reading) : Except PatternError Reading :=
  match r.braces with
  | [] => .error .unopenedBraces
  | b :: braces =>
    .ok
      { r with
        braces
        parts := .alternatives (r.parts.reverse :: b.branches).reverse :: b.outer
        previous := some '\x7d' }

/-- Adds two asterisks, and gives what follows them.  They stand for directories if they are all
that stands between two slashes, at the beginning or at the end; a slash that follows belongs to
them, and so does the one before, which is replaced.  Elsewhere they are two single ones. -/
def doubleStar (r : Reading) (rest : List Char) : Reading × List Char :=
  let single := (r.push [.anyText, .anyText] '*', rest)
  let inBraces := !r.braces.isEmpty
  match r.parts with
  | [] =>
    match rest with
    | [] => (r.push [.leading] '*', [])
    | c :: s => if c = '/' then (r.push [.leading] c, s) else single
  | last :: before =>
    let follows :=
      r.previous = some '/' || (inBraces && (r.previous = some ',' || r.previous = some '\x7b'))
    if !follows then single
    else
      let replaced (p : Part) : List Part :=
        match last with
        | .leading => .leading :: before
        | .trailing => .trailing :: before
        | _ => p :: before
      let atEnd := ({ r with parts := replaced .trailing, previous := some '*' }, rest)
      match rest with
      | [] => atEnd
      | c :: s =>
        if inBraces && (c = ',' || c = '\x7d') then atEnd
        else if c = '/' then ({ r with parts := replaced .between, previous := some c }, s)
        else single

theorem length_doubleStar (r : Reading) (rest : List Char) :
    (r.doubleStar rest).2.length ≤ rest.length := by
  unfold doubleStar
  split
  · split
    · simp
    · split <;> simp
  · simp only
    split
    · simp
    · split
      · simp
      · split
        · simp
        · split <;> simp

/-- The parts of a whole pattern, if all braces are closed. -/
def finish (r : Reading) : Except PatternError (List Part) :=
  if r.braces.isEmpty then .ok r.parts.reverse else .error .unclosedBraces

end Reading

/-- Reads the rest of a pattern.  A bracket that is never closed stands for itself, and so does
every bracket after it. -/
def readFrom (r : Reading) : List Char → Except PatternError (List Part)
  | [] => r.finish
  | c :: s =>
    if c = '?' then readFrom (r.push [.any] c) s
    else if c = '*' then
      match s with
      | '*' :: rest => readFrom (r.doubleStar rest).1 (r.doubleStar rest).2
      | s => readFrom (r.push [.anyText] c) s
    else if c = '[' && r.brackets then
      match _h : readRanges true false [] (readNegation s).2 with
      | .closed ranges rest =>
        let part := .oneOf (readNegation s).1 (ranges.flatMap fun (a, b) => rangeBytes a b)
        readFrom (r.push [part] ']') rest
      | .unclosed => readFrom { r.push [.byte 0x5b] c with brackets := false } s
      | .invalid a b => .error (.invalidRange a b)
    else if c = '\x7b' then readFrom r.openBraces s
    else if c = '\x7d' then
      match r.closeBraces with
      | .ok r => readFrom r s
      | .error e => .error e
    else if c = ',' then readFrom r.comma s
    else if c = '\\' then
      match s with
      | [] => .error .danglingEscape
      | d :: s => readFrom (r.push ((bytesOf d).reverse.map .byte) d) s
    else readFrom (r.push ((bytesOf c).reverse.map .byte) c) s
termination_by s => s.length
decreasing_by
  · simp
  · have := r.length_doubleStar rest
    simp only [List.length_cons]
    omega
  · simp
  · have h1 := length_readRanges _h
    have h2 := length_readNegation s
    simp only [List.length_cons]
    omega
  all_goals
    simp only [List.length_cons]
    omega

/-! ## Matching -/

/-- What may be left of a path within the current name. -/
def withinName : List UInt8 → List (List UInt8)
  | [] => [[]]
  | b :: s => (b :: s) :: (if b = slash then [] else withinName s)

/-- What follows any of the slashes. -/
def afterSlashes : List UInt8 → List (List UInt8)
  | [] => []
  | b :: s => if b = slash then s :: afterSlashes s else afterSlashes s

/-- What may be left of a path after any number of bytes. -/
def endings : List UInt8 → List (List UInt8)
  | [] => [[]]
  | b :: s => (b :: s) :: endings s

mutual

/-- Whether a part takes up no space in the pattern: braces with nothing in them. -/
def Part.isVoid : Part → Bool
  | .alternatives branches => branchesAreVoid branches
  | _ => false

/-- Whether all parts are void. -/
def areVoid : List Part → Bool
  | [] => true
  | p :: ps => p.isVoid && areVoid ps

/-- Whether all parts of all branches are void. -/
def branchesAreVoid : List (List Part) → Bool
  | [] => true
  | b :: bs => areVoid b && branchesAreVoid bs

end

mutual

/-- Whether a part fits the beginning of a path so that `next` takes the rest. -/
def Part.fits (next : List UInt8 → Bool) : Part → List UInt8 → Bool
  | .byte _, [] | .any, [] | .oneOf _ _, [] | .trailing, [] | .between, [] => false
  | .byte b, c :: s => b = c && next s
  | .any, c :: s => c ≠ slash && next s
  | .oneOf negated ranges, c :: s =>
    (ranges.any fun (a, b) => a ≤ c && c ≤ b) != negated && next s
  | .anyText, s => (withinName s).any next
  | .leading, s => (s :: afterSlashes s).any next
  | .trailing, c :: s => c = slash && (endings s).any next
  | .between, c :: s => c = slash && (s :: afterSlashes s).any next
  | .alternatives branches, s =>
    if branchesAreVoid branches then next s else someBranchFits next branches s

/-- Whether the parts fit the beginning of a path so that `next` takes the rest. -/
def allFit (next : List UInt8 → Bool) : List Part → List UInt8 → Bool
  | [], s => next s
  | p :: ps, s => p.fits (allFit next ps) s

/-- Whether a branch that is not void fits the beginning of a path so that `next` takes the
rest. -/
def someBranchFits (next : List UInt8 → Bool) : List (List Part) → List UInt8 → Bool
  | [], _ => false
  | b :: bs, s => (!areVoid b && allFit next b s) || someBranchFits next bs s

end

/-- A pattern of paths. -/
structure Pattern where
  parts : List Part

namespace Pattern

/-- The pattern that a text writes. -/
def parse (text : List Char) : Except PatternError Pattern :=
  (readFrom .start text).map .mk

/-- Whether a path fits.  Two asterisks alone fit every path. -/
def fits (p : Pattern) (path : List UInt8) : Bool :=
  match p.parts with
  | [.leading] => true
  | ps => allFit List.isEmpty ps path

end Pattern

end SchemaGen.Exclusion
