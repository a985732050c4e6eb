import SchemaGen.Proofs.QuotedKeys

/-!
# String literals of generated modules

What a generated module says between single quotes is read as JavaScript reads a string literal:
up to the first quote that is not escaped, on one line, as a sequence of UTF-16 code units.
A backslash begins an escape, whose code units are fewer than the characters that write it.  So a
text that stands between quotes as it is, is read as itself iff nothing in it is escaped or ends
the literal.  The literals of keys are read as the text that they were made of in any case.

* `Script.scan`: reads a literal; `Script.units`: the code units of a text.
* `Script.exists_of_scan`: the text that was read, and when it was read as itself.
* `Script.scan_eq_units_iff`: which texts are read as themselves.
* `Property.writtenKey_denotes`: the keys of properties are read as their names.
-/

namespace SchemaGen

open Text

namespace Script

/-! ## Reading a literal -/

/-- The editions of the language: in the older ones the separators of lines and paragraphs end a
line inside a literal too. -/
inductive Edition where
  | older
  | current
  deriving DecidableEq, Repr

/-- A character that ends a line outside of literals. -/
def isLineEnd (c : Char) : Bool :=
  c = '\n' || c = '\r' || c = '\u2028' || c = '\u2029'

/-- A character that no literal may have unescaped, since it ends the line. -/
def Edition.endsLine : Edition → Char → Bool
  | .older, c => isLineEnd c
  | .current, c => c = '\n' || c = '\r'

theorem isLineEnd_of_endsLine {edition : Edition} {c : Char} (h : edition.endsLine c = true) :
    isLineEnd c = true := by
  cases edition with
  | older => exact h
  | current =>
    unfold isLineEnd
    rw [show (c = '\n' || c = '\r') = true from h]
    rfl

/-- The UTF-16 code units of a code point. -/
def codeUnits (n : Nat) : List Nat :=
  if n < 0x10000 then [n]
  else [0xD800 + (n - 0x10000) / 0x400, 0xDC00 + (n - 0x10000) % 0x400]

/-- The UTF-16 code units of a text. -/
def units (s : List Char) : List Nat :=
  s.flatMap fun c => codeUnits c.toNat

/-- The code units of a character behind a backslash. -/
def escapedUnits (c : Char) : List Nat :=
  if c = 'b' then [0x08]
  else if c = 't' then [0x09]
  else if c = 'n' then [0x0A]
  else if c = 'v' then [0x0B]
  else if c = 'f' then [0x0C]
  else if c = 'r' then [0x0D]
  else codeUnits c.toNat

/-- The code unit that is written by some digits, and what follows these. -/
def fixedHex? (k : Nat) (s : List Char) : Option (List Nat × List Char) :=
  if s.length < k then none else (readHex? (s.take k)).map fun n => ([n], s.drop k)

/-- The code point that is written by the digits up to a closing brace, and what follows this. -/
def bracedHex? (s : List Char) : Option (List Nat × List Char) :=
  match s.takeWhile (· ≠ '\x7d'), s.dropWhile (· ≠ '\x7d') with
  | d :: digits, _ :: rest => do
    let n ← readHex? (d :: digits)
    if n ≤ 0x10FFFF then some (codeUnits n, rest) else none
  | _, _ => none

/-- The code units of a code point that is written by its digits, and what follows these. -/
def codePoint? : List Char → Option (List Nat × List Char)
  | '\x7b' :: s => bracedHex? s
  | s => fixedHex? 4 s

/-- The code units of an escape, and what follows it; the backslash has been read.  An escape at
the end of a line continues the literal, and of the digits only a zero that is followed by none
can be escaped, since modules are strict. -/
def escape? : List Char → Option (List Nat × List Char)
  | [] => none
  | c :: s =>
    if c = 'x' then fixedHex? 2 s
    else if c = 'u' then codePoint? s
    else if c = '\r' ∧ s.head? = some '\n' then some ([], s.tail)
    else if isLineEnd c then some ([], s)
    else if c.isDigit then
      if c = '0' ∧ s.head?.all (!·.isDigit) then some ([0], s) else none
    else some (escapedUnits c, s)

/-! ## What an escape takes -/

@[simp] theorem units_cons (c : Char) (s : List Char) :
    units (c :: s) = codeUnits c.toNat ++ units s := rfl

theorem length_codeUnits_pos (n : Nat) : 0 < (codeUnits n).length := by
  unfold codeUnits
  split <;> simp

theorem length_codeUnits_le (n : Nat) : (codeUnits n).length ≤ 2 := by
  unfold codeUnits
  split <;> simp

theorem length_le_units (s : List Char) : s.length ≤ (units s).length := by
  induction s with
  | nil => exact Nat.le_refl 0
  | cons c s ih =>
    have hunits := length_codeUnits_pos c.toNat
    simp only [units, List.flatMap_cons, List.length_append, List.length_cons] at ih ⊢
    omega

/-- Some text was read as these code units, which are no more than its own. -/
def Taken (s : List Char) (u : List Nat) (rest : List Char) : Prop :=
  ∃ pre, s = pre ++ rest ∧ u.length ≤ (units pre).length

theorem Taken.cons {s rest : List Char} {u : List Nat} (h : Taken s u rest) (c : Char) :
    Taken (c :: s) u rest := by
  obtain ⟨pre, rfl, hlength⟩ := h
  refine ⟨c :: pre, rfl, Nat.le_trans hlength ?_⟩
  simp [units]

theorem taken_of_length {pre rest : List Char} {u : List Nat} (h : u.length ≤ pre.length) :
    Taken (pre ++ rest) u rest :=
  ⟨pre, rfl, Nat.le_trans h (length_le_units pre)⟩

theorem length_escapedUnits_le (c : Char) :
    (escapedUnits c).length ≤ (codeUnits c.toNat).length := by
  have hpos := length_codeUnits_pos c.toNat
  unfold escapedUnits
  split_ifs <;> first | exact hpos | exact Nat.le_refl _

theorem taken_fixedHex? {k : Nat} {s rest : List Char} {u : List Nat} (hk : 0 < k)
    (h : fixedHex? k s = some (u, rest)) : Taken s u rest := by
  unfold fixedHex? at h
  split at h
  · simp at h
  · next hlength =>
    obtain ⟨n, -, hread⟩ := Option.map_eq_some_iff.mp h
    obtain ⟨rfl, rfl⟩ := Prod.mk.inj hread
    have htaken : Taken (s.take k ++ s.drop k) [n] (s.drop k) := by
      refine taken_of_length ?_
      rw [List.length_take_of_le (Nat.le_of_not_lt hlength)]
      exact hk
    rwa [List.take_append_drop] at htaken

theorem taken_bracedHex? {s rest : List Char} {u : List Nat}
    (h : bracedHex? s = some (u, rest)) : Taken s u rest := by
  unfold bracedHex? at h
  split at h
  · next d digits c rest' htake hdrop =>
    obtain ⟨n, -, h⟩ := Option.bind_eq_some_iff.mp h
    split at h
    · obtain ⟨rfl, rfl⟩ := Prod.mk.inj (Option.some.inj h)
      have hs : s = (d :: digits ++ [c]) ++ rest' := by
        rw [List.append_assoc, ← htake, List.singleton_append, ← hdrop,
          List.takeWhile_append_dropWhile]
      rw [hs]
      refine taken_of_length (Nat.le_trans (length_codeUnits_le n) ?_)
      simp
    · simp at h
  · simp at h

theorem taken_codePoint? {s rest : List Char} {u : List Nat}
    (h : codePoint? s = some (u, rest)) : Taken s u rest := by
  unfold codePoint? at h
  split at h
  · exact (taken_bracedHex? h).cons _
  · exact taken_fixedHex? (by decide) h

/-- An escape takes at least the character behind the backslash, and has no more code units than
what it takes. -/
theorem exists_of_escape? {s rest : List Char} {u : List Nat} (h : escape? s = some (u, rest)) :
    ∃ c pre, s = c :: pre ++ rest ∧ u.length ≤ (units (c :: pre)).length := by
  cases s with
  | nil => simp [escape?] at h
  | cons c s =>
    have htaken (h : Taken s u rest) :
        ∃ d pre, c :: s = d :: pre ++ rest ∧ u.length ≤ (units (d :: pre)).length := by
      obtain ⟨pre, rfl, hlength⟩ := h
      exact ⟨c, pre, rfl, Nat.le_trans hlength (by simp [units])⟩
    rw [escape?] at h
    split_ifs at h with hx hu hreturn hline hdigit hzero
    · exact htaken (taken_fixedHex? (by decide) h)
    · exact htaken (taken_codePoint? h)
    · obtain ⟨rfl, rfl⟩ := Prod.mk.inj (Option.some.inj h)
      obtain ⟨tail, rfl⟩ := List.head?_eq_some_iff.mp hreturn.2
      exact ⟨c, ['\n'], rfl, Nat.zero_le _⟩
    · obtain ⟨rfl, rfl⟩ := Prod.mk.inj (Option.some.inj h)
      exact ⟨c, [], rfl, Nat.zero_le _⟩
    · obtain ⟨rfl, rfl⟩ := Prod.mk.inj (Option.some.inj h)
      exact ⟨c, [], rfl, length_le_units [c]⟩
    · obtain ⟨rfl, rfl⟩ := Prod.mk.inj (Option.some.inj h)
      exact ⟨c, [], rfl, by simpa [units] using length_escapedUnits_le c⟩

theorem length_escape? {s rest : List Char} {u : List Nat} (h : escape? s = some (u, rest)) :
    rest.length < s.length := by
  obtain ⟨c, pre, rfl, -⟩ := exists_of_escape? h
  simp only [List.length_append, List.length_cons]
  omega

/-! ## Texts that are read as themselves -/

/-- The code units of a literal whose opening quote has been read, and what follows its closing
quote. -/
def scan (edition : Edition) : List Char → Option (List Nat × List Char)
  | [] => none
  | c :: s =>
    if c = '\'' then some ([], s)
    else if c = '\\' then
      match _h : escape? s with
      | some (u, rest) => (scan edition rest).map fun (v, rest) => (u ++ v, rest)
      | none => none
    else if edition.endsLine c then none
    else (scan edition s).map fun (v, rest) => (codeUnits c.toNat ++ v, rest)
termination_by s => s.length
decreasing_by
  · have := length_escape? _h
    simp only [List.length_cons]
    omega
  · simp

/-- A backslash begins an escape. -/
theorem scan_escaped (edition : Edition) (s : List Char) :
    scan edition ('\\' :: s) = (escape? s).bind fun (u, rest) =>
      (scan edition rest).map fun (v, rest) => (u ++ v, rest) := by
  rw [scan, if_neg (by decide), if_pos rfl]
  cases escape? s <;> rfl

/-- Nothing in a text ends a literal, begins an escape, or ends the line. -/
def IsPlain (edition : Edition) (s : List Char) : Prop :=
  ∀ c ∈ s, c ≠ '\'' ∧ c ≠ '\\' ∧ edition.endsLine c = false

instance (edition : Edition) (s : List Char) : Decidable (IsPlain edition s) :=
  decidableForallMem _ s

/-- A plain text is read as itself. -/
theorem scan_plain {edition : Edition} {s : List Char} (h : IsPlain edition s)
    (rest : List Char) : scan edition (s ++ '\'' :: rest) = some (units s, rest) := by
  induction s with
  | nil => simp [scan, units]
  | cons c s ih =>
    obtain ⟨⟨hquote, hbackslash, hline⟩, hrest⟩ := List.forall_mem_cons.mp h
    rw [List.cons_append, scan, if_neg hquote, if_neg hbackslash, hline, ih hrest]
    rfl

/-- What was read is a text up to a quote.  It was read as itself if it is plain, else it has more
code units than were read. -/
theorem exists_of_scan {edition : Edition} {s rest : List Char} {v : List Nat}
    (h : scan edition s = some (v, rest)) :
    ∃ text, s = text ++ '\'' :: rest ∧
      (IsPlain edition text ∧ v = units text ∨ v.length < (units text).length) := by
  induction s using scan.induct edition generalizing v rest with
  | case1 => simp [scan] at h
  | case2 s =>
    rw [scan, if_pos rfl] at h
    obtain ⟨rfl, rfl⟩ := Prod.mk.inj (Option.some.inj h)
    exact ⟨[], rfl, .inl ⟨by simp [IsPlain], rfl⟩⟩
  | case3 s u rest' hescape _ ih =>
    rw [scan_escaped, hescape] at h
    obtain ⟨⟨v', _⟩, hscan, hread⟩ := Option.map_eq_some_iff.mp h
    obtain ⟨rfl, rfl⟩ := Prod.mk.inj hread
    obtain ⟨c, pre, rfl, hunits⟩ := exists_of_escape? hescape
    obtain ⟨text, rfl, htext⟩ := ih hscan
    -- The backslash itself is not read.
    refine ⟨'\\' :: (c :: pre ++ text), by simp, .inr ?_⟩
    have hle : v'.length ≤ (units text).length := by
      rcases htext with ⟨-, rfl⟩ | hlength
      · exact Nat.le_refl _
      · exact Nat.le_of_lt hlength
    have hbackslash : units ('\\' :: (c :: pre ++ text)) =
        0x5C :: (units (c :: pre) ++ units text) := by
      simp [units, codeUnits]
    rw [hbackslash]
    simp only [List.length_cons, List.length_append]
    omega
  | case4 s hescape _ =>
    rw [scan_escaped, hescape] at h
    simp at h
  | case5 c s hquote hbackslash hline =>
    rw [scan, if_neg hquote, if_neg hbackslash, if_pos hline] at h
    simp at h
  | case6 c s hquote hbackslash hline ih =>
    rw [scan, if_neg hquote, if_neg hbackslash, if_neg hline] at h
    obtain ⟨⟨v', _⟩, hscan, hread⟩ := Option.map_eq_some_iff.mp h
    obtain ⟨rfl, rfl⟩ := Prod.mk.inj hread
    obtain ⟨text, rfl, htext⟩ := ih hscan
    refine ⟨c :: text, rfl, ?_⟩
    rw [units_cons]
    rcases htext with ⟨hplain, rfl⟩ | hlength
    · have hc := Bool.eq_false_iff.mpr hline
      exact .inl ⟨List.forall_mem_cons.mpr ⟨⟨hquote, hbackslash, hc⟩, hplain⟩, rfl⟩
    · exact .inr (by simpa using hlength)

/-- Between quotes, a text is read as itself iff it is plain. -/
theorem scan_eq_units_iff {edition : Edition} {s : List Char} (rest : List Char) :
    scan edition (s ++ '\'' :: rest) = some (units s, rest) ↔ IsPlain edition s := by
  refine ⟨fun h => ?_, fun h => scan_plain h rest⟩
  obtain ⟨text, htext, hread⟩ := exists_of_scan h
  obtain rfl := List.append_cancel_right htext
  rcases hread with ⟨hplain, -⟩ | hlength
  · exact hplain
  · exact absurd hlength (Nat.lt_irrefl _)

/-! ## The literals of keys -/

theorem fixedHex?_hexDigits (k n : Nat) (rest : List Char) :
    fixedHex? k (hexDigits k n ++ rest) = some ([n % Nat.pow 16 k], rest) := by
  have hlength := length_hexDigits k n
  have hnot : ¬ (hexDigits k n ++ rest).length < k := by
    rw [List.length_append, hlength]
    omega
  rw [fixedHex?, if_neg hnot, List.take_left' hlength, List.drop_left' hlength,
    readHex?_hexDigits]
  rfl

/-- Four digits write a code unit. -/
theorem codePoint?_hexDigits {n : Nat} (hn : n < 0x10000) (rest : List Char) :
    codePoint? (hexDigits 4 n ++ rest) = some ([n], rest) := by
  have hread := fixedHex?_hexDigits 4 n rest
  rw [Nat.mod_eq_of_lt hn] at hread
  rw [← hread]
  unfold codePoint?
  split
  · next s hbrace =>
    -- No digit is a brace.
    have hfirst := congrArg List.head? hbrace
    have hdigit : ∀ d, d < 16 → hexDigit d ≠ '\x7b' := by decide
    exact absurd (Option.some.inj hfirst) (hdigit _ (Nat.mod_lt _ (by decide)))
  · rfl

/-- A character that a literal has by its code point has one code unit. -/
theorem lt_of_needsCodePoint {c : Char} (h : Quoted.needsCodePoint c = true) :
    c.toNat < 0x10000 := by
  simp only [Quoted.needsCodePoint, isControl, Bool.or_eq_true, Bool.and_eq_true,
    decide_eq_true_eq] at h
  rcases h with (h | rfl) | rfl
  · omega
  · decide
  · decide

/-- A character that ends a line is written by an escape. -/
theorem endsLine_of_needsCodePoint (edition : Edition) {c : Char}
    (h : Quoted.needsCodePoint c = false) : edition.endsLine c = false := by
  refine Bool.eq_false_iff.mpr fun hends => ?_
  have hline := isLineEnd_of_endsLine hends
  simp only [isLineEnd, Bool.or_eq_true, decide_eq_true_eq] at hline
  rcases hline with ((rfl | rfl) | rfl) | rfl <;> exact absurd h (by decide)

/-- An escape in the literal of a key is read as the character that it was made of. -/
theorem scan_escape (edition : Edition) (c : Char) (s : List Char) :
    scan edition (Quoted.escape c ++ s) =
      (scan edition s).map fun (v, rest) => (codeUnits c.toNat ++ v, rest) := by
  unfold Quoted.escape
  split_ifs with hbackslash hquote hnewline hreturn htab hpoint
  · subst hbackslash
    exact scan_escaped edition _
  · subst hquote
    exact scan_escaped edition _
  · subst hnewline
    exact scan_escaped edition _
  · subst hreturn
    exact scan_escaped edition _
  · subst htab
    exact scan_escaped edition _
  · have hsmall := lt_of_needsCodePoint hpoint
    have hescape : escape? ('u' :: (hexDigits 4 c.toNat ++ s)) = some (codeUnits c.toNat, s) := by
      rw [codeUnits, if_pos hsmall, ← codePoint?_hexDigits hsmall s]
      rfl
    rw [List.cons_append, List.cons_append, scan_escaped, hescape]
    rfl
  · have hline := endsLine_of_needsCodePoint edition (Bool.eq_false_iff.mpr hpoint)
    rw [List.singleton_append, scan, if_neg hquote, if_neg hbackslash, hline]
    rfl

/-- The literal of a key is read as the key, whatever it is. -/
theorem scan_encode (edition : Edition) (s rest : List Char) :
    scan edition (Quoted.encode s ++ '\'' :: rest) = some (units s, rest) := by
  induction s with
  | nil => simp [Quoted.encode, scan, units]
  | cons c s ih =>
    have hcons : Quoted.encode (c :: s) = Quoted.escape c ++ Quoted.encode s := rfl
    rw [hcons, List.append_assoc, scan_escape, ih]
    rfl

end Script

/-- The key of a property is its name, if that is an identifier, or a literal that is read as its
name, whatever it is. -/
theorem Property.writtenKey_denotes (edition : Script.Edition) (name : String) :
    TypeName.isIdentifier name = true ∧ writtenKey name = name ∨
      ∃ s, (writtenKey name).toList = '\'' :: s ∧
        ∀ rest, Script.scan edition (s ++ rest) = some (Script.units name.toList, rest) := by
  unfold writtenKey
  split
  · next hname => exact .inl ⟨hname, rfl⟩
  · refine .inr ⟨Quoted.encode name.toList ++ ['\''], String.toList_ofList, fun rest => ?_⟩
    rw [List.append_assoc]
    exact Script.scan_encode edition name.toList rest

end SchemaGen
