import SchemaGen.Proofs.Identifiers
import SchemaGen.Proofs.ManifestOutlines
import SchemaGen.Toml.Document

/-!
# Reading lines

A document is read line by line: a line takes the reader from the beginning of one line to that
of the next, with one more statement.

* `first?_word`, `first?_quoted`: the tokens of a line.
* `Reader.read?`: reads the tokens of a text.
* `Reader.read?_assignment`, `Reader.read?_header`: a line with a key and its text, and the header
  of one more table.
* `Lines`: the statements of a text that consists of whole lines, with `Lines.append` and
  `Lines.flatMap`.
* `statements?_of_lines`: the statements of such a text, if it has no carriage returns and does not
  begin with a mark.
-/

namespace SchemaGen.Toml

open Text

/-! ## Tokens -/

theorem isPlain_of_isVerbatim {c : Char} (h : isVerbatim c = true) : isPlain c = true := by
  simp only [isPlain, Bool.or_eq_true, Bool.and_eq_true, decide_eq_true_eq]
  exact .inr (space_le_of_isVerbatim h)

/-- A text without escapes goes as far as the next quote. -/
theorem escapedLine_of_isVerbatim {t : List Char} (h : ∀ c ∈ t, isVerbatim c = true)
    (s : List Char) : escapedLine (t ++ '"' :: s) = some (t, s) := by
  induction t with
  | nil => rw [List.nil_append, escapedLine, if_pos rfl]
  | cons c t ih =>
    have hc := h c (List.mem_cons_self ..)
    have ih := ih fun c hc => h c (List.mem_cons_of_mem _ hc)
    rw [List.cons_append, escapedLine, if_neg (ne_of_isVerbatim hc).1,
      if_neg (ne_of_isVerbatim hc).2, if_pos (isPlain_of_isVerbatim hc), ih]
    rfl

/-- A text between quotes is one token, if no third quote follows it. -/
theorem first?_quoted {t : List Char} (h : ∀ c ∈ t, isVerbatim c = true) {e : Char}
    (he : e ≠ '"') (s : List Char) :
    first? '"' (t ++ '"' :: e :: s) = some (.line (String.ofList t), e :: s) := by
  have hline : first? '"' (t ++ '"' :: e :: s) =
      literal? .line (escapedLine (t ++ '"' :: e :: s)) := by
    simp only [first?]
    split
    · next htriple =>
      -- Two more quotes would open a text of several lines.
      cases t with
      | nil =>
        rw [List.nil_append, List.cons.injEq, List.cons.injEq] at htriple
        exact absurd htriple.2.1 he
      | cons c t =>
        rw [List.cons_append, List.cons.injEq] at htriple
        exact absurd htriple.1 (ne_of_isVerbatim (h c (List.mem_cons_self ..))).1
    · rfl
  rw [hline, escapedLine_of_isVerbatim h]
  rfl

/-- A run goes as far as the next character that ends one. -/
theorem run_append {t : List Char} (h : ∀ c ∈ t, endsRun c = false) {e : Char}
    (he : endsRun e = true) (s : List Char) : run (t ++ e :: s) = (t, e :: s) := by
  have hnot : ∀ c ∈ t, (!endsRun c) = true := fun c hc => by rw [h c hc, Bool.not_false]
  rw [run, List.takeWhile_append_of_pos hnot, List.dropWhile_append_of_pos hnot,
    List.takeWhile_cons_of_neg (by simp [he]), List.dropWhile_cons_of_neg (by simp [he]),
    List.append_nil]

/-- A date does not begin with a letter. -/
theorem date?_of_isAsciiLetter {c : Char} (hc : isAsciiLetter c = true) (s : List Char) :
    Moment.date? (c :: s) = none := by
  have hascii : isAscii c = true :=
    TypeName.isAscii_of_isIdentifierPart
      (by simp only [TypeName.isIdentifierPart, TypeName.isIdentifierStart, hc, Bool.true_or])
  have hdigit : isAsciiDigit c = false :=
    forall_of_isAscii (fun c => isAsciiLetter c = true → isAsciiDigit c = false) (by decide)
      hascii hc
  cases s with
  | nil => rfl
  | cons d s => simp [Moment.date?, Moment.twoDigits?, hdigit]

/-- A word is one token, if it begins with a letter. -/
theorem first?_word {c : Char} (hc : isAsciiLetter c = true) {t : List Char}
    (ht : ∀ d ∈ t, endsRun d = false) {e : Char} (he : endsRun e = true) (s : List Char) :
    first? c (t ++ e :: s) = some (.bare (c :: t), e :: s) := by
  have hrun : datedRun c (t ++ e :: s) = (c :: t, e :: s) := by
    unfold datedRun
    rw [run_append ht he]
    -- Only behind a date does a run go on after a space.
    split
    · next h =>
      simp only [Prod.mk.injEq, List.cons.injEq] at h
      obtain ⟨rfl, rfl, rfl⟩ := h
      rw [date?_of_isAsciiLetter hc]
      rfl
    · next h =>
      simp only [Prod.mk.injEq] at h
      rw [h.1, h.2]
  unfold first?
  split
  case h_10 => rw [hrun]
  all_goals exact absurd hc (by decide)

/-! ## Lines -/

namespace Reader

/-- Reads the tokens of a text. -/
def read? (r : Reader) (s : List Char) : Option Reader :=
  (tokens? s).bind fun ts => ts.foldlM feed? r

theorem read?_nil (r : Reader) : r.read? [] = some r := by
  rw [read?, tokens?]
  rfl

/-- A space between tokens does not count. -/
theorem read?_space (r : Reader) (s : List Char) : r.read? (' ' :: s) = r.read? s := by
  rw [read?, tokens?, if_pos (by decide), read?]

/-- The first token of a text takes the reader on. -/
theorem read?_first {r r' : Reader} {c : Char} {s rest : List Char} {t : Token}
    (hc : c ≠ ' ' ∧ c ≠ '\t' ∧ c ≠ '#') (h : first? c s = some (t, rest))
    (hr : r.feed? t = some r') : r.read? (c :: s) = r'.read? rest := by
  obtain ⟨hspace, htab, hcomment⟩ := hc
  rw [read?, tokens?, if_neg (by simp [hspace, htab]), if_neg hcomment]
  split
  · next hnone => simp [h] at hnone
  · next t' rest' hsome =>
    rw [h, Option.some.injEq, Prod.mk.injEq] at hsome
    obtain ⟨rfl, rfl⟩ := hsome
    rw [read?]
    cases tokens? rest with
    | none => rfl
    | some ts =>
      rw [Option.map_some, Option.bind_some, Option.bind_some, List.foldlM_cons, hr]
      rfl

theorem ne_of_isAsciiLetter {c : Char} (h : isAsciiLetter c = true) :
    c ≠ ' ' ∧ c ≠ '\t' ∧ c ≠ '#' := by
  refine ⟨?_, ?_, ?_⟩ <;> rintro rfl <;> exact absurd h (by decide)

/-- A word is one token. -/
theorem read?_word {r r' : Reader} {c : Char} (hc : isAsciiLetter c = true) {t : List Char}
    (ht : ∀ d ∈ t, endsRun d = false) (hr : r.feed? (.bare (c :: t)) = some r') {e : Char}
    (he : endsRun e = true) (s : List Char) :
    r.read? (c :: (t ++ e :: s)) = r'.read? (e :: s) :=
  read?_first (ne_of_isAsciiLetter hc) (first?_word hc ht he s) hr

variable {before : List Statement} {c : Char} {t : List Char} {path : List String} {name : String}

/-- A line with a key and its text. -/
theorem read?_assignment (hc : isAsciiLetter c = true) (ht : ∀ d ∈ t, endsRun d = false)
    (hkey : Key.ofTokens? [.bare (c :: t)] = some (path, name)) {text : List Char}
    (htext : ∀ d ∈ text, isVerbatim d = true) (s : List Char) :
    read? ⟨before, .line⟩ (c :: (t ++ ' ' :: '=' :: ' ' :: quoted text ('\n' :: s))) =
      read? ⟨.assign path name (.text (String.ofList text)) :: before, .line⟩ s := by
  have hequals : feed? ⟨before, .key [.bare (c :: t)]⟩ .equals =
      some ⟨before, .value (.statement path name)⟩ := by
    simp only [feed?, List.reverse_singleton, hkey]
    rfl
  calc
    read? ⟨before, .line⟩ (c :: (t ++ ' ' :: '=' :: ' ' :: quoted text ('\n' :: s)))
      = read? ⟨before, .key [.bare (c :: t)]⟩ ('=' :: ' ' :: quoted text ('\n' :: s)) :=
        (read?_word hc ht rfl (by decide) _).trans (read?_space _ _)
    _ = read? ⟨before, .value (.statement path name)⟩ (quoted text ('\n' :: s)) :=
        (read?_first (by decide) rfl hequals).trans (read?_space _ _)
    _ = read? ⟨.assign path name (.text (String.ofList text)) :: before, .lineEnd⟩ ('\n' :: s) :=
        read?_first (by decide) (first?_quoted htext (by decide) s) rfl
    _ = read? ⟨.assign path name (.text (String.ofList text)) :: before, .line⟩ s :=
        read?_first (by decide) rfl rfl

/-- The header of one more table of several. -/
theorem read?_header (hc : isAsciiLetter c = true) (ht : ∀ d ∈ t, endsRun d = false)
    (hkey : Key.ofTokens? [.bare (c :: t)] = some (path, name)) (s : List Char) :
    read? ⟨before, .line⟩ ('[' :: '[' :: c :: (t ++ ']' :: ']' :: '\n' :: s)) =
      read? ⟨.tables path name :: before, .line⟩ s := by
  have hclose : feed? ⟨before, .header true [.bare (c :: t)]⟩ (.closeBracket true) =
      some ⟨.tables path name :: before, .headerEnd⟩ := by
    simp only [feed?, List.reverse_singleton, hkey]
    rfl
  calc
    read? ⟨before, .line⟩ ('[' :: '[' :: c :: (t ++ ']' :: ']' :: '\n' :: s))
      = read? ⟨before, .headerStart⟩ ('[' :: c :: (t ++ ']' :: ']' :: '\n' :: s)) :=
        read?_first (by decide) rfl rfl
    _ = read? ⟨before, .header true []⟩ (c :: (t ++ ']' :: ']' :: '\n' :: s)) :=
        read?_first (by decide) rfl rfl
    _ = read? ⟨before, .header true [.bare (c :: t)]⟩ (']' :: ']' :: '\n' :: s) :=
        read?_word hc ht rfl (by decide) _
    _ = read? ⟨.tables path name :: before, .headerEnd⟩ (']' :: '\n' :: s) :=
        read?_first (by decide) rfl hclose
    _ = read? ⟨.tables path name :: before, .lineEnd⟩ ('\n' :: s) :=
        read?_first (by decide) rfl rfl
    _ = read? ⟨.tables path name :: before, .line⟩ s :=
        read?_first (by decide) rfl rfl

/-- An empty line. -/
theorem read?_emptyLine (s : List Char) :
    read? ⟨before, .line⟩ ('\n' :: s) = read? ⟨before, .line⟩ s :=
  read?_first (by decide) rfl rfl

end Reader

/-! ## Whole texts -/

/-- The text is whole lines, and these are their statements. -/
def Lines (s : List Char) (statements : List Statement) : Prop :=
  ∀ before rest, Reader.read? ⟨before, .line⟩ (s ++ rest) =
    Reader.read? ⟨statements.reverse ++ before, .line⟩ rest

namespace Lines

theorem append {s t : List Char} {first second : List Statement} (hs : Lines s first)
    (ht : Lines t second) : Lines (s ++ t) (first ++ second) := by
  intro before rest
  rw [List.append_assoc, hs, ht, List.reverse_append, List.append_assoc]

theorem flatMap {α : Type} {text : α → List Char} {statements : α → List Statement} {l : List α}
    (h : ∀ x ∈ l, Lines (text x) (statements x)) :
    Lines (l.flatMap text) (l.flatMap statements) := by
  induction l with
  | nil => exact fun before rest => rfl
  | cons x l ih =>
    rw [List.flatMap_cons, List.flatMap_cons]
    exact (h x (List.mem_cons_self ..)).append (ih fun y hy => h y (List.mem_cons_of_mem _ hy))

end Lines

/-- Lines that all end in a newline stay as they are. -/
theorem unifyLines_of_notMem {s : List Char} (h : '\r' ∉ s) : unifyLines s = s := by
  induction s with
  | nil => rfl
  | cons c s ih =>
    rw [List.mem_cons, not_or] at h
    rw [unifyLines, ih h.2]
    intro _ hc
    exact absurd hc.symm h.1

/-- The statements of a text are those of its lines. -/
theorem statements?_of_lines {text : String} {statements : List Statement}
    (hreturn : '\r' ∉ text.toList) (hmark : text.toList.head? ≠ some '\ufeff')
    (h : Lines text.toList statements) : statements? text = some statements := by
  have hread : Reader.start.read? text.toList = some ⟨statements.reverse, .line⟩ := by
    have hlines := h [] []
    rwa [List.append_nil, List.append_nil, Reader.read?_nil] at hlines
  -- The tokens are read first, and then the statements.
  obtain ⟨ts, hts, hfold⟩ := Option.bind_eq_some_iff.mp hread
  unfold statements?
  split
  · next htext => simp [htext] at hmark
  · simp only [unifyLines_of_notMem hreturn, hts, hfold, Option.bind_eq_bind, Option.bind_some,
      Reader.finish?, List.reverse_reverse]

end SchemaGen.Toml
