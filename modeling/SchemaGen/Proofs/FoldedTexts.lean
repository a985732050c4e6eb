import SchemaGen.Proofs.Identifiers
import SchemaGen.Proofs.TextCuts

/-!
# Texts without regard to the case of ASCII letters

Folding puts the ASCII capitals of a text into lower case and leaves all other characters alone, so
two texts differ in nothing but the case of ASCII letters iff they fold to the same text.  Most of
the characters that the rules for names ask about are no letters, and of letters the rules ask both
cases alike.  Hence the cuts at such characters commute with folding, what is asked of the pieces is
answered alike, and the lowercase form of a text, in the sense of Unicode, does not show whether the
text was folded before.

* `fold`, `folded`: the folding of characters and of texts.
* `toLower_cases`: a character stays as it is, or a capital becomes a small letter.
* `CaseBlind`: the classes that have both cases of a letter or neither, with `caseBlind_eq` for a
  single character that is no letter.
* `takeWhile_fold`, `afterLast_fold`, `uptoFirst_fold`, `splitLast?_fold`, `trim_fold`,
  `stripSuffix?_fold`: the cuts of a folded text.
* `lowered_folded`: the lowercase form of a folded text.
-/

namespace SchemaGen.Text

/-- The text with its ASCII capitals in lower case. -/
def fold (s : List Char) : List Char :=
  s.map Char.toLower

/-- The text with its ASCII capitals in lower case. -/
def folded (text : String) : String :=
  String.ofList (fold text.toList)

theorem toList_folded (text : String) : (folded text).toList = fold text.toList :=
  String.toList_ofList

theorem folded_ofList (s : List Char) : folded (String.ofList s) = String.ofList (fold s) := by
  rw [folded, String.toList_ofList]

/-! ## One character -/

theorem toLower_of_not_isAscii {c : Char} (h : isAscii c = false) : c.toLower = c := by
  have hle : ¬ c.toNat < 128 := by simpa [isAscii] using h
  have hZ : 'Z'.val.toNat = 90 := rfl
  unfold Char.toLower
  rw [dif_neg]
  intro hc
  have hcapital : c.toNat ≤ 'Z'.val.toNat := UInt32.le_iff_toNat_le.mp hc.2
  omega

/-- What relates every character to itself and the ASCII characters to their small forms relates
every character to its small form. -/
theorem toLower_induction (P : Char → Char → Prop) (hself : ∀ c, P c c)
    (hascii : ∀ n : Fin 128, P (Char.ofNat n) (Char.ofNat n).toLower) (c : Char) :
    P c c.toLower := by
  cases h : isAscii c with
  | true => exact forall_of_isAscii (fun c => P c c.toLower) hascii h
  | false =>
    rw [toLower_of_not_isAscii h]
    exact hself c

/-- A character stays as it is, or a capital becomes a small letter. -/
theorem toLower_cases (c : Char) :
    c.toLower = c ∨ isAsciiLetter c = true ∧ isAsciiLetter c.toLower = true :=
  toLower_induction (fun c d => d = c ∨ isAsciiLetter c = true ∧ isAsciiLetter d = true)
    (fun _ => .inl rfl) (by decide) c

/-- Nothing but the character itself is folded to one that is no letter. -/
theorem toLower_eq_iff {c d : Char} (hd : isAsciiLetter d = false) : c.toLower = d ↔ c = d := by
  have hletter : ∀ x, isAsciiLetter x = true → x ≠ d := by
    rintro x hx rfl
    exact Bool.false_ne_true (hd.symm.trans hx)
  rcases toLower_cases c with hsame | ⟨hc, hlower⟩
  · rw [hsame]
  · exact iff_of_false (hletter _ hlower) (hletter _ hc)

/-- The class has both cases of a letter, or neither. -/
def CaseBlind (p : Char → Bool) : Prop :=
  ∀ c, p c.toLower = p c

theorem CaseBlind.comp {p : Char → Bool} (h : CaseBlind p) : p ∘ Char.toLower = p :=
  funext h

theorem CaseBlind.not {p : Char → Bool} (h : CaseBlind p) : CaseBlind fun c => !p c :=
  fun c => congrArg Bool.not (h c)

theorem CaseBlind.or {p q : Char → Bool} (hp : CaseBlind p) (hq : CaseBlind q) :
    CaseBlind fun c => p c || q c := by
  intro c
  show (p c.toLower || q c.toLower) = (p c || q c)
  rw [hp c, hq c]

theorem caseBlind_eq {d : Char} (hd : isAsciiLetter d = false) :
    CaseBlind fun c => decide (c = d) :=
  fun _ => decide_eq_decide.mpr (toLower_eq_iff hd)

theorem caseBlind_isBlank : CaseBlind isBlank :=
  toLower_induction (fun c d => isBlank d = isBlank c) (fun _ => rfl) (by decide)

/-! ## Cuts -/

section Cuts

variable {p : Char → Bool} {s : List Char}

theorem takeWhile_fold (h : CaseBlind p) : (fold s).takeWhile p = fold (s.takeWhile p) := by
  rw [fold, List.takeWhile_map, h.comp, fold]

theorem dropWhile_fold (h : CaseBlind p) : (fold s).dropWhile p = fold (s.dropWhile p) := by
  rw [fold, List.dropWhile_map, h.comp, fold]

theorem reverse_fold (s : List Char) : (fold s).reverse = fold s.reverse :=
  List.map_reverse.symm

theorem uptoFirst_fold (h : CaseBlind p) : uptoFirst p (fold s) = fold (uptoFirst p s) :=
  takeWhile_fold h.not

theorem afterLast_fold (h : CaseBlind p) : afterLast p (fold s) = fold (afterLast p s) := by
  unfold afterLast
  rw [reverse_fold, takeWhile_fold h.not, reverse_fold]

theorem trim_fold (s : List Char) : trim (fold s) = fold (trim s) := by
  unfold trim strip
  rw [dropWhile_fold caseBlind_isBlank, reverse_fold, dropWhile_fold caseBlind_isBlank,
    reverse_fold]

theorem splitLast?_fold (h : CaseBlind p) :
    splitLast? p (fold s) =
      (splitLast? p s).map fun parts => (fold parts.1, parts.2.1.toLower, fold parts.2.2) := by
  unfold splitLast?
  rw [reverse_fold, dropWhile_fold h.not]
  cases s.reverse.dropWhile fun c => !p c with
  | nil => rfl
  | cons c front =>
    show some ((fold front).reverse, c.toLower, afterLast p (fold s)) = _
    rw [reverse_fold, afterLast_fold h]
    rfl

variable {c : Char} {t : List Char}

theorem count_fold (hc : isAsciiLetter c = false) : (fold s).count c = s.count c := by
  have hclass : ((· == c) ∘ Char.toLower) = (· == c) := by
    funext d
    rw [Function.comp_apply, Bool.eq_iff_iff, beq_iff_eq, beq_iff_eq]
    exact toLower_eq_iff hc
  rw [fold, List.count_eq_countP, List.countP_map, hclass, List.count_eq_countP]

theorem contains_fold (hc : isAsciiLetter c = false) : (fold s).contains c = s.contains c := by
  have hpos : ∀ l : List Char, l.contains c = decide (0 < l.count c) := by
    intro l
    rw [List.contains_eq_mem, decide_eq_decide, List.count_pos_iff]
  rw [hpos, hpos, count_fold hc]

/-- Nothing but the text itself is folded to one without letters. -/
theorem fold_eq_iff (ht : ∀ c ∈ t, isAsciiLetter c = false) : fold s = t ↔ s = t := by
  induction s generalizing t with
  | nil => rfl
  | cons c s ih =>
    cases t with
    | nil => exact iff_of_false (List.cons_ne_nil _ _) (List.cons_ne_nil _ _)
    | cons d t =>
      have hfirst := toLower_eq_iff (c := c) (ht d (List.mem_cons_self ..))
      have hrest := ih fun x hx => ht x (List.mem_cons_of_mem _ hx)
      show c.toLower :: fold s = d :: t ↔ _
      rw [List.cons.injEq, List.cons.injEq, hfirst, hrest]

theorem isSuffixOf_fold (ht : ∀ c ∈ t, isAsciiLetter c = false) :
    t.isSuffixOf (fold s) = t.isSuffixOf s := by
  rw [Bool.eq_iff_iff, List.isSuffixOf_iff_suffix, List.isSuffixOf_iff_suffix, fold,
    List.suffix_map_iff]
  constructor
  · rintro ⟨ending, hending, heq⟩
    obtain rfl := (fold_eq_iff ht).mp heq.symm
    exact hending
  · intro h
    exact ⟨t, h, ((fold_eq_iff ht).mpr rfl).symm⟩

theorem stripSuffix?_fold (ht : ∀ c ∈ t, isAsciiLetter c = false) :
    stripSuffix? t (fold s) = (stripSuffix? t s).map fold := by
  have hlength : (fold s).length = s.length := List.length_map ..
  unfold stripSuffix?
  rw [isSuffixOf_fold ht, hlength, fold, ← List.map_take]
  cases t.isSuffixOf s with
  | false => rfl
  | true => rfl

end Cuts

/-! ## Lower case -/

theorem lowerChar_toLower (c : Char) : lowerChar c.toLower = lowerChar c :=
  toLower_induction (fun c d => lowerChar d = lowerChar c) (fun _ => rfl) (by decide +kernel) c

theorem caseBlind_isCased : CaseBlind isCased :=
  toLower_induction (fun c d => isCased d = isCased c) (fun _ => rfl) (by decide)

theorem caseBlind_isCaseIgnorable : CaseBlind isCaseIgnorable :=
  toLower_induction (fun c d => isCaseIgnorable d = isCaseIgnorable c) (fun _ => rfl) (by decide)

theorem beginsCased_fold (s : List Char) : beginsCased (fold s) = beginsCased s := by
  unfold beginsCased
  rw [dropWhile_fold caseBlind_isCaseIgnorable]
  cases s.dropWhile isCaseIgnorable with
  | nil => rfl
  | cons c rest => exact caseBlind_isCased c

/-- The lowercase form does not show whether the text was folded before. -/
theorem lowerFrom_fold (inWord : Bool) (s : List Char) :
    lowerFrom inWord (fold s) = lowerFrom inWord s := by
  induction s generalizing inWord with
  | nil => rfl
  | cons c s ih =>
    -- The capital sigma, which is no ASCII letter, is asked about before any table is.
    have hsigma : c.toLower = 'Σ' ↔ c = 'Σ' := toLower_eq_iff (by decide)
    show lowerFrom inWord (c.toLower :: fold s) = _
    simp only [lowerFrom, hsigma, beginsCased_fold, lowerChar_toLower, caseBlind_isCaseIgnorable c,
      caseBlind_isCased c, ih]

theorem lowered_folded (text : String) : lowered (folded text) = lowered text := by
  unfold lowered lower
  rw [toList_folded, lowerFrom_fold]

theorem trimmed_folded (text : String) : trimmed (folded text) = folded (trimmed text) := by
  rw [trimmed, toList_folded, trim_fold, trimmed, folded_ofList]

end SchemaGen.Text
