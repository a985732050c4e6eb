import SchemaGen.Proofs.TextCuts

/-!
# Texts with blanks around them

What is cut out of a text may have blanks at its ends, and some rules look at it before it is
trimmed.  There are few blank characters, and none of them has a letter case, so what the rules for
names say about a text with blanks before it follows from what they say about the rest.

* `blanks`, `mem_blanks_of_isBlank`: the blank characters, for what is checked one by one.
* `exists_trim`, `mem_trim`, `trim_trim`: a text is what trimming leaves with blanks around it, and
  nothing more is trimmed from that.
* `TrimsTo`, `trimsTo_iff`: what is left of a text without the blanks at its ends.
* `trim_append_of_forall`: what ends in a text without blanks.
* `exists_trim_of_suffix`: an ending of a trimmed text has blanks only before it.
* `lower_append_of_isBlank`, `hasInfix_append_of_isBlank`: blanks before a text.
-/

namespace SchemaGen.Text

variable {s before after : List Char}

/-! ## Blank characters -/

/-- The blank characters. -/
def blanks : List Char :=
  [' ', '\t', '\n', '\u000b', '\u000c', '\r', '\u0085', '\u00a0', '\u1680', '\u2000', '\u2001',
    '\u2002', '\u2003', '\u2004', '\u2005', '\u2006', '\u2007', '\u2008', '\u2009', '\u200a',
    '\u2028', '\u2029', '\u202f', '\u205f', '\u3000']

/-- What holds of the next `n` characters from the first one on holds of a range within them. -/
theorem forall_of_range (P : Char → Prop) {first last : Char} (n : Nat)
    (hlength : last.toNat < first.toNat + n)
    (h : ∀ i : Fin n, P (Char.ofNat (first.toNat + i))) {c : Char}
    (hfirst : first ≤ c) (hlast : c ≤ last) : P c := by
  have hfirst : first.toNat ≤ c.toNat := UInt32.le_iff_toNat_le.mp hfirst
  have hlast : c.toNat ≤ last.toNat := UInt32.le_iff_toNat_le.mp hlast
  have hc := h ⟨c.toNat - first.toNat, by omega⟩
  simp only [Nat.add_sub_cancel' hfirst] at hc
  rwa [Char.ofNat_toNat] at hc

theorem mem_blanks_of_isBlank {c : Char} (h : isBlank c = true) : c ∈ blanks := by
  have hcontrols : '\t' ≤ c → c ≤ '\r' → c ∈ blanks :=
    forall_of_range (· ∈ blanks) 5 (by decide) (by decide)
  have hspaces : '\u2000' ≤ c → c ≤ '\u200a' → c ∈ blanks :=
    forall_of_range (· ∈ blanks) 11 (by decide) (by decide)
  simp only [isBlank, Bool.or_eq_true, Bool.and_eq_true, decide_eq_true_eq] at h
  rcases h with (((((((((rfl | ⟨hfirst, hlast⟩) | rfl) | rfl) | rfl) | ⟨hfirst, hlast⟩) | rfl) |
    rfl) | rfl) | rfl) | rfl
  · decide
  · exact hcontrols hfirst hlast
  · decide
  · decide
  · decide
  · exact hspaces hfirst hlast
  · decide
  · decide
  · decide
  · decide
  · decide

/-- A blank is its own lowercase form, and takes no part in casing. -/
theorem lowerChar_of_isBlank {c : Char} (h : isBlank c = true) :
    lowerChar c = [c] ∧ c ≠ 'Σ' ∧ isCased c = false := by
  have hall : ∀ c ∈ blanks, lowerChar c = [c] ∧ c ≠ 'Σ' ∧ isCased c = false := by
    decide +kernel
  exact hall c (mem_blanks_of_isBlank h)

/-! ## Trimming -/

theorem trim_append_left (h : ∀ c ∈ before, isBlank c = true) : trim (before ++ s) = trim s := by
  unfold trim strip
  rw [List.dropWhile_append_of_pos h]

theorem trim_append_right (h : ∀ c ∈ after, isBlank c = true) : trim (s ++ after) = trim s := by
  unfold trim strip
  rw [List.dropWhile_append]
  cases hdrop : s.dropWhile isBlank with
  | nil => simp [List.dropWhile_eq_nil_iff.mpr h]
  | cons c rest =>
    rw [List.isEmpty_cons, if_neg Bool.false_ne_true, List.reverse_append,
      List.dropWhile_append_of_pos fun c hc => h c (List.mem_reverse.mp hc)]

theorem trim_dropWhile (s : List Char) : trim (s.dropWhile isBlank) = trim s := by
  have hsplit := List.takeWhile_append_dropWhile (p := isBlank) (l := s)
  have hblank : ∀ c ∈ s.takeWhile isBlank, isBlank c = true := fun c hc =>
    List.mem_takeWhile_imp hc
  rw [← trim_append_left hblank, hsplit]

/-- What ends in a text without blanks is trimmed in front only. -/
theorem trim_append_of_forall {kept : List Char} (hne : kept ≠ [])
    (h : ∀ c ∈ kept, isBlank c = false) : trim (s ++ kept) = s.dropWhile isBlank ++ kept := by
  have hdrop : ∀ (t : List Char), (∀ c ∈ t, isBlank c = false) → t ≠ [] → ∀ more,
      (t ++ more).dropWhile isBlank = t ++ more := by
    intro t ht hne more
    obtain ⟨c, t, rfl⟩ := List.exists_cons_of_ne_nil hne
    have hc := ht c (List.mem_cons_self ..)
    rw [List.cons_append, List.dropWhile_cons_of_neg (by simp [hc])]
  have hkept := hdrop kept h hne []
  have hback := hdrop kept.reverse (fun c hc => h c (List.mem_reverse.mp hc))
    (fun hnil => hne (List.reverse_eq_nil_iff.mp hnil))
  have hfront : (s ++ kept).dropWhile isBlank = s.dropWhile isBlank ++ kept := by
    rw [List.append_nil] at hkept
    rw [List.dropWhile_append, hkept]
    cases s.dropWhile isBlank with
    | nil => rfl
    | cons c rest => rfl
  unfold trim strip
  rw [hfront, List.reverse_append, hback, List.reverse_append, List.reverse_reverse,
    List.reverse_reverse]

/-- A text is what trimming leaves with blanks around it. -/
theorem exists_trim (s : List Char) : ∃ before after, s = before ++ trim s ++ after ∧
    (∀ c ∈ before, isBlank c = true) ∧ ∀ c ∈ after, isBlank c = true := by
  have hfront := List.takeWhile_append_dropWhile (p := isBlank) (l := s)
  have hback := List.takeWhile_append_dropWhile (p := isBlank) (l := (s.dropWhile isBlank).reverse)
  refine ⟨s.takeWhile isBlank, ((s.dropWhile isBlank).reverse.takeWhile isBlank).reverse, ?_,
    fun c hc => List.mem_takeWhile_imp hc,
    fun c hc => List.mem_takeWhile_imp (List.mem_reverse.mp hc)⟩
  unfold trim strip
  rw [List.append_assoc, ← List.reverse_append, hback, List.reverse_reverse, hfront]

theorem mem_of_mem_trim {c : Char} (h : c ∈ trim s) : c ∈ s := by
  obtain ⟨before, after, hsplit, -, -⟩ := exists_trim s
  rw [hsplit]
  exact List.mem_append_left _ (List.mem_append_right _ h)

/-- Trimming takes nothing but blanks away. -/
theorem mem_trim {c : Char} (h : c ∈ s) (hc : isBlank c = false) : c ∈ trim s := by
  obtain ⟨before, after, hsplit, hbefore, hafter⟩ := exists_trim s
  have hnot : ¬ isBlank c = true := Bool.eq_false_iff.mp hc
  rw [hsplit, List.mem_append, List.mem_append] at h
  rcases h with (h | h) | h
  · exact absurd (hbefore c h) hnot
  · exact h
  · exact absurd (hafter c h) hnot

/-- Nothing more is trimmed from what trimming leaves. -/
theorem trim_trim (s : List Char) : trim (trim s) = trim s := by
  obtain ⟨before, after, hs, hbefore, hafter⟩ := exists_trim s
  have htrim := congrArg trim hs
  rw [trim_append_right hafter, trim_append_left hbefore] at htrim
  exact htrim.symm

theorem trimmed_trimmed (text : String) : trimmed (trimmed text) = trimmed text := by
  unfold trimmed
  rw [String.toList_ofList, trim_trim]

theorem isBlank_of_getLast?_trim {c : Char} (h : (trim s).getLast? = some c) :
    isBlank c = false := by
  have hlast := List.head?_dropWhile_not isBlank (s.dropWhile isBlank).reverse
  unfold trim strip at h
  rw [List.getLast?_reverse] at h
  rw [h] at hlast
  exact hlast

theorem isBlank_of_head?_trim {c : Char} (h : (trim s).head? = some c) : isBlank c = false := by
  have hfirst := List.head?_dropWhile_not isBlank s
  have hprefix : trim s <+: s.dropWhile isBlank := by
    unfold trim strip
    rw [← List.reverse_suffix, List.reverse_reverse]
    exact List.dropWhile_suffix _
  obtain ⟨rest, hrest⟩ := hprefix
  rw [← hrest, List.head?_append, h] at hfirst
  exact hfirst

/-- What is left of a text when the blanks at its ends are taken away: there are none at its own
ends. -/
structure TrimsTo (text left : String) : Prop where
  /-- Nothing but blanks is taken away. -/
  around : ∃ before after, text.toList = before ++ left.toList ++ after ∧
    (∀ c ∈ before, isBlank c = true) ∧ ∀ c ∈ after, isBlank c = true
  /-- What is left does not begin with a blank. -/
  first : ∀ c, left.toList.head? = some c → isBlank c = false
  /-- What is left does not end with a blank. -/
  last : ∀ c, left.toList.getLast? = some c → isBlank c = false

theorem trimsTo_iff {text left : String} : TrimsTo text left ↔ left = trimmed text := by
  constructor
  · rintro ⟨⟨before, after, htext, hbefore, hafter⟩, hfirst, hlast⟩
    rw [trimmed, htext, trim_append_right hafter, trim_append_left hbefore,
      trim_of_ends hfirst hlast, String.ofList_toList]
  · rintro rfl
    have htoList : (trimmed text).toList = trim text.toList := String.toList_ofList
    refine ⟨?_, fun c hc => ?_, fun c hc => ?_⟩
    · rw [htoList]
      exact exists_trim text.toList
    · rw [htoList] at hc
      exact isBlank_of_head?_trim hc
    · rw [htoList] at hc
      exact isBlank_of_getLast?_trim hc

/-- An ending of a trimmed text has blanks only before it. -/
theorem exists_trim_of_suffix {t : List Char} (h : t <:+ trim s) :
    ∃ before, t = before ++ trim t ∧ ∀ c ∈ before, isBlank c = true := by
  obtain ⟨before, after, ht, hbefore, hafter⟩ := exists_trim t
  obtain ⟨front, hfront⟩ := h
  cases hlast : after.getLast? with
  | none =>
    rw [List.getLast?_eq_none_iff.mp hlast, List.append_nil] at ht
    exact ⟨before, ht, hbefore⟩
  | some c =>
    -- A blank at the end of the ending would be one at the end of the whole.
    have hend : (trim s).getLast? = some c := by
      rw [← hfront, ht, List.getLast?_append, List.getLast?_append, hlast]
      rfl
    have hblank := hafter c (List.mem_of_getLast? hlast)
    rw [isBlank_of_getLast?_trim hend] at hblank
    exact Bool.noConfusion hblank

/-! ## Blanks before a text -/

/-- The lowercase form of blanks and a text is the blanks and the lowercase form of the text. -/
theorem lower_append_of_isBlank (h : ∀ c ∈ before, isBlank c = true) :
    lower (before ++ s) = before ++ lower s := by
  induction before with
  | nil => rfl
  | cons c before ih =>
    obtain ⟨hlower, hsigma, hcased⟩ := lowerChar_of_isBlank (h c (List.mem_cons_self ..))
    have hinWord : (if isCaseIgnorable c = true then false else isCased c) = false := by
      rw [hcased, ite_self]
    have ih := ih fun c hc => h c (List.mem_cons_of_mem _ hc)
    unfold lower at ih ⊢
    rw [List.cons_append, lowerFrom, if_neg hsigma, hlower, hinWord, ih, List.singleton_append,
      List.cons_append]

/-- A text without blanks is not found in the blanks before another text. -/
theorem hasInfix_append_of_isBlank {t : List Char} (ht : ∀ c ∈ t, isBlank c = false)
    (h : ∀ c ∈ before, isBlank c = true) : hasInfix t (before ++ s) = hasInfix t s := by
  induction before with
  | nil => rfl
  | cons c before ih =>
    have ih := ih fun c hc => h c (List.mem_cons_of_mem _ hc)
    rw [List.cons_append, hasInfix, ih]
    cases t with
    | nil => cases s <;> rfl
    | cons first t =>
      have hne : (first == c) = false := by
        refine beq_eq_false_iff_ne.mpr ?_
        rintro rfl
        have hblank := h first (List.mem_cons_self ..)
        rw [ht first (List.mem_cons_self ..)] at hblank
        exact Bool.noConfusion hblank
      rw [List.isPrefixOf_cons_cons, hne, Bool.false_and, Bool.false_or]

end SchemaGen.Text
