import Mathlib.Data.List.TakeWhile
import SchemaGen.Text.Lowered

/-!
# Cuts of texts that are put together

Where a text is cut that has been put together around a separator: before the first character of
a class, or before or after the last one.

* `uptoFirst_append_cons`, `afterLast_append_cons`, `splitLast?_append_cons`: the cuts at a
  separator that is the first, or the last, of its class.
* `uptoFirst_of_forall`, `afterLast_of_forall`, `splitLast?_of_forall`: the cuts of a text without
  separators.
* `exists_cut`: a text with a separator is put together around the last one.
* `trim_of_ends`, `trim_of_forall`: a text without blanks at its ends, or without any, is not
  trimmed.
-/

namespace SchemaGen.Text

variable {p : Char → Bool} {s before after : List Char} {c : Char}

theorem not_of_forall (h : ∀ x ∈ s, p x = false) : ∀ x ∈ s, (!p x) = true := by
  intro x hx
  rw [h x hx, Bool.not_false]

/-- A character that is not in a text is no character of it. -/
theorem decide_eq_false_of_notMem (h : c ∉ s) : ∀ x ∈ s, decide (x = c) = false := by
  intro x hx
  refine decide_eq_false ?_
  rintro rfl
  exact h hx

/-- A text without separators is not cut. -/
theorem uptoFirst_of_forall (h : ∀ x ∈ s, p x = false) : uptoFirst p s = s := by
  unfold uptoFirst
  exact List.takeWhile_eq_self_iff.mpr (not_of_forall h)

/-- What precedes the first separator. -/
theorem uptoFirst_append_cons (hbefore : ∀ x ∈ before, p x = false) (hc : p c = true) :
    uptoFirst p (before ++ c :: after) = before := by
  unfold uptoFirst
  rw [List.takeWhile_append_of_pos (not_of_forall hbefore), List.takeWhile_cons_of_neg (by simp [hc]),
    List.append_nil]

/-- A text without separators follows none. -/
theorem afterLast_of_forall (h : ∀ x ∈ s, p x = false) : afterLast p s = s := by
  have hcut := uptoFirst_of_forall fun x hx => h x (List.mem_reverse.mp hx)
  unfold uptoFirst at hcut
  rw [afterLast, hcut, List.reverse_reverse]

/-- What follows the last separator. -/
theorem afterLast_append_cons (hafter : ∀ x ∈ after, p x = false) (hc : p c = true) :
    afterLast p (before ++ c :: after) = after := by
  have hcut : uptoFirst p (after.reverse ++ c :: before.reverse) = after.reverse :=
    uptoFirst_append_cons (fun x hx => hafter x (List.mem_reverse.mp hx)) hc
  unfold uptoFirst at hcut
  rw [afterLast, List.reverse_append, List.reverse_cons, List.append_assoc,
    List.singleton_append, hcut, List.reverse_reverse]

/-- What follows the last separator ends like the text, as far as no separator is in it. -/
theorem afterLast_append (hafter : ∀ x ∈ after, p x = false) :
    afterLast p (before ++ after) = afterLast p before ++ after := by
  have hpos : ∀ x ∈ after.reverse, (!p x) = true :=
    not_of_forall fun x hx => hafter x (List.mem_reverse.mp hx)
  unfold afterLast
  rw [List.reverse_append, List.takeWhile_append_of_pos hpos, List.reverse_append,
    List.reverse_reverse]

theorem afterLast_suffix : afterLast p s <:+ s := by
  have hprefix := List.takeWhile_prefix (fun x => !p x) (l := s.reverse)
  unfold afterLast
  rwa [← List.reverse_prefix, List.reverse_reverse]

theorem subset_afterLast : ∀ x ∈ afterLast p s, x ∈ s :=
  fun _ hx => afterLast_suffix.subset hx

/-- No separator follows the last one. -/
theorem not_of_mem_afterLast : ∀ x ∈ afterLast p s, p x = false := by
  intro x hx
  have hpos := List.mem_takeWhile_imp (List.mem_reverse.mp hx)
  rwa [Bool.not_eq_true'] at hpos

/-- The text around its last separator. -/
theorem splitLast?_append_cons (hafter : ∀ x ∈ after, p x = false) (hc : p c = true) :
    splitLast? p (before ++ c :: after) = some (before, c, after) := by
  have hpos : ∀ x ∈ after.reverse, (!p x) = true :=
    not_of_forall fun x hx => hafter x (List.mem_reverse.mp hx)
  have hdrop : (before ++ c :: after).reverse.dropWhile (fun x => !p x) = c :: before.reverse := by
    rw [List.reverse_append, List.reverse_cons, List.append_assoc, List.singleton_append,
      List.dropWhile_append_of_pos hpos, List.dropWhile_cons_of_neg (by simp [hc])]
  unfold splitLast?
  rw [hdrop, afterLast_append_cons hafter hc]
  simp only [List.reverse_reverse]

/-- The text around the last occurrence of a character. -/
theorem splitLast?_of_notMem (h : c ∉ after) :
    splitLast? (· = c) (before ++ c :: after) = some (before, c, after) :=
  splitLast?_append_cons (decide_eq_false_of_notMem h) (decide_eq_true rfl)

/-- A text without separators is not cut around one. -/
theorem splitLast?_of_forall (h : ∀ x ∈ s, p x = false) : splitLast? p s = none := by
  have hdrop : s.reverse.dropWhile (fun x => !p x) = [] :=
    List.dropWhile_eq_nil_iff.mpr (not_of_forall fun x hx => h x (List.mem_reverse.mp hx))
  unfold splitLast?
  rw [hdrop]

/-- A text with a separator is what precedes the last one, the separator, and what follows it. -/
theorem exists_cut (h : ∃ x ∈ s, p x = true) :
    ∃ front x, p x = true ∧ s = front ++ x :: afterLast p s := by
  have hparts := List.takeWhile_append_dropWhile (p := fun x => !p x) (l := s.reverse)
  cases hdrop : s.reverse.dropWhile fun x => !p x with
  | nil =>
    obtain ⟨x, hx, hp⟩ := h
    have hnone := List.dropWhile_eq_nil_iff.mp hdrop x (List.mem_reverse.mpr hx)
    rw [hp] at hnone
    exact Bool.noConfusion hnone
  | cons x back =>
    have hx := List.head?_dropWhile_not (fun x => !p x) s.reverse
    rw [hdrop] at hx hparts
    refine ⟨back.reverse, x, by simpa using hx, ?_⟩
    have hreverse := congrArg List.reverse hparts
    rw [List.reverse_append, List.reverse_reverse, List.reverse_cons, List.append_assoc] at hreverse
    exact hreverse.symm

/-- A text with a separator is cut at one. -/
theorem exists_splitLast? (h : ∃ x ∈ s, p x = true) :
    ∃ front x, splitLast? p s = some (front, x, afterLast p s) := by
  obtain ⟨front, x, hx, hcut⟩ := exists_cut h
  have hsplit : splitLast? p (front ++ x :: afterLast p s) = some (front, x, afterLast p s) :=
    splitLast?_append_cons not_of_mem_afterLast hx
  rw [← hcut] at hsplit
  exact ⟨front, x, hsplit⟩

theorem hasInfix_iff_infix {t : List Char} : hasInfix t s = true ↔ t <:+: s := by
  rw [hasInfix_iff]
  constructor
  · rintro ⟨before, after, h⟩
    exact ⟨before, after, h.symm⟩
  · rintro ⟨before, after, h⟩
    exact ⟨before, after, h.symm⟩

/-- A text without blanks at its ends is not trimmed. -/
theorem trim_of_ends (hfirst : ∀ x, s.head? = some x → isBlank x = false)
    (hlast : ∀ x, s.getLast? = some x → isBlank x = false) : trim s = s := by
  have hdrop : ∀ l : List Char, (∀ x, l.head? = some x → isBlank x = false) →
      l.dropWhile isBlank = l := by
    intro l hl
    cases l with
    | nil => rfl
    | cons c l =>
      rw [List.dropWhile_cons_of_neg]
      rw [hl c rfl]
      exact Bool.false_ne_true
  unfold trim strip
  rw [hdrop s hfirst, hdrop s.reverse, List.reverse_reverse]
  intro x hx
  rw [List.head?_reverse] at hx
  exact hlast x hx

/-- A text without blanks is not trimmed. -/
theorem trim_of_forall (h : ∀ x ∈ s, isBlank x = false) : trim s = s :=
  trim_of_ends (fun x hx => h x (List.mem_of_head? hx)) fun x hx => h x (List.mem_of_getLast? hx)

theorem trimmed_of_forall {text : String} (h : ∀ x ∈ text.toList, isBlank x = false) :
    trimmed text = text := by
  rw [trimmed, trim_of_forall h, String.ofList_toList]

end SchemaGen.Text
