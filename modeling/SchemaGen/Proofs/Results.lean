/-!
# Results that are values or errors

How a result is taken apart that was put together from others, one after the other.

* `ok_bind`, `error_bind`: what follows a value, and what follows an error.
* `bind_eq_ok`, `bind_eq_error`: when a sequence succeeds, and when it fails.
* `foldlM_eq_error`: a loop fails at the first step that does.
-/

namespace SchemaGen

variable {ε α β : Type}

@[simp] theorem pure_eq_ok (a : α) : (pure a : Except ε α) = .ok a := rfl

@[simp] theorem throw_eq_error (e : ε) : (throw e : Except ε α) = .error e := rfl

@[simp] theorem ok_bind (a : α) (next : α → Except ε β) : Except.ok a >>= next = next a := rfl

@[simp] theorem error_bind (e : ε) (next : α → Except ε β) :
    Except.error e >>= next = .error e := rfl

/-- A sequence succeeds if both of its parts do. -/
theorem bind_eq_ok {first : Except ε α} {next : α → Except ε β} {b : β} :
    first >>= next = .ok b ↔ ∃ a, first = .ok a ∧ next a = .ok b := by
  cases first with
  | error e => simp
  | ok a => simp

/-- A result that is passed through a function is fine iff it was. -/
theorem map_eq_ok {f : α → β} {result : Except ε α} {b : β} :
    result.map f = .ok b ↔ ∃ a, result = .ok a ∧ f a = b := by
  cases result with
  | ok a => simp [Except.map]
  | error e => simp [Except.map]

/-- A sequence fails if its first part does, or the second after the first has succeeded. -/
theorem bind_eq_error {first : Except ε α} {next : α → Except ε β} {e : ε} :
    first >>= next = .error e ↔ first = .error e ∨ ∃ a, first = .ok a ∧ next a = .error e := by
  cases first with
  | error e => simp
  | ok a => simp

/-- A loop fails iff one of its steps does, after all steps before it have succeeded. -/
theorem foldlM_eq_error {step : β → α → Except ε β} {l : List α} {init : β} {e : ε} :
    l.foldlM step init = .error e ↔
      ∃ before a after b, l = before ++ a :: after ∧ before.foldlM step init = .ok b ∧
        step b a = .error e := by
  constructor
  · intro h
    induction l generalizing init with
    | nil => exact absurd h (by simp)
    | cons a l ih =>
      rw [List.foldlM_cons] at h
      cases hstep : step init a with
      | error e' =>
        rw [hstep, error_bind] at h
        exact ⟨[], a, l, init, rfl, rfl, hstep.trans h⟩
      | ok b =>
        rw [hstep, ok_bind] at h
        obtain ⟨before, a', after, b', rfl, hbefore, herror⟩ := ih h
        exact ⟨a :: before, a', after, b', rfl, by rw [List.foldlM_cons, hstep, ok_bind, hbefore],
          herror⟩
  · rintro ⟨before, a, after, b, rfl, hbefore, herror⟩
    rw [List.foldlM_append, hbefore, ok_bind, List.foldlM_cons, herror, error_bind]

end SchemaGen
