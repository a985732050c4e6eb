/-!
# Association lists in ascending order of their keys

A finite map whose contents are shown in the order of the keys.  `put` keeps an ascending list
ascending and replaces the value of a key that is there already.

* `lookup_put`: what is found after a `put`, in any list.
* `ascending_put`: ascending keys stay ascending, so no key is repeated.
* `lookup_eq_some_iff_mem`, `lookup_reverse_eq_some_iff`: what is found where no key is repeated,
  and where the pair that comes last counts.
-/

namespace SchemaGen.Assoc

variable {κ ν : Type} [LT κ] [DecidableLT κ] [DecidableEq κ]

/-- Sets the value of a key. -/
def put (key : κ) (value : ν) : List (κ × ν) → List (κ × ν)
  | [] => [(key, value)]
  | (k, v) :: rest =>
    if key = k then (key, value) :: rest
    else if key < k then (key, value) :: (k, v) :: rest
    else (k, v) :: put key value rest

/-- After a `put`, the key has the new value and every other key what it had. -/
theorem lookup_put [BEq κ] [LawfulBEq κ] (key other : κ) (value : ν) (l : List (κ × ν)) :
    (put key value l).lookup other = if other = key then some value else l.lookup other := by
  induction l with
  | nil =>
    by_cases h : other = key
    · simp [put, h]
    · simp [put, List.lookup_cons, h, show (other == key) = false by simpa using h]
  | cons e l ih =>
    obtain ⟨k, v⟩ := e
    unfold put
    split
    · next hk =>
      subst hk
      by_cases h : other = key
      · simp [h]
      · simp [List.lookup_cons, h, show (other == key) = false by simpa using h]
    · next hk =>
      split
      · by_cases h : other = key
        · simp [h]
        · simp [List.lookup_cons, h, show (other == key) = false by simpa using h]
      · simp only [List.lookup_cons, ih]
        by_cases h : other = key
        · subst h
          simp [show (other == k) = false by simpa using hk]
        · simp [h]

/-- The keys after a `put`. -/
theorem mem_keys_put (key other : κ) (value : ν) (l : List (κ × ν)) :
    other ∈ (put key value l).map Prod.fst ↔ other = key ∨ other ∈ l.map Prod.fst := by
  induction l with
  | nil => simp [put]
  | cons e l ih =>
    obtain ⟨k, v⟩ := e
    unfold put
    split
    · next hk => subst hk; simp
    · split
      · simp
      · simp only [List.map_cons, List.mem_cons, ih]
        constructor <;> rintro (h | h | h) <;> simp [h]

/-- Ascending keys stay ascending, for an order in which any two keys compare. -/
theorem ascending_put (trans : ∀ a b c : κ, a < b → b < c → a < c)
    (total : ∀ a b : κ, ¬ a < b → a ≠ b → b < a) (key : κ) (value : ν) {l : List (κ × ν)}
    (h : (l.map Prod.fst).Pairwise (· < ·)) :
    ((put key value l).map Prod.fst).Pairwise (· < ·) := by
  induction l with
  | nil => simp [put]
  | cons e l ih =>
    obtain ⟨k, v⟩ := e
    obtain ⟨hk, hl⟩ := List.pairwise_cons.1 h
    unfold put
    split
    · next heq => subst heq; exact h
    · next hne =>
      split
      · next hlt =>
        refine List.pairwise_cons.2 ⟨fun x hx => ?_, h⟩
        rcases List.mem_cons.1 hx with rfl | hx
        · exact hlt
        · exact trans _ _ _ hlt (hk x hx)
      · next hlt =>
        refine List.pairwise_cons.2 ⟨fun x hx => ?_, ih hl⟩
        rcases (mem_keys_put key x value l).1 hx with rfl | hx
        · exact total _ _ hlt hne
        · exact hk x hx

/-- The list with these pairs put one after the other, so that the last of a key wins. -/
def ofList (l : List (κ × ν)) : List (κ × ν) :=
  l.foldl (fun acc e => put e.1 e.2 acc) []

/-! ## Looking up in any list of pairs -/

section Lookup

variable {κ ν : Type} [BEq κ] [LawfulBEq κ] {l : List (κ × ν)} {key : κ} {value : ν}

/-- Where no key is repeated, a key has the value that it is paired with. -/
theorem lookup_eq_some_iff_mem (h : (l.map Prod.fst).Nodup) :
    l.lookup key = some value ↔ (key, value) ∈ l := by
  constructor
  · intro hlookup
    obtain ⟨before, after, rfl, -⟩ := List.lookup_eq_some_iff.mp hlookup
    exact List.mem_append_right _ (List.mem_cons_self ..)
  · intro hmem
    obtain ⟨before, after, rfl⟩ := List.append_of_mem hmem
    refine List.lookup_eq_some_iff.mpr ⟨before, after, rfl, fun e he => bne_iff_ne.mpr ?_⟩
    rw [List.map_append, List.nodup_append] at h
    exact (h.2.2 e.1 (List.mem_map_of_mem he) key (List.mem_cons_self ..)).symm

/-- In the reversed list, a key has the value that it is paired with last. -/
theorem lookup_reverse_eq_some_iff :
    l.reverse.lookup key = some value ↔
      ∃ before after, l = before ++ (key, value) :: after ∧ ∀ e ∈ after, e.1 ≠ key := by
  rw [List.lookup_eq_some_iff]
  constructor
  · rintro ⟨after, before, hl, hafter⟩
    refine ⟨before.reverse, after.reverse, ?_, fun e he => ?_⟩
    · have hl := congrArg List.reverse hl
      rw [List.reverse_reverse] at hl
      rw [hl, List.reverse_append, List.reverse_cons, List.append_assoc, List.singleton_append]
    · exact (bne_iff_ne.mp (hafter e (List.mem_reverse.mp he))).symm
  · rintro ⟨before, after, rfl, hafter⟩
    refine ⟨after.reverse, before.reverse, ?_, fun e he => bne_iff_ne.mpr ?_⟩
    · rw [List.reverse_append, List.reverse_cons, List.append_assoc, List.singleton_append]
    · exact (hafter e (List.mem_reverse.mp he)).symm

end Lookup

end SchemaGen.Assoc
