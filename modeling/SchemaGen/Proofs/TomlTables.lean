import SchemaGen.Toml.Decoding

/-!
# Tables that are opened one after the other

A document that only has headers of several tables and keys with one name each grows at one
place: in the table that was opened last.

* `Entries.listed`: the entry of the tables under one key, if there are any.
* `Entries.openTables_listed`: a header opens one more of them.
* `Entries.descend_listed`: what is changed below the key is changed in the last of them.
* `Entries.assign_new`: a new key is added at the end.
-/

namespace SchemaGen.Toml.Entries

variable {t : Entries} {key : String}

/-- The entry of the tables under a key, if there are any. -/
def listed (key : String) : List Value → Entries
  | [] => []
  | v :: vs => [(key, .tables (v :: vs))]

theorem listed_concat (key : String) (items : List Value) (v : Value) :
    listed key (items ++ [v]) = [(key, .tables (items ++ [v]))] := by
  cases items with
  | nil => rfl
  | cons w items => rfl

/-- A key that is not in the table is set behind it. -/
theorem set_append (h : t.get? key = none) (v : Value) (s : Entries) :
    set key v (t ++ s) = t ++ set key v s := by
  induction t with
  | nil => rfl
  | cons e t ih =>
    obtain ⟨k, w⟩ := e
    rw [get?, List.lookup_eq_none_iff] at h
    have hne : key ≠ k := bne_iff_ne.mp (h (k, w) (List.mem_cons_self ..))
    have ht : get? t key = none :=
      List.lookup_eq_none_iff.mpr fun e he => h e (List.mem_cons_of_mem _ he)
    rw [List.cons_append, set, if_neg hne, ih ht, List.cons_append]

theorem get?_append (h : t.get? key = none) (s : Entries) : get? (t ++ s) key = get? s key := by
  rw [get?, get?, List.lookup_append, show t.lookup key = none from h, Option.none_or]

theorem get?_single (key : String) (v : Value) : get? [(key, v)] key = some v := by
  rw [get?, List.lookup_cons_self]

theorem set_single (key : String) (v w : Value) : set key w [(key, v)] = [(key, w)] := by
  rw [set, if_pos rfl]

/-- A new key is added at the end. -/
theorem assign_new (h : t.get? key = none) (v : Value) :
    assign [] key v .header t = some (t ++ [(key, v)]) := by
  have hset : t.set key v = t ++ [(key, v)] := by
    have happend := set_append h v []
    rwa [List.append_nil] at happend
  simp only [assign, descend, h, hset, List.isEmpty_nil, reduceCtorEq, decide_false,
    Bool.false_eq_true, if_false]

/-- A header opens one more table under its key. -/
theorem openTables_listed (h : t.get? key = none) (kind : TableKind) (items : List Value) :
    openTables [] key kind (t ++ listed key items) =
      some (t ++ listed key (items ++ [.table .header []])) := by
  rw [openTables, descend, get?_append h, set_append h, listed_concat]
  -- The first table makes the entry, the others are added to it.
  cases items with
  | nil => rfl
  | cons v items => simp only [listed, get?_single, set_append h, set_single, List.cons_append]

/-- What is changed below a key is changed in the last of its tables. -/
theorem descend_listed (h : t.get? key = none) (dotted : Bool) (change : Change)
    (path : List String) (kind inside : TableKind) (items : List Value) (inner : Entries) :
    descend dotted change (key :: path) kind (t ++ listed key (items ++ [.table inside inner])) =
      (descend dotted change path inside inner).map fun inner =>
        t ++ listed key (items ++ [.table inside inner]) := by
  rw [descend, get?_append h, listed_concat, get?_single]
  simp only [List.getLast?_concat, List.dropLast_concat, set_append h, set_single, listed_concat]

end SchemaGen.Toml.Entries
