import SchemaGen.Text.Basic

/-!
# Imports

An import binds one symbol of one module.  The imports of a document form a set, kept in
ascending order of module and then symbol, so what is rendered does not depend on the order in
which the imports were needed.

* `Import.Before`: the order.
* `ImportSet`: an ascending list of imports; `ImportSet.insert` keeps it ascending.
* `ImportSet.mem_insert`: insertion adds the import and nothing else.
* `ImportSet.contains`, `ImportSet.add`: looking for an import at its place, and inserting it there
  with the answer whether it is new.
* `ImportSet.render`: the import statements of a set.
-/

namespace SchemaGen

/-- A symbol that a generated module imports. -/
structure Import where
  /-- The imported symbol. -/
  symbol : String
  /-- The module that it comes from. -/
  module : String
  deriving DecidableEq, Repr

namespace Import

/-- The import of a schema from the module next to the importing one. -/
def sibling (schema : String) : Import :=
  ⟨schema, "./" ++ schema⟩

/-- The import statement, without an end of line. -/
def statement (i : Import) : String :=
  "import \x7b " ++ i.symbol ++ " \x7d from '" ++ i.module ++ "';"

/-- The order of imports: by module, then by symbol. -/
def Before (a b : Import) : Prop :=
  a.module < b.module ∨ a.module = b.module ∧ a.symbol < b.symbol

instance : DecidableRel Before := fun a b => by unfold Before; infer_instance

theorem before_irrefl (a : Import) : ¬ Before a a := by
  rintro (h | ⟨-, h⟩)
  · exact String.lt_irrefl _ h
  · exact String.lt_irrefl _ h

theorem before_trans {a b c : Import} (hab : Before a b) (hbc : Before b c) : Before a c := by
  rcases hab with hab | ⟨hab, hab'⟩ <;> rcases hbc with hbc | ⟨hbc, hbc'⟩
  · exact .inl (String.lt_trans hab hbc)
  · exact .inl (hbc ▸ hab)
  · exact .inl (hab ▸ hbc)
  · exact .inr ⟨hab.trans hbc, String.lt_trans hab' hbc'⟩

theorem before_of_not_before {a b : Import} (hab : ¬ Before a b) (hne : a ≠ b) : Before b a := by
  unfold Before at hab ⊢
  by_cases hm : a.module = b.module
  · by_cases hs : a.symbol = b.symbol
    · exact absurd (by cases a; cases b; simp_all) hne
    · refine .inr ⟨hm.symm, ?_⟩
      exact Std.lt_of_le_of_ne (String.not_lt.1 fun h => hab (.inr ⟨hm, h⟩)) (Ne.symm hs)
  · refine .inl ?_
    exact Std.lt_of_le_of_ne (String.not_lt.1 fun h => hab (.inl h)) (Ne.symm hm)

end Import

/-- A set of imports, as the list of its members in ascending order. -/
structure ImportSet where
  /-- The members. -/
  toList : List Import
  /-- No member comes before an earlier one, and none is repeated. -/
  ascending : toList.Pairwise Import.Before
  deriving DecidableEq, Repr

namespace ImportSet

/-- Puts an import at its place in an ascending list that does not have it. -/
def place (i : Import) : List Import → List Import
  | [] => [i]
  | j :: rest =>
    if i = j then j :: rest
    else if Import.Before i j then i :: j :: rest
    else j :: place i rest

theorem mem_place {i j : Import} {l : List Import} : j ∈ place i l ↔ j = i ∨ j ∈ l := by
  induction l with
  | nil => simp [place]
  | cons k l ih =>
    unfold place
    split
    · next h => subst h; simp
    · split
      · simp
      · simp only [List.mem_cons, ih]
        constructor <;> rintro (h | h | h) <;> simp [h]

theorem ascending_place {i : Import} {l : List Import} (h : l.Pairwise Import.Before) :
    (place i l).Pairwise Import.Before := by
  induction l with
  | nil => simp [place]
  | cons k l ih =>
    obtain ⟨hk, hl⟩ := List.pairwise_cons.1 h
    unfold place
    split
    · exact h
    · next hne =>
      split
      · next hb =>
        refine List.pairwise_cons.2 ⟨?_, h⟩
        intro x hx
        rcases List.mem_cons.1 hx with rfl | hx
        · exact hb
        · exact Import.before_trans hb (hk x hx)
      · next hb =>
        refine List.pairwise_cons.2 ⟨?_, ih hl⟩
        intro x hx
        rcases mem_place.1 hx with rfl | hx
        · exact Import.before_of_not_before hb hne
        · exact hk x hx

/-- Whether an import is missing from an ascending list.  It is looked for as far as its place, and
nothing behind this is compared. -/
def isMissing (i : Import) : List Import → Bool
  | [] => true
  | j :: rest =>
    if i = j then false
    else if Import.Before i j then true
    else isMissing i rest

theorem isMissing_iff {i : Import} {l : List Import} (h : l.Pairwise Import.Before) :
    isMissing i l = true ↔ i ∉ l := by
  induction l with
  | nil => simp [isMissing]
  | cons k l ih =>
    obtain ⟨hk, hl⟩ := List.pairwise_cons.1 h
    unfold isMissing
    split
    · next heq => simp [heq]
    · next hne =>
      split
      · next hb =>
        -- What follows the place of the import comes after it, and so is another one.
        have hrest : i ∉ l := fun hi => Import.before_irrefl i (Import.before_trans hb (hk i hi))
        simp [hne, hrest]
      · simp [hne, ih hl]

/-- The set without members. -/
def empty : ImportSet :=
  ⟨[], .nil⟩

/-- The set with one more member; a member that it has already changes nothing. -/
def insert (s : ImportSet) (i : Import) : ImportSet :=
  ⟨place i s.toList, ascending_place s.ascending⟩

instance : Membership Import ImportSet :=
  ⟨fun s i => i ∈ s.toList⟩

instance (i : Import) (s : ImportSet) : Decidable (i ∈ s) :=
  inferInstanceAs (Decidable (i ∈ s.toList))

/-- Insertion adds the import and nothing else. -/
@[simp] theorem mem_insert {i j : Import} {s : ImportSet} : j ∈ s.insert i ↔ j = i ∨ j ∈ s :=
  mem_place

/-- Whether an import is a member. -/
def contains (s : ImportSet) (i : Import) : Bool :=
  !isMissing i s.toList

/-- Inserts an import, and tells whether the set did not have it before. -/
def add (s : ImportSet) (i : Import) : Bool × ImportSet :=
  (isMissing i s.toList, s.insert i)

@[simp] theorem contains_iff {i : Import} {s : ImportSet} : s.contains i = true ↔ i ∈ s := by
  have hmissing : isMissing i s.toList = true ↔ ¬ i ∈ s := isMissing_iff s.ascending
  rw [contains, Bool.not_eq_true', Bool.eq_false_iff, ne_eq, hmissing, Decidable.not_not]

@[simp] theorem add_fst_iff {i : Import} {s : ImportSet} : (s.add i).1 = true ↔ i ∉ s :=
  isMissing_iff s.ascending

@[simp] theorem add_snd (s : ImportSet) (i : Import) : (s.add i).2 = s.insert i := rfl

/-- The set with several more members. -/
def insertAll (s : ImportSet) (is : List Import) : ImportSet :=
  is.foldl insert s

/-- The set of the members of a list. -/
def ofList (is : List Import) : ImportSet :=
  empty.insertAll is

/-- The number of members. -/
def size (s : ImportSet) : Nat :=
  s.toList.length

/-- The import statements in ascending order. -/
def statements (s : ImportSet) : List String :=
  s.toList.map Import.statement

/-- The import statements in ascending order, each on a line of its own. -/
def render (s : ImportSet) : String :=
  Text.unlines s.statements

end ImportSet

end SchemaGen
