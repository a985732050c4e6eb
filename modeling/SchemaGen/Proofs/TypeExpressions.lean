import SchemaGen.Descriptor
import SchemaGen.Proofs.Identifiers
import SchemaGen.Proofs.TextCuts

/-!
# The grammar of types

A type is written as a dotted path, as a collection with a type argument, or as an array.  The
rules that read types never parse this grammar: they look for the first bracket, the last
separator or the ending of the text.  This module says what these rules find in a text that is
written by the grammar.

* `TypePath`, `TypeExpression`: the grammar, with the text, depth and base of a type.
* `TypePath.simple_text`, `TypeExpression.isCollection_text`, `TypeExpression.elementOf_generic`:
  the questions that are asked about texts.
-/

namespace SchemaGen

open Text

/-! ## Dotted paths -/

/-- A name with the package that it is in. -/
structure TypePath where
  /-- The segments before the name. -/
  package : List String
  /-- The last segment. -/
  name : String
  package_isIdentifier : ∀ s ∈ package, TypeName.isIdentifier s = true
  name_isIdentifier : TypeName.isIdentifier name = true

namespace TypePath

/-- The segments with dots between them. -/
def text (path : TypePath) : String :=
  ".".intercalate (path.package ++ [path.name])

/-- The name is that of a collection, in any letter case. -/
def IsCollection (path : TypePath) : Prop :=
  String.ofList (path.name.toList.map Char.toLower) ∈ TypeName.collectionNames

instance : DecidablePred IsCollection :=
  fun _ => inferInstanceAs (Decidable (_ ∈ TypeName.collectionNames))

/-- The name without its package. -/
def bare (path : TypePath) : TypePath :=
  ⟨[], path.name, by simp, path.name_isIdentifier⟩

theorem text_bare (path : TypePath) : path.bare.text = path.name :=
  String.intercalate_singleton

theorem name_bare (path : TypePath) : path.bare.name = path.name :=
  rfl

/-- A character of a dotted path. -/
def isPathChar (c : Char) : Bool :=
  TypeName.isIdentifierPart c || c = '.'

theorem isPathChar_of_mem_text (path : TypePath) : ∀ c ∈ path.text.toList, isPathChar c = true := by
  have hsegments : ∀ segments : List String,
      (∀ s ∈ segments, TypeName.isIdentifier s = true) →
      ∀ c ∈ (".".intercalate segments).toList, isPathChar c = true := by
    intro segments hidentifier
    induction segments with
    | nil => simp
    | cons s segments ih =>
      have hs : ∀ c ∈ s.toList, isPathChar c = true := by
        intro c hc
        have hpart := TypeName.isIdentifierPart_of_mem (hidentifier s (List.mem_cons_self ..)) c hc
        rw [isPathChar, hpart, Bool.true_or]
      cases segments with
      | nil => simpa using hs
      | cons t segments =>
        intro c hc
        rw [String.intercalate_cons_cons, String.toList_append, String.toList_append,
          List.mem_append, List.mem_append] at hc
        rcases hc with (hc | hc) | hc
        · exact hs c hc
        · obtain rfl := List.mem_singleton.mp hc
          rfl
        · exact ih (fun t ht => hidentifier t (List.mem_cons_of_mem _ ht)) c hc
  refine hsegments _ fun s hs => ?_
  rcases List.mem_append.mp hs with hs | hs
  · exact path.package_isIdentifier s hs
  · rw [List.mem_singleton.mp hs]
    exact path.name_isIdentifier

theorem isBlank_of_isPathChar {c : Char} (h : isPathChar c = true) : isBlank c = false := by
  rw [isPathChar, Bool.or_eq_true] at h
  rcases h with h | h
  · exact TypeName.isBlank_of_isIdentifierPart h
  · rw [of_decide_eq_true h]
    decide

theorem isBlank_of_mem_text (path : TypePath) : ∀ c ∈ path.text.toList, isBlank c = false :=
  fun c hc => isBlank_of_isPathChar (path.isPathChar_of_mem_text c hc)

/-- A bracket is not in a dotted path. -/
theorem ne_of_mem_text (path : TypePath) {bracket : Char} (h : isPathChar bracket = false) :
    ∀ c ∈ path.text.toList, decide (c = bracket) = false := by
  refine decide_eq_false_of_notMem fun hmem => ?_
  rw [path.isPathChar_of_mem_text bracket hmem] at h
  exact Bool.noConfusion h

theorem text_of_package_eq_nil {path : TypePath} (h : path.package = []) :
    path.text = path.name := by
  rw [text, h]
  exact String.intercalate_singleton

/-- The name stands after the last dot. -/
theorem exists_lead {path : TypePath} (h : path.package ≠ []) :
    ∃ lead, path.text = lead ++ "." ++ path.name := by
  rw [text, String.intercalate_append_of_ne_nil h (by simp), String.intercalate_singleton]
  exact ⟨_, rfl⟩

/-- A path is its name alone or has its name after the last dot. -/
theorem text_eq (path : TypePath) :
    path.text = path.name ∨ ∃ lead, path.text = lead ++ "." ++ path.name := by
  by_cases h : path.package = []
  · exact .inl (text_of_package_eq_nil h)
  · exact .inr (exists_lead h)

theorem ne_dot_of_mem_name (path : TypePath) :
    ∀ c ∈ path.name.toList, decide (c = '.') = false :=
  decide_eq_false_of_notMem (TypeName.notMem_of_isIdentifier path.name_isIdentifier (by decide))

theorem simple_text (path : TypePath) : TypeName.simple path.text = path.name := by
  unfold TypeName.simple
  rw [trim_of_forall path.isBlank_of_mem_text]
  rcases path.text_eq with htext | ⟨lead, htext⟩
  · rw [htext, afterLast_of_forall path.ne_dot_of_mem_name, String.ofList_toList]
  · have hlist : path.text.toList = lead.toList ++ '.' :: path.name.toList := by
      rw [htext]
      simp
    rw [hlist, afterLast_append_cons path.ne_dot_of_mem_name (by decide), String.ofList_toList]

theorem simple_name (path : TypePath) : TypeName.simple path.name = path.name := by
  have h := path.bare.simple_text
  rw [path.text_bare] at h
  exact h

theorem outer_text (path : TypePath) : TypeName.outer path.text = path.text := by
  unfold TypeName.outer
  rw [uptoFirst_of_forall (path.ne_of_mem_text (by decide)), String.ofList_toList]

/-- Only its name makes a dotted path a collection. -/
theorem isCollection_text (path : TypePath) :
    TypeName.isCollection path.text = decide path.IsCollection := by
  have hsuffix : "[]".toList.isSuffixOf path.text.toList = false := by
    rw [Bool.eq_false_iff]
    intro h
    have hmem := (List.isSuffixOf_iff_suffix.mp h).subset (List.mem_cons_self ..)
    exact absurd (path.isPathChar_of_mem_text _ hmem) (by decide)
  unfold TypeName.isCollection
  simp only [trimmed_of_forall path.isBlank_of_mem_text]
  rw [hsuffix, Bool.false_or, path.outer_text, path.simple_text,
    TypeName.lowered_of_isIdentifier path.name_isIdentifier, List.contains_eq_mem]
  rfl

theorem isCollection_name (path : TypePath) :
    TypeName.isCollection path.name = decide path.IsCollection := by
  have h := path.bare.isCollection_text
  rw [path.text_bare] at h
  exact h

end TypePath

/-! ## Types -/

/-- A type. -/
inductive TypeExpression where
  | named (path : TypePath)
  /-- A collection of what its type argument tells. -/
  | generic (container : TypePath) (isCollection : container.IsCollection)
    (argument : TypeExpression)
  | array (item : TypeExpression)

namespace TypeExpression

/-- The text of a type. -/
def text : TypeExpression → String
  | named path => path.text
  | generic container _ argument => container.text ++ "<" ++ argument.text ++ ">"
  | array item => item.text ++ "[]"

/-- The number of collections and arrays around the base. -/
def depth : TypeExpression → Nat
  | named _ => 0
  | generic _ _ argument => argument.depth + 1
  | array item => item.depth + 1

/-- What is inside all collections and arrays. -/
def base : TypeExpression → TypePath
  | named path => path
  | generic _ _ argument => argument.base
  | array item => item.base

theorem mem_brackets {c : Char} (h : c ∈ "[]".toList) : c = '[' ∨ c = ']' := by
  simpa using h

theorem isBlank_of_mem_text (type : TypeExpression) :
    ∀ c ∈ type.text.toList, isBlank c = false := by
  induction type with
  | named path => exact path.isBlank_of_mem_text
  | generic container _ argument ih =>
    intro c hc
    simp only [text, String.toList_append, List.mem_append] at hc
    rcases hc with ((hc | hc) | hc) | hc
    · exact container.isBlank_of_mem_text c hc
    · obtain rfl := List.mem_singleton.mp hc
      decide
    · exact ih c hc
    · obtain rfl := List.mem_singleton.mp hc
      decide
  | array item ih =>
    intro c hc
    rw [text, String.toList_append, List.mem_append] at hc
    rcases hc with hc | hc
    · exact ih c hc
    · rcases mem_brackets hc with rfl | rfl
      · decide
      · decide

theorem trimmed_text (type : TypeExpression) : trimmed type.text = type.text :=
  trimmed_of_forall type.isBlank_of_mem_text

section Generic

variable (container : TypePath) (hcontainer : container.IsCollection) (argument : TypeExpression)

theorem toList_text_generic : (generic container hcontainer argument).text.toList =
    container.text.toList ++ '<' :: (argument.text.toList ++ ['>']) := by
  simp [text]

/-- The first bracket of a collection follows the name of the collection. -/
theorem outer_text_generic :
    TypeName.outer (generic container hcontainer argument).text = container.text := by
  unfold TypeName.outer
  rw [toList_text_generic, uptoFirst_append_cons (container.ne_of_mem_text (by decide)) (by decide),
    String.ofList_toList]

end Generic

/-- A text that ends in a pair of brackets names a collection, if it has no blanks. -/
theorem isCollection_of_suffix {name : String} (hblank : ∀ c ∈ name.toList, isBlank c = false)
    (h : "[]".toList <:+ name.toList) : TypeName.isCollection name = true := by
  unfold TypeName.isCollection
  simp only [trimmed_of_forall hblank]
  rw [List.isSuffixOf_iff_suffix.mpr h, Bool.true_or]

/-- A type is a collection if anything is around its base, or if the base is. -/
theorem isCollection_text (type : TypeExpression) :
    TypeName.isCollection type.text = true ↔ 1 ≤ type.depth ∨ type.base.IsCollection := by
  cases type with
  | named path =>
    rw [text, path.isCollection_text, decide_eq_true_iff]
    simp [depth, base]
  | generic container hcontainer argument =>
    have hname : TypeName.collectionNames.contains
        (lowered (TypeName.simple container.text)) = true := by
      rw [container.simple_text, TypeName.lowered_of_isIdentifier container.name_isIdentifier,
        List.contains_eq_mem]
      exact decide_eq_true hcontainer
    unfold TypeName.isCollection
    simp only [trimmed_text]
    rw [outer_text_generic, hname, Bool.or_true]
    simp [depth]
  | array item =>
    have hsuffix : "[]".toList <:+ (array item).text.toList := by
      rw [text, String.toList_append]
      exact List.suffix_append _ _
    rw [isCollection_of_suffix (array item).isBlank_of_mem_text hsuffix]
    simp [depth]

/-! ## Element types -/

/-- A separator between the segments of a signature. -/
def isSeparator (c : Char) : Bool :=
  c = '.' || c = '<'

/-- Without dots and opening brackets there is no separator. -/
theorem isSeparator_of_notMem {s : List Char} (hdot : '.' ∉ s) (hopen : '<' ∉ s) :
    ∀ c ∈ s, isSeparator c = false := by
  intro c hc
  rw [isSeparator, Bool.or_eq_false_iff]
  exact ⟨decide_eq_false_of_notMem hdot c hc, decide_eq_false_of_notMem hopen c hc⟩

/-- A name is not cut. -/
theorem isSeparator_of_mem_name (path : TypePath) :
    ∀ c ∈ path.name.toList, isSeparator c = false :=
  isSeparator_of_notMem (TypeName.notMem_of_isIdentifier path.name_isIdentifier (by decide))
    (TypeName.notMem_of_isIdentifier path.name_isIdentifier (by decide))

/-- What is read of a signature with a separator before its last closing bracket: the number of
opening brackets, and what stands between the two. -/
theorem elementOf_of_separator {signature : String} {head rest : List Char}
    (hsignature : signature.toList = head ++ '>' :: rest) (hrest : '>' ∉ rest)
    (hseparator : ∃ c ∈ head, isSeparator c = true) :
    TypeName.elementOf signature =
      if 1 < head.count '<' then .error (.recursiveCollection signature)
      else if TypeName.isCollection (String.ofList (trim (afterLast isSeparator head))) then
        .error (.recursiveCollection (String.ofList (trim (afterLast isSeparator head))))
      else if TypeName.isIdentifier (String.ofList (trim (afterLast isSeparator head))) then
        .ok (String.ofList (trim (afterLast isSeparator head)))
      else .error (.malformedSignature signature
        (.notATypeName (String.ofList (trim (afterLast isSeparator head))))) := by
  have hclose : splitLast? (· = '>') signature.toList = some (head, '>', rest) := by
    rw [hsignature]
    exact splitLast?_of_notMem hrest
  obtain ⟨front, c, hsplit⟩ := exists_splitLast? hseparator
  have hsplit : splitLast? (fun c => c = '.' || c = '<') head =
      some (front, c, afterLast isSeparator head) := hsplit
  unfold TypeName.elementOf
  simp only [hclose, hsplit]

/-- What is read of a collection with a type argument: whether there is another one inside, and
the segment before the last bracket. -/
theorem elementOf_text_generic (container : TypePath) (hcontainer : container.IsCollection)
    (argument : TypeExpression) {head : List Char}
    (hhead : head = container.text.toList ++ '<' :: argument.text.toList) :
    TypeName.elementOf (generic container hcontainer argument).text =
      if 1 < head.count '<' then
        .error (.recursiveCollection (generic container hcontainer argument).text)
      else if TypeName.isCollection (String.ofList (afterLast isSeparator head)) then
        .error (.recursiveCollection (String.ofList (afterLast isSeparator head)))
      else if TypeName.isIdentifier (String.ofList (afterLast isSeparator head)) then
        .ok (String.ofList (afterLast isSeparator head))
      else .error (.malformedSignature (generic container hcontainer argument).text
        (.notATypeName (String.ofList (afterLast isSeparator head)))) := by
  have hlist : (generic container hcontainer argument).text.toList = head ++ '>' :: [] := by
    rw [toList_text_generic, hhead]
    simp
  have hmem : ∃ c ∈ head, isSeparator c = true := by
    rw [hhead]
    exact ⟨'<', by simp, by decide⟩
  have hblank : ∀ c ∈ afterLast isSeparator head, isBlank c = false := by
    intro c hc
    have hc := subset_afterLast c hc
    rw [hhead, List.mem_append, List.mem_cons] at hc
    rcases hc with hc | rfl | hc
    · exact container.isBlank_of_mem_text c hc
    · decide
    · exact argument.isBlank_of_mem_text c hc
  rw [elementOf_of_separator hlist List.not_mem_nil hmem, trim_of_forall hblank]

theorem count_path (path : TypePath) : path.text.toList.count '<' = 0 := by
  refine List.count_eq_zero.mpr fun h => ?_
  exact absurd (path.isPathChar_of_mem_text _ h) (by decide)

/-- The element type of a signature whose only type argument is a plain type is the name of that
type, whatever the argument is given to. -/
theorem elementOf_argument {signature : String} {lead : List Char} (path : TypePath)
    (hlead : '<' ∉ lead) (h : signature.toList = lead ++ '<' :: (path.text.toList ++ ['>'])) :
    TypeName.elementOf signature =
      if path.IsCollection then .error (.recursiveCollection path.name) else .ok path.name := by
  have hhead : signature.toList = (lead ++ '<' :: path.text.toList) ++ '>' :: [] := by
    rw [h]
    simp
  have hmem : ∃ c ∈ lead ++ '<' :: path.text.toList, isSeparator c = true :=
    ⟨'<', by simp, by decide⟩
  have hcount : (lead ++ '<' :: path.text.toList).count '<' = 1 := by
    rw [List.count_append, List.count_cons_self, count_path, List.count_eq_zero.mpr hlead]
  have hsegment : afterLast isSeparator (lead ++ '<' :: path.text.toList) = path.name.toList := by
    have hname := isSeparator_of_mem_name path
    rcases path.text_eq with htext | ⟨package, htext⟩
    · rw [htext]
      exact afterLast_append_cons hname (by decide)
    · have hlist : lead ++ '<' :: path.text.toList =
          (lead ++ '<' :: package.toList) ++ '.' :: path.name.toList := by
        rw [htext]
        simp
      rw [hlist]
      exact afterLast_append_cons hname (by decide)
  have hblank := TypeName.isBlank_of_mem_of_isIdentifier path.name_isIdentifier
  rw [elementOf_of_separator hhead List.not_mem_nil hmem]
  simp only [hcount, hsegment, trim_of_forall hblank, String.ofList_toList, path.isCollection_name,
    path.name_isIdentifier, Nat.lt_irrefl, if_false, if_true, decide_eq_true_iff]

/-- The element type of a collection of a plain type is the name of that type. -/
theorem elementOf_generic_named (container : TypePath) (hcontainer : container.IsCollection)
    (path : TypePath) :
    TypeName.elementOf (generic container hcontainer (named path)).text =
      if path.IsCollection then .error (.recursiveCollection path.name) else .ok path.name := by
  have hopen : '<' ∉ container.text.toList :=
    fun h => absurd (container.isPathChar_of_mem_text _ h) (by decide)
  exact elementOf_argument path hopen (toList_text_generic container hcontainer (named path))

/-- A collection of collections has no element type. -/
theorem elementOf_generic_of_depth (container : TypePath) (hcontainer : container.IsCollection)
    {argument : TypeExpression} (h : 1 ≤ argument.depth) :
    ∃ type, TypeName.elementOf (generic container hcontainer argument).text =
      .error (.recursiveCollection type) := by
  rw [elementOf_text_generic container hcontainer argument rfl]
  by_cases hcount : 1 < (container.text.toList ++ '<' :: argument.text.toList).count '<'
  · rw [if_pos hcount]
    exact ⟨_, rfl⟩
  · rw [if_neg hcount]
    cases argument with
    | named path => simp [depth] at h
    | generic inner hinner rest =>
      -- The bracket of the inner collection is a second one.
      refine absurd ?_ hcount
      rw [toList_text_generic, List.count_append, List.count_cons_self, List.count_append,
        List.count_cons_self]
      omega
    | array item =>
      have hsegment : afterLast isSeparator
          (container.text.toList ++ '<' :: (array item).text.toList) =
          afterLast isSeparator (container.text.toList ++ '<' :: item.text.toList) ++
            "[]".toList := by
        rw [text, String.toList_append, ← List.cons_append, ← List.append_assoc]
        refine afterLast_append fun c hc => ?_
        rcases mem_brackets hc with rfl | rfl
        · decide
        · decide
      generalize hhead : container.text.toList ++ '<' :: (array item).text.toList = head
        at hsegment hcount ⊢
      have hblank : ∀ c ∈ (String.ofList (afterLast isSeparator head)).toList,
          isBlank c = false := by
        intro c hc
        rw [String.toList_ofList] at hc
        have hc := subset_afterLast c hc
        rw [← hhead, List.mem_append, List.mem_cons] at hc
        rcases hc with hc | rfl | hc
        · exact container.isBlank_of_mem_text c hc
        · decide
        · exact (array item).isBlank_of_mem_text c hc
      have hsuffix : "[]".toList <:+ (String.ofList (afterLast isSeparator head)).toList :=
        ⟨_, (String.toList_ofList.trans hsegment).symm⟩
      rw [isCollection_of_suffix hblank hsuffix, if_pos rfl]
      exact ⟨_, rfl⟩

end TypeExpression

end SchemaGen
