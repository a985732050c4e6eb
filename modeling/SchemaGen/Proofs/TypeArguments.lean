import SchemaGen.Proofs.Signatures

/-!
# Signatures with several type arguments

Of several type arguments the reader of signatures sees what follows the last separator.  If the
last argument has no package, that is more than this argument: the comma before it is read along,
and the signature is refused.  If the last argument has one, its dot comes after the comma, and the
argument is taken for the element type.

* `SeveralArguments`: signatures with at least two type arguments.
* `SeveralArguments.comma_mem_segment`, `SeveralArguments.segment_of_package_ne_nil`: what is read
  of them.
* `SeveralArguments.malformed_iff_unqualified`: which of them are refused.
-/

namespace SchemaGen

open Text TypeExpression

/-- A signature with at least two type arguments.  Each but the last is followed by a comma and, if
it is told so, by a space. -/
structure SeveralArguments where
  /-- The type that has the arguments. -/
  container : TypePath
  /-- The arguments before the last, and whether a space follows the comma. -/
  front : List (TypePath × Bool)
  /-- The last argument. -/
  last : TypePath
  front_ne_nil : front ≠ []

namespace SeveralArguments

variable (type : SeveralArguments)

/-- What follows an argument that is not the last. -/
def comma (spaced : Bool) : String :=
  if spaced then ", " else ","

/-- An argument with its comma. -/
def argumentText (argument : TypePath × Bool) : String :=
  argument.1.text ++ comma argument.2

/-- The arguments before the last, with their commas. -/
def frontText : String :=
  String.join (type.front.map argumentText)

/-- The signature. -/
def text : String :=
  type.container.text ++ "<" ++ type.frontText ++ type.last.text ++ ">"

/-- What precedes the closing bracket. -/
def head : List Char :=
  type.container.text.toList ++ '<' :: (type.frontText.toList ++ type.last.text.toList)

theorem toList_text : type.text.toList = type.head ++ '>' :: [] := by
  simp [text, head]

/-! ## The characters of a signature -/

/-- A character of the arguments. -/
def isArgumentChar (c : Char) : Bool :=
  TypePath.isPathChar c || c = ',' || c = ' '

theorem isArgumentChar_of_isPathChar {c : Char} (h : TypePath.isPathChar c = true) :
    isArgumentChar c = true := by
  rw [isArgumentChar, h]
  rfl

theorem isArgumentChar_of_mem_comma :
    ∀ spaced : Bool, ∀ c ∈ (comma spaced).toList, isArgumentChar c = true := by
  decide

theorem isArgumentChar_of_mem_argumentText (argument : TypePath × Bool) :
    ∀ c ∈ (argumentText argument).toList, isArgumentChar c = true := by
  intro c hc
  rw [argumentText, String.toList_append, List.mem_append] at hc
  rcases hc with hc | hc
  · exact isArgumentChar_of_isPathChar (argument.1.isPathChar_of_mem_text c hc)
  · exact isArgumentChar_of_mem_comma argument.2 c hc

theorem isArgumentChar_of_mem_frontText :
    ∀ c ∈ type.frontText.toList, isArgumentChar c = true := by
  unfold frontText
  generalize type.front = front
  induction front with
  | nil => simp
  | cons argument front ih =>
    intro c hc
    rw [List.map_cons, String.join_cons, String.toList_append, List.mem_append] at hc
    rcases hc with hc | hc
    · exact isArgumentChar_of_mem_argumentText argument c hc
    · exact ih c hc

theorem exists_comma (spaced : Bool) : ∃ space, (comma spaced).toList = ',' :: space ∧
    ∀ c ∈ space, c = ' ' := by
  cases spaced with
  | false => exact ⟨[], rfl, by simp⟩
  | true => exact ⟨[' '], rfl, by simp⟩

/-- After the last comma there is at most a space. -/
theorem exists_frontText : ∃ before space, type.frontText.toList = before ++ ',' :: space ∧
    ∀ c ∈ space, c = ' ' := by
  rcases List.eq_nil_or_concat type.front with hnil | ⟨front, argument, hfront⟩
  · exact absurd hnil type.front_ne_nil
  · obtain ⟨space, hcomma, hspace⟩ := exists_comma argument.2
    refine ⟨(String.join (front.map argumentText)).toList ++ argument.1.text.toList, space, ?_,
      hspace⟩
    rw [frontText, hfront, List.concat_eq_append, List.map_append]
    simp [argumentText, hcomma]

theorem isArgumentChar_of_mem_head {c : Char} (h : c ∈ type.head) (hc : c ≠ '<') :
    isArgumentChar c = true := by
  rw [head, List.mem_append, List.mem_cons, List.mem_append] at h
  rcases h with h | h | h | h
  · exact isArgumentChar_of_isPathChar (type.container.isPathChar_of_mem_text c h)
  · exact absurd h hc
  · exact type.isArgumentChar_of_mem_frontText c h
  · exact isArgumentChar_of_isPathChar (type.last.isPathChar_of_mem_text c h)

/-- Only one bracket is opened. -/
theorem count_head : type.head.count '<' = 1 := by
  have hfront : type.frontText.toList.count '<' = 0 := by
    refine List.count_eq_zero.mpr fun h => ?_
    exact absurd (type.isArgumentChar_of_mem_frontText _ h) (by decide)
  rw [head, List.count_append, List.count_cons_self, List.count_append, count_path, count_path,
    hfront]

/-! ## What is read -/

/-- What stands between the last separator and the closing bracket. -/
def segment : List Char :=
  afterLast isSeparator type.head

theorem elementOf_text : TypeName.elementOf type.text =
    if TypeName.isCollection (String.ofList (trim type.segment)) then
      .error (.recursiveCollection (String.ofList (trim type.segment)))
    else if TypeName.isIdentifier (String.ofList (trim type.segment)) then
      .ok (String.ofList (trim type.segment))
    else .error (.malformedSignature type.text
      (.notATypeName (String.ofList (trim type.segment)))) := by
  have hmem : ∃ c ∈ type.head, isSeparator c = true := ⟨'<', by simp [head], by decide⟩
  rw [elementOf_of_separator type.toList_text List.not_mem_nil hmem, count_head,
    if_neg (Nat.lt_irrefl 1)]
  rfl

/-- A last argument with a package is read without it. -/
theorem segment_of_package_ne_nil (h : type.last.package ≠ []) :
    type.segment = type.last.name.toList := by
  obtain ⟨lead, hlead⟩ := TypePath.exists_lead h
  have hhead : type.head = (type.container.text.toList ++ '<' :: (type.frontText.toList ++
      lead.toList)) ++ '.' :: type.last.name.toList := by
    simp [head, hlead]
  rw [segment, hhead]
  exact afterLast_append_cons (isSeparator_of_mem_name type.last) (by decide)

/-- A last argument without a package is read together with the comma before it. -/
theorem comma_mem_segment (h : type.last.package = []) : ',' ∈ type.segment := by
  obtain ⟨before, space, hfront, hspace⟩ := type.exists_frontText
  have hafter : ∀ c ∈ ',' :: (space ++ type.last.name.toList), isSeparator c = false := by
    intro c hc
    rw [List.mem_cons, List.mem_append] at hc
    rcases hc with rfl | hc | hc
    · decide
    · rw [hspace c hc]
      decide
    · exact isSeparator_of_mem_name type.last c hc
  have hhead : type.head = (type.container.text.toList ++ '<' :: before) ++
      ',' :: (space ++ type.last.name.toList) := by
    simp [head, hfront, TypePath.text_of_package_eq_nil h]
  rw [segment, hhead, afterLast_append hafter]
  exact List.mem_append_right _ (List.mem_cons_self ..)

theorem isArgumentChar_of_mem_segment {c : Char} (h : c ∈ type.segment) :
    isArgumentChar c = true := by
  refine type.isArgumentChar_of_mem_head (subset_afterLast c h) ?_
  rintro rfl
  exact absurd (not_of_mem_afterLast _ h) (by decide)

theorem isAscii_of_isArgumentChar {c : Char} (h : isArgumentChar c = true) : isAscii c = true := by
  rw [isArgumentChar, TypePath.isPathChar, Bool.or_eq_true, Bool.or_eq_true, Bool.or_eq_true,
    decide_eq_true_iff, decide_eq_true_iff, decide_eq_true_iff] at h
  rcases h with ((h | rfl) | rfl) | rfl
  · exact TypeName.isAscii_of_isIdentifierPart h
  · decide
  · decide
  · decide

/-- A text of arguments with a comma names no collection. -/
theorem isCollection_of_comma_mem {text : String}
    (hchars : ∀ c ∈ text.toList, isArgumentChar c = true) (hdot : '.' ∉ text.toList)
    (hcomma : ',' ∈ text.toList) : TypeName.isCollection text = false := by
  have hopen : '<' ∉ text.toList := fun h => absurd (hchars _ h) (by decide)
  have hsimple : (TypeName.simple text).toList = trim text.toList := by
    rw [TypeName.toList_simple]
    exact afterLast_of_forall (decide_eq_false_of_notMem fun h => hdot (mem_of_mem_trim h))
  have hlower : (lowered (TypeName.simple text)).toList = (trim text.toList).map Char.toLower := by
    rw [lowered, hsimple, String.toList_ofList]
    exact TypeName.lowerFrom_of_isAscii
      (fun c hc => isAscii_of_isArgumentChar (hchars c (mem_of_mem_trim hc))) false
  refine Bool.eq_false_iff.mpr fun h => ?_
  rcases (TypeName.isCollection_of_notMem hopen).mp h with hending | hlist
  · exact absurd (hchars _ (mem_of_mem_trim (hending.subset (List.mem_cons_self ..)))) (by decide)
  · have hnames : ∀ name ∈ TypeName.collectionNames, ',' ∉ name.toList := by decide
    refine hnames _ hlist ?_
    rw [hlower]
    exact List.mem_map.mpr ⟨',', mem_trim hcomma (by decide), rfl⟩

/-- A signature whose last argument has a package is read like one with that argument alone. -/
theorem elementOf_of_package_ne_nil (h : type.last.package ≠ []) : TypeName.elementOf type.text =
    if type.last.IsCollection then .error (.recursiveCollection type.last.name)
    else .ok type.last.name := by
  have hblank := TypeName.isBlank_of_mem_of_isIdentifier type.last.name_isIdentifier
  have hname : String.ofList (trim type.segment) = type.last.name := by
    rw [type.segment_of_package_ne_nil h, trim_of_forall hblank, String.ofList_toList]
  rw [elementOf_text, hname, type.last.isCollection_name, type.last.name_isIdentifier, if_pos rfl]
  simp only [decide_eq_true_iff]

/-- A signature whose last argument has no package is refused. -/
theorem elementOf_of_package_eq_nil (h : type.last.package = []) : TypeName.elementOf type.text =
    .error (.malformedSignature type.text
      (.notATypeName (String.ofList (trim type.segment)))) := by
  rw [elementOf_text]
  generalize hname : String.ofList (trim type.segment) = name
  have htrim : name.toList = trim type.segment := by
    rw [← hname, String.toList_ofList]
  have hcomma : ',' ∈ name.toList := by
    rw [htrim]
    exact mem_trim (type.comma_mem_segment h) (by decide)
  have hchars : ∀ c ∈ name.toList, isArgumentChar c = true := by
    intro c hc
    rw [htrim] at hc
    exact type.isArgumentChar_of_mem_segment (mem_of_mem_trim hc)
  have hdot : '.' ∉ name.toList := by
    intro hc
    rw [htrim] at hc
    exact absurd (not_of_mem_afterLast _ (mem_of_mem_trim hc)) (by decide)
  have hidentifier : TypeName.isIdentifier name = false := by
    refine Bool.eq_false_iff.mpr fun hidentifier => ?_
    exact TypeName.notMem_of_isIdentifier hidentifier (by decide) hcomma
  rw [isCollection_of_comma_mem hchars hdot hcomma, hidentifier, if_neg Bool.false_ne_true,
    if_neg Bool.false_ne_true]

/-- A signature with several type arguments, however many and with or without spaces after the
commas, is refused exactly if the last argument has no package.  If it has one, its name is taken
for the element type of the signature, the other arguments notwithstanding. -/
theorem malformed_iff_unqualified :
    ((∃ fault, TypeName.elementOf type.text = .error (.malformedSignature type.text fault)) ↔
      type.last.package = []) ∧
    (type.last.package ≠ [] → TypeName.elementOf type.text =
      if type.last.IsCollection then .error (.recursiveCollection type.last.name)
      else .ok type.last.name) := by
  refine ⟨⟨?_, fun h => ⟨_, type.elementOf_of_package_eq_nil h⟩⟩, type.elementOf_of_package_ne_nil⟩
  rintro ⟨fault, h⟩
  by_contra hpackage
  rw [type.elementOf_of_package_ne_nil hpackage] at h
  split at h
  · simp at h
  · simp at h

/-- A map from keys to labels, with all of them in one package. -/
def sampleMap (package : List String) (h : ∀ s ∈ package, TypeName.isIdentifier s = true) :
    SeveralArguments :=
  ⟨⟨package, "Map", h, by decide⟩, [(⟨package, "Key", h, by decide⟩, true)],
    ⟨package, "Label", h, by decide⟩, List.cons_ne_nil _ _⟩

theorem malformed_iff_unqualified_sample :
    (sampleMap [] (by decide)).text = "Map<Key, Label>" ∧
      (∃ fault, TypeName.elementOf (sampleMap [] (by decide)).text =
        .error (.malformedSignature (sampleMap [] (by decide)).text fault)) ∧
      (sampleMap ["com", "acme"] (by decide)).last.package ≠ [] ∧
      TypeName.elementOf (sampleMap ["com", "acme"] (by decide)).text = .ok "Label" := by
  have hpackage : (sampleMap ["com", "acme"] (by decide)).last.package ≠ [] := by decide
  refine ⟨by decide, (malformed_iff_unqualified (sampleMap [] _)).1.mpr rfl, hpackage, ?_⟩
  exact (malformed_iff_unqualified (sampleMap ["com", "acme"] _)).2 hpackage

/-- None of the type arguments is a collection, and the signature is accepted all the same. -/
theorem accepts_qualified_last :
    (sampleMap ["com", "acme"] (by decide)).text = "com.acme.Map<com.acme.Key, com.acme.Label>" ∧
      (∀ argument ∈ (sampleMap ["com", "acme"] (by decide)).front,
        ¬ argument.1.IsCollection) ∧
      ¬ (sampleMap ["com", "acme"] (by decide)).last.IsCollection ∧
      TypeName.elementOf "com.acme.Map<com.acme.Key, com.acme.Label>" = .ok "Label" ∧
      ¬ ∃ fault, TypeName.elementOf "com.acme.Map<com.acme.Key, com.acme.Label>" =
        .error (.malformedSignature "com.acme.Map<com.acme.Key, com.acme.Label>" fault) := by
  have helement :
      TypeName.elementOf "com.acme.Map<com.acme.Key, com.acme.Label>" = .ok "Label" := by
    decide
  refine ⟨by decide, by decide, by decide, helement, ?_⟩
  rintro ⟨fault, h⟩
  rw [helement] at h
  exact absurd h (by simp)

end SeveralArguments

end SchemaGen
