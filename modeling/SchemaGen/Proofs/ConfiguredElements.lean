import SchemaGen.Proofs.ElementTypes
import SchemaGen.Proofs.NeededImports
import SchemaGen.Proofs.ResolutionByDepth

/-!
# Elements of configured types

A field can tell the type of its elements apart, as an array, or as a type argument.  On each of
the three ways the element type is asked whether it is a collection before a configured expression
is looked up for it, and on no other account is it refused when it is a dotted path.  So a
configured expression comes before everything that is built in, with one exception: collections are
not elements, whatever is configured for them.

* `Field.Holds`: the fields that hold elements of a type.
* `TypeName.isCollection_simple`: a name without brackets that is a collection is one by its simple
  name.
* `Field.ofType_argument`, `Field.Holds.elementType_eq`: what such fields tell of their elements.
* `Field.resolves_configured`: what they resolve to, if the type of the elements is configured.
* `Field.refuses_configured_set`: a configured type of elements that is refused.
-/

namespace SchemaGen

open Text TypeExpression

/-! ## Names of collections -/

namespace TypeName

variable {text : String}

/-- A text whose lowercase form is the name of a collection has no blanks before it. -/
theorem eq_nil_of_lowered_mem {before rest : List Char} (hsplit : text.toList = before ++ rest)
    (hblank : ∀ c ∈ before, isBlank c = true) (h : lowered text ∈ collectionNames) :
    before = [] := by
  have hnames : ∀ name ∈ collectionNames, ∀ c ∈ name.toList, isBlank c = false := by decide
  -- A blank before the name would be kept in lower case, and no name of a collection has one.
  refine List.eq_nil_iff_forall_not_mem.mpr fun c hc => ?_
  have hlower : c ∈ (lowered text).toList := by
    rw [lowered, String.toList_ofList, hsplit, lower_append_of_isBlank hblank]
    exact List.mem_append_left _ hc
  have hnot := hnames _ h c hlower
  rw [hblank c hc] at hnot
  exact Bool.noConfusion hnot

/-- A name without brackets that is a collection is one by its simple name. -/
theorem isCollection_simple (hopen : '<' ∉ text.toList) (h : isCollection text = true) :
    isCollection (simple text) = true := by
  have hsuffix := simple_suffix text
  have hopen' : '<' ∉ (simple text).toList := fun hc => hopen (mem_of_mem_trim (hsuffix.subset hc))
  rw [isCollection_of_notMem hopen']
  rcases (isCollection_of_notMem hopen).mp h with ⟨front, hbrackets⟩ | hlist
  · have hsimple : (simple text).toList = afterLast (· = '.') front ++ "[]".toList := by
      rw [toList_simple, ← hbrackets]
      exact afterLast_append (by decide)
    rw [hsimple, trim_append_of_forall (by decide) (by decide)]
    exact .inl (List.suffix_append _ _)
  · obtain ⟨before, hsplit, hblank⟩ := exists_trim_of_suffix hsuffix
    obtain rfl := eq_nil_of_lowered_mem hsplit hblank hlist
    rw [List.nil_append] at hsplit
    have hsimple : simple (simple text) = simple text := by
      rw [← String.toList_inj, toList_simple, ← hsplit]
      exact afterLast_of_forall (decide_eq_false_of_notMem (dot_notMem_simple text))
    rw [hsimple]
    exact .inr hlist

theorem simple_dropWhile (text : String) :
    simple (String.ofList (text.toList.dropWhile isBlank)) = simple text := by
  rw [← String.toList_inj, toList_simple, toList_simple, String.toList_ofList, trim_dropWhile]

end TypeName

namespace Field

/-! ## Fields and their elements -/

/-- The field holds elements of a type: it is a collection whose element type is told apart, or it
is declared as an array of the type, or as a collection with the type as its argument. -/
inductive Holds (element : TypePath) : Field → Prop
  | told {field : Field} {text : String} : Shape.isCollectionField field = true →
      field.element = some text → trimmed text = element.text → Holds element field
  | array (name : String) : Holds element (.ofType name (element.text ++ "[]"))
  | argument (name : String) {container : String} : TypeName.isCollection container = true →
      '<' ∉ container.toList →
      Holds element (.ofType name (container ++ "<" ++ element.text ++ ">"))

/-- The field of a type with a type argument has its whole text, without blanks before it, for a
signature. -/
theorem ofType_argument (name : String) {container : String} (hopen : '<' ∉ container.toList)
    (element : TypePath) : ofType name (container ++ "<" ++ element.text ++ ">") =
      ⟨name, TypeName.simple container, TypeName.isCollection (TypeName.simple container), none,
        some (String.ofList (container.toList.dropWhile isBlank ++
          '<' :: (element.text.toList ++ ['>'])))⟩ := by
  have htext : trimmed (container ++ "<" ++ element.text ++ ">") =
      String.ofList (container.toList.dropWhile isBlank ++
        '<' :: (element.text.toList ++ ['>'])) := by
    have hblank : ∀ c ∈ '<' :: (element.text.toList ++ ['>']), isBlank c = false := by
      intro c hc
      rw [List.mem_cons, List.mem_append, List.mem_singleton] at hc
      rcases hc with rfl | hc | rfl
      · decide
      · exact element.isBlank_of_mem_text c hc
      · decide
    have hlist : (container ++ "<" ++ element.text ++ ">").toList =
        container.toList ++ '<' :: (element.text.toList ++ ['>']) := by
      simp
    rw [trimmed, hlist, trim_append_of_forall (List.cons_ne_nil _ _) hblank]
  have hbefore : ∀ c ∈ container.toList.dropWhile isBlank, decide (c = '<') = false :=
    decide_eq_false_of_notMem fun hc => hopen ((List.dropWhile_suffix _).subset hc)
  -- The text ends in another bracket than an array does.
  have hending : stripSuffix? "[]".toList (container.toList.dropWhile isBlank ++
      '<' :: (element.text.toList ++ ['>'])) = none := by
    refine stripSuffix?_eq_none ?_
    rintro ⟨front, h⟩
    have hlast := congrArg List.getLast? h
    rw [← List.cons_append, ← List.append_assoc, List.getLast?_concat] at hlast
    simp at hlast
  have houter : TypeName.outer (String.ofList (container.toList.dropWhile isBlank ++
      '<' :: (element.text.toList ++ ['>']))) =
      String.ofList (container.toList.dropWhile isBlank) := by
    rw [TypeName.outer, String.toList_ofList, uptoFirst_append_cons hbefore (decide_eq_true rfl)]
  have hmem : (container.toList.dropWhile isBlank ++
      '<' :: (element.text.toList ++ ['>'])).contains '<' = true := by
    simp
  unfold ofType
  simp only [htext, String.toList_ofList, hending, hmem, if_true, houter,
    TypeName.simple_dropWhile]

variable {element : TypePath} {field : Field} {options : Options}

/-- What such a field tells of its elements: their type, in full or by its name, or that they are
collections. -/
theorem Holds.elementType_eq (h : field.Holds element) : Shape.isCollectionField field = true ∧
    ((∃ shown, (shown = element.text ∨ shown = element.name) ∧ field.elementType = .ok shown) ∨
      element.IsCollection ∧
        field.elementType = .error (.recursiveCollection element.name)) := by
  cases h with
  | @told _ text hcollection htold htext =>
    refine ⟨hcollection, .inl ⟨element.text, .inl rfl, ?_⟩⟩
    rw [elementType, htold, ← htext]
  | array name =>
    have hfield : ofType name (element.text ++ "[]") =
        ⟨name, element.text ++ "[]", true, some element.text, none⟩ :=
      ofType_array name (named element)
    rw [hfield]
    refine ⟨rfl, .inl ⟨element.text, .inl rfl, ?_⟩⟩
    have htext := trimmed_of_forall element.isBlank_of_mem_text
    simp only [elementType, htext]
  | @argument name container hcontainer hopen =>
    rw [ofType_argument name hopen]
    refine ⟨?_, ?_⟩
    · rw [Shape.isCollectionField, TypeName.isCollection_simple hopen hcontainer, Bool.true_or]
    · have hlead : '<' ∉ container.toList.dropWhile isBlank :=
        fun hc => hopen ((List.dropWhile_suffix _).subset hc)
      have htype := elementOf_argument element hlead String.toList_ofList
      simp only [elementType, htype]
      by_cases helement : element.IsCollection
      · exact .inr ⟨helement, if_pos helement⟩
      · exact .inl ⟨element.name, .inr rfl, if_neg helement⟩

/-! ## Configured elements -/

/-- A field that holds elements of a configured type is an array of the expression, unless the type
is a collection. -/
theorem Holds.ofField_eq (h : field.Holds element)
    (hdeclared : options.overrideFor field.simpleType = none) {expression : String}
    (hconfigured : options.overrideFor element.name = some expression) :
    ∃ shown, (shown = element.text ∨ shown = element.name) ∧ Shape.ofField options field =
      if element.IsCollection then .error (.recursiveCollection shown)
      else .ok (.collection (.override expression)) := by
  obtain ⟨hcollection, ⟨shown, hshown, htype⟩ | ⟨helement, htype⟩⟩ := h.elementType_eq
  · refine ⟨shown, hshown, ?_⟩
    have hscalar := Shape.ofScalar_eq_ok.mpr (.override hconfigured)
    rw [Shape.ofField_of_isCollectionField hdeclared hcollection, htype, Except.bind,
      Shape.ofElement_of_path hshown]
    by_cases helement : element.IsCollection
    · rw [if_pos helement, if_pos helement]
      rfl
    · rw [if_neg helement, if_neg helement, hscalar]
      rfl
  · refine ⟨element.name, .inr rfl, ?_⟩
    rw [Shape.ofField_of_isCollectionField hdeclared hcollection, htype, if_pos helement]
    rfl

/-- What fields resolve to whose elements have a configured type, for all options, all types, and
each way to tell what the elements are, if the declared type of the field is not configured itself.
If the type of the elements is no collection, then the field is an array of the configured
expression, inside of any definition and outside, and imports nothing.  If it is a collection, then
the field is refused, and the type of its elements is shown, in full or by its name. -/
theorem resolves_configured (h : field.Holds element)
    (hdeclared : options.overrideFor field.simpleType = none) {expression : String}
    (hconfigured : options.overrideFor element.name = some expression) :
    (¬ element.IsCollection →
      field.resolve options = .ok ⟨"z.array(" ++ expression ++ ")", []⟩ ∧
      ∀ owner, field.resolveIn options owner = .ok ⟨"z.array(" ++ expression ++ ")", []⟩) ∧
    (element.IsCollection → ∃ shown, (shown = element.text ∨ shown = element.name) ∧
      field.resolve options = .error (.recursiveCollection shown) ∧
      ∀ owner, field.resolveIn options owner = .error (.recursiveCollection shown)) := by
  obtain ⟨shown, hshown, hshape⟩ := h.ofField_eq hdeclared hconfigured
  refine ⟨fun helement => ?_, fun helement => ⟨shown, hshown, ?_⟩⟩
  · rw [if_neg helement] at hshape
    exact resolves_of_ofField hshape
  · rw [if_pos helement] at hshape
    refine ⟨?_, fun owner => ?_⟩
    · rw [resolve, hshape]
      rfl
    · rw [resolveIn, hshape]
      rfl

/-- Dates are configured, and so are sets, which are never elements. -/
def dayOptions : Options :=
  (Options.standard.override "java.time.LocalDate" "zDay").override "Set" "z.set(z.string())"

/-- A date, by its full name. -/
def datePath : TypePath :=
  ⟨["java", "time"], "LocalDate", by decide, by decide⟩

/-- A set, by its full name. -/
def setPath : TypePath :=
  ⟨["acme"], "Set", by decide, by decide⟩

theorem resolves_configured_sample :
    (ofType "days" "java.util.List<java.time.LocalDate>").resolve dayOptions =
        .ok ⟨"z.array(zDay)", []⟩ ∧
      ∃ shown, (ofType "rows" "acme.Set[]").resolve dayOptions =
        .error (.recursiveCollection shown) := by
  have hdays : (ofType "days" "java.util.List<java.time.LocalDate>").Holds datePath :=
    @Holds.argument datePath "days" "java.util.List" (by decide +kernel) (by decide)
  have hrows : (ofType "rows" "acme.Set[]").Holds setPath :=
    .array "rows"
  have hday : dayOptions.overrideFor datePath.name = some "zDay" := by
    decide +kernel
  have hset : dayOptions.overrideFor setPath.name = some "z.set(z.string())" := by
    decide +kernel
  obtain ⟨shown, -, hrefused, -⟩ :=
    (resolves_configured hrows (by decide +kernel) hset).2 (by decide)
  exact ⟨((resolves_configured hdays (by decide +kernel) hday).1 (by decide)).1, shown, hrefused⟩

/-- What is configured for a collection is not found for the elements of another. -/
theorem refuses_configured_set :
    ¬ ∀ (options : Options) (element : TypePath) (expression : String) (field : Field),
      field.Holds element → options.overrideFor field.simpleType = none →
      options.overrideFor element.name = some expression →
      field.resolve options = .ok ⟨"z.array(" ++ expression ++ ")", []⟩ := by
  intro hfound
  have hrefused : (collection "rows" "java.util.List" "acme.Set").resolve dayOptions =
      .error (.recursiveCollection "acme.Set") := by
    decide +kernel
  have hholds : (collection "rows" "java.util.List" "acme.Set").Holds setPath :=
    .told rfl rfl (by decide)
  have hok := hfound dayOptions setPath "z.set(z.string())" _ hholds (by decide +kernel)
    (by decide +kernel)
  rw [hrefused] at hok
  exact nomatch hok

end Field

end SchemaGen
