import SchemaGen.Document
import SchemaGen.Proofs.Classification

/-!
# The imports that a document needs

A collection holds elements that are no collections, so every shape has one leaf, and the leaf
alone decides what a field needs.  A document imports what the leaves of its fields need, each
once, and nothing else.

* `Shape.leaf`, `Shape.Needs`: the leaf of a shape, and what it needs.
* `Shape.isScalar_leaf_of_ofField`: no collection is inside another.
* `Shape.mem_imports_resolve`: the resolution of a shape has the imports that its leaf needs.
* `Document.imports_needed`: the imports of a document.
-/

namespace SchemaGen

namespace ImportSet

theorem mem_insertAll {i : Import} {s : ImportSet} {is : List Import} :
    i ∈ s.insertAll is ↔ i ∈ s ∨ i ∈ is := by
  induction is generalizing s with
  | nil => simp [insertAll]
  | cons j is ih =>
    have hstep : s.insertAll (j :: is) = (s.insert j).insertAll is := rfl
    rw [hstep, ih, mem_insert, List.mem_cons]
    constructor
    · rintro ((h | h) | h)
      · exact .inr (.inl h)
      · exact .inl h
      · exact .inr (.inr h)
    · rintro (h | h | h)
      · exact .inl (.inr h)
      · exact .inl (.inl h)
      · exact .inr h

/-- The set of a list has the members of the list. -/
theorem mem_ofList {i : Import} {is : List Import} : i ∈ ofList is ↔ i ∈ is := by
  have hempty : i ∉ empty := List.not_mem_nil
  rw [ofList, mem_insertAll, or_iff_right hempty]

/-- No import is repeated in a set. -/
theorem nodup (s : ImportSet) : s.toList.Nodup := by
  refine s.ascending.imp ?_
  rintro i _ hbefore rfl
  exact Import.before_irrefl i hbefore

end ImportSet

/-! ## Leaves -/

namespace Shape

/-- The shape itself, or that of the elements of a collection. -/
def leaf : Shape → Shape
  | collection element => element
  | shape => shape

/-- The shape is not that of a collection. -/
def IsScalar (shape : Shape) : Prop :=
  ∀ element, shape ≠ collection element

theorem leaf_of_isScalar {shape : Shape} (h : shape.IsScalar) : shape.leaf = shape := by
  cases shape with
  | collection element => exact absurd rfl (h element)
  | _ => rfl

theorem isScalar_of_classifiedType {options : Options} {name : String} {shape : Shape}
    (h : ClassifiedType options name shape) : shape.IsScalar := by
  cases h with
  | override => exact fun _ => Shape.noConfusion
  | temporal => exact fun _ => Shape.noConfusion
  | builtIn _ _ hlookup =>
    rcases of_lookup_builtIn hlookup with ⟨kind, rfl⟩ | rfl
    · exact fun _ => Shape.noConfusion
    · exact fun _ => Shape.noConfusion
  | reference => exact fun _ => Shape.noConfusion

/-- No collection is inside another. -/
theorem isScalar_leaf_of_ofField {options : Options} {field : Field} {shape : Shape}
    (h : ofField options field = .ok shape) : shape.leaf.IsScalar := by
  cases ofField_eq_ok.mp h with
  | override => exact fun _ => Shape.noConfusion
  | collection _ _ _ _ helement => exact isScalar_of_classifiedType helement
  | scalar _ _ htype =>
    have hscalar := isScalar_of_classifiedType htype
    rw [leaf_of_isScalar hscalar]
    exact hscalar

/-! ## What a leaf needs -/

/-- What a leaf needs inside the definition of `owner`: the shared validators that it uses, and
the schema of any other type. -/
inductive Needs (options : Options) (owner : String) : Shape → Import → Prop
  | dateOnly : Needs options owner (temporal .dateOnly) ⟨dateOnlyValidator, options.helpersModule⟩
  | timeOnly : Needs options owner (temporal .timeOnly) ⟨timeOnlyValidator, options.helpersModule⟩
  | dayOfWeek : Needs options owner dayOfWeek ⟨dayOfWeekValidator, options.helpersModule⟩
  | reference (type : String) : type ≠ owner → Needs options owner (reference type)
      ⟨type ++ options.suffix, "./" ++ (type ++ options.suffix)⟩

theorem imports_resolve_leaf (options : Options) (owner : Option String) (shape : Shape) :
    (shape.resolve options owner).imports = (shape.leaf.resolve options owner).imports := by
  cases shape with
  | collection element => rfl
  | _ => rfl

/-- The resolution of a shape has the imports that its leaf needs. -/
theorem mem_imports_resolve {options : Options} {owner : String} {shape : Shape} {i : Import}
    (hscalar : shape.leaf.IsScalar) :
    i ∈ (shape.resolve options (some owner)).imports ↔ shape.leaf.Needs options owner i := by
  rw [imports_resolve_leaf]
  generalize shape.leaf = leaf at hscalar ⊢
  have hshared : ∀ validator, i ∈ (Resolution.shared options validator).imports ↔
      i = ⟨validator, options.helpersModule⟩ := fun _ => List.mem_singleton
  have hinline : ∀ expression, i ∉ (Resolution.inline expression).imports :=
    fun _ => List.not_mem_nil
  constructor
  · intro h
    cases leaf with
    | primitive kind => exact absurd h (hinline _)
    | temporal kind =>
      cases kind with
      | dateOnly =>
        obtain rfl := (hshared _).mp h
        exact .dateOnly
      | timeOnly =>
        obtain rfl := (hshared _).mp h
        exact .timeOnly
      | timestamp => exact absurd h (hinline _)
    | dayOfWeek =>
      obtain rfl := (hshared _).mp h
      exact .dayOfWeek
    | override expression => exact absurd h (hinline _)
    | reference type =>
      simp only [resolve, Option.some.injEq] at h
      split at h
      · exact absurd h (hinline _)
      · next hne =>
        obtain rfl := List.mem_singleton.mp h
        exact .reference type (Ne.symm hne)
    | collection element => exact absurd rfl (hscalar element)
  · intro h
    cases h with
    | dateOnly => exact (hshared _).mpr rfl
    | timeOnly => exact (hshared _).mpr rfl
    | dayOfWeek => exact (hshared _).mpr rfl
    | reference type hne =>
      simp only [resolve, Option.some.injEq, if_neg hne.symm]
      exact List.mem_singleton_self _

/-- What refers to the owner is deferred, and needs nothing. -/
theorem resolve_reference_self (options : Options) (owner : String) :
    (reference owner).resolve options (some owner) =
      ⟨"z.lazy((): z.ZodTypeAny => " ++ options.schemaName owner ++ ")", []⟩ := by
  rw [resolve, if_pos rfl]
  rfl

/-- Only a leaf that refers to the owner depends on the owner. -/
theorem resolve_of_leaf_ne {options : Options} {owner : String} {shape : Shape}
    (hscalar : shape.leaf.IsScalar) (h : shape.leaf ≠ .reference owner) :
    shape.resolve options (some owner) = shape.resolve options none := by
  have hleaf : ∀ leaf : Shape, leaf.IsScalar → leaf ≠ .reference owner →
      leaf.resolve options (some owner) = leaf.resolve options none := by
    intro leaf hleaf hne
    cases leaf with
    | reference type =>
      have htype : ¬ owner = type := by
        rintro rfl
        exact hne rfl
      simp [resolve, htype]
    | collection element => exact absurd rfl (hleaf element)
    | _ => rfl
  cases shape with
  | collection element => exact congrArg Resolution.array (hleaf element hscalar h)
  | _ => exact hleaf _ hscalar h

end Shape

/-! ## Fields and documents -/

theorem Field.resolveIn_eq_ok {options : Options} {owner : String} {field : Field}
    {r : Resolution} : field.resolveIn options owner = .ok r ↔
      ∃ shape, Shape.ofField options field = .ok shape ∧ shape.resolve options (some owner) = r := by
  unfold resolveIn
  cases Shape.ofField options field with
  | error e => simp [Except.map]
  | ok shape => simp [Except.map]

/-- A field resolves to what its shape does, inside of any definition and outside. -/
theorem Field.resolves_of_ofField {options : Options} {field : Field} {shape : Shape}
    (h : Shape.ofField options field = .ok shape) :
    field.resolve options = .ok (shape.resolve options none) ∧
      ∀ owner, field.resolveIn options owner = .ok (shape.resolve options (some owner)) := by
  refine ⟨?_, fun owner => Field.resolveIn_eq_ok.mpr ⟨shape, h, rfl⟩⟩
  rw [Field.resolve, h]
  rfl

/-- What a field needs is what the leaf of its shape needs. -/
theorem Field.mem_neededImports {options : Options} {owner : String} {field : Field}
    {i : Import} : i ∈ field.neededImports options owner ↔
      ∃ shape, Shape.ofField options field = .ok shape ∧ shape.leaf.Needs options owner i := by
  unfold neededImports resolveIn
  cases hshape : Shape.ofField options field with
  | error e => simp [Except.map]
  | ok shape =>
    simp only [Except.map, Shape.mem_imports_resolve (Shape.isScalar_leaf_of_ofField hshape),
      Except.ok.injEq, exists_eq_left']

namespace Document

theorem mem_imports {options : Options} {dto : Dto} {i : Import} :
    i ∈ (ofDto options dto).imports ↔ ∃ field ∈ dto.fields,
      i ∈ field.neededImports options dto.name := by
  rw [ofDto, ImportSet.mem_ofList, List.mem_flatMap]

/-- A document imports exactly what the leaves of its fields need.  A field that is left out, or
whose leaf needs nothing, makes no difference; what refers to the owner is deferred instead of
imported; and the owner makes no difference to any other field. -/
theorem imports_needed (options : Options) (dto : Dto) :
    (∀ symbol module, ⟨symbol, module⟩ ∈ (ofDto options dto).imports ↔
      ∃ field ∈ dto.fields, ∃ shape, Shape.ofField options field = .ok shape ∧
        shape.leaf.Needs options dto.name ⟨symbol, module⟩) ∧
    (∀ before field after, dto.fields = before ++ field :: after →
      (∀ shape, Shape.ofField options field = .ok shape →
        (∃ kind, shape.leaf = .primitive kind) ∨ shape.leaf = .temporal .timestamp ∨
          (∃ expression, shape.leaf = .override expression) ∨ shape.leaf = .reference dto.name) →
      (ofDto options { dto with fields := before ++ after }).imports =
        (ofDto options dto).imports) ∧
    (∀ field, Shape.ofField options field = .ok (.reference dto.name) →
      field.resolveIn options dto.name =
        .ok ⟨"z.lazy((): z.ZodTypeAny => " ++ (ofDto options dto).schema ++ ")", []⟩) ∧
    (∀ field, Shape.ofField options field = .ok (.collection (.reference dto.name)) →
      field.resolveIn options dto.name =
        .ok ⟨"z.array(" ++ ("z.lazy((): z.ZodTypeAny => " ++ (ofDto options dto).schema ++ ")") ++
          ")", []⟩) ∧
    ∀ field, (∀ shape, Shape.ofField options field = .ok shape →
        shape.leaf ≠ .reference dto.name) →
      field.resolveIn options dto.name = field.resolve options := by
  refine ⟨fun symbol module => ?_, fun before field after hfields hfree => ?_,
    fun field hshape => ?_, fun field hshape => ?_, fun field hleaf => ?_⟩
  · simp only [mem_imports, Field.mem_neededImports]
  · have hnone : field.neededImports options dto.name = [] := by
      refine List.eq_nil_iff_forall_not_mem.mpr fun i hi => ?_
      obtain ⟨shape, hshape, hneeds⟩ := Field.mem_neededImports.mp hi
      rcases hfree shape hshape with ⟨kind, hleaf⟩ | hleaf | ⟨expression, hleaf⟩ | hleaf
      · rw [hleaf] at hneeds
        cases hneeds
      · rw [hleaf] at hneeds
        cases hneeds
      · rw [hleaf] at hneeds
        cases hneeds
      · rw [hleaf] at hneeds
        cases hneeds with
        | reference type hne => exact hne rfl
    simp only [ofDto, hfields, List.flatMap_append, List.flatMap_cons, hnone, List.nil_append]
  · exact Field.resolveIn_eq_ok.mpr
      ⟨_, hshape, Shape.resolve_reference_self options dto.name⟩
  · exact Field.resolveIn_eq_ok.mpr ⟨_, hshape,
      congrArg Resolution.array (Shape.resolve_reference_self options dto.name)⟩
  · unfold Field.resolveIn Field.resolve
    cases hshape : Shape.ofField options field with
    | error e => rfl
    | ok shape =>
      exact congrArg Except.ok (Shape.resolve_of_leaf_ne (Shape.isScalar_leaf_of_ofField hshape)
        (hleaf shape hshape))

/-- Fields that refer to a type and to a shared validator. -/
def sampleFields : List Field :=
  [.ofType "tags" "List<Tag>", .ofType "day" "LocalDate"]

/-- A data transfer object with these fields that refers to itself as well. -/
def sampleNode : Dto :=
  ⟨"Node", .ofType "next" "Node" :: sampleFields⟩

theorem imports_needed_sample :
    ⟨"TagSchema", "./TagSchema"⟩ ∈ (ofDto Options.standard sampleNode).imports ∧
      Field.resolveIn Options.standard "Node" (.ofType "next" "Node") =
        .ok ⟨"z.lazy((): z.ZodTypeAny => NodeSchema)", []⟩ ∧
      (ofDto Options.standard { sampleNode with fields := sampleFields }).imports =
        (ofDto Options.standard sampleNode).imports := by
  obtain ⟨hmem, hfree, hself, -, -⟩ := imports_needed Options.standard sampleNode
  have hnext : Shape.ofField Options.standard (.ofType "next" "Node") = .ok (.reference "Node") :=
    rfl
  have htags : Shape.ofField Options.standard (.ofType "tags" "List<Tag>") =
      .ok (.collection (.reference "Tag")) := rfl
  refine ⟨?_, hself _ hnext, ?_⟩
  · refine (hmem _ _).mpr ⟨.ofType "tags" "List<Tag>", by simp [sampleNode, sampleFields], _, htags, ?_⟩
    exact .reference "Tag" (by decide)
  · refine hfree [] (.ofType "next" "Node") _ rfl fun shape hshape => ?_
    obtain rfl := Except.ok.inj (hnext.symm.trans hshape)
    exact .inr (.inr (.inr rfl))

end Document

end SchemaGen
