import Mathlib.Data.List.Induction
import SchemaGen.Proofs.DocumentLayout
import SchemaGen.Proofs.PropertyNames

/-!
# Fields with and without a validator

A document goes through the fields of its data transfer object one after the other.  A field that
has a validator adds a property and what the property imports; any other is recorded and adds
nothing else, so it makes no difference to the module where such fields stand, or whether there
are any.  The rest is bookkeeping of lists that are put together.

* `ImportSet.ext_mem`, `ImportSet.mem_union`: sets of imports are known by their members.
* `Document.ofDto_concat_ok`, `Document.ofDto_concat_error`: what one more field adds.
* `Document.ofDto_filter`: what the fields without a validator make of a document.
* `Document.content_eq`: the properties inside of the module.
* `Document.unmapped_leave_no_trace`: modules without these fields, and of lists put together.
-/

namespace SchemaGen

open Text

namespace Text

theorem unlines_append (lines more : List String) :
    unlines (lines ++ more) = unlines lines ++ unlines more := by
  refine String.toList_inj.mp ?_
  rw [toList_unlines_append, String.toList_append]

end Text

namespace ImportSet

variable {s t : ImportSet}

/-- Sets with the same members are equal. -/
theorem ext_mem (h : ∀ i, i ∈ s ↔ i ∈ t) : s = t := by
  have hperm : s.toList.Perm t.toList := (List.perm_ext_iff_of_nodup s.nodup t.nodup).mpr h
  have hlists : s.toList = t.toList :=
    hperm.eq_of_pairwise
      (fun i _ _ _ hij hji => absurd (Import.before_trans hij hji) (Import.before_irrefl i))
      s.ascending t.ascending
  cases s
  cases t
  congr

instance : Union ImportSet :=
  ⟨fun s t => s.insertAll t.toList⟩

@[simp] theorem mem_union {i : Import} : i ∈ s ∪ t ↔ i ∈ s ∨ i ∈ t :=
  mem_insertAll

/-- The set of two lists has the imports of both. -/
theorem ofList_append (is js : List Import) : ofList (is ++ js) = ofList is ∪ ofList js := by
  refine ext_mem fun i => ?_
  rw [mem_union, mem_ofList, mem_ofList, mem_ofList, List.mem_append]

end ImportSet

namespace Document

variable {options : Options} {name : String} {fields : List Field} {field : Field}

/-! ## One more field -/

/-- A field that has a validator adds its property and what this imports. -/
theorem ofDto_concat_ok {resolved : Resolution} (h : field.resolveIn options name = .ok resolved) :
    ofDto options ⟨name, fields ++ [field]⟩ =
      { ofDto options ⟨name, fields⟩ with
        imports := (ofDto options ⟨name, fields⟩).imports.insertAll resolved.imports
        properties := (ofDto options ⟨name, fields⟩).properties ++
          [⟨field.name, Property.writtenKey (options.propertyName field.name),
            resolved.expression⟩] } := by
  have himports : field.neededImports options name = resolved.imports := by
    rw [Field.neededImports, h]
  have hproperty := Field.toProperty?_eq_some.mpr ⟨resolved, h, rfl⟩
  have hskipped : field.toSkipped? options name = none := by
    rw [Field.toSkipped?, h]
  simp [ofDto, ImportSet.ofList, ImportSet.insertAll, himports, hproperty, hskipped]

/-- Any other field is recorded as left out, and adds nothing else. -/
theorem ofDto_concat_error {e : TypeError} (h : field.resolveIn options name = .error e) :
    ofDto options ⟨name, fields ++ [field]⟩ =
      { ofDto options ⟨name, fields⟩ with
        skipped := (ofDto options ⟨name, fields⟩).skipped ++
          [⟨field.name, field.displayType, e⟩] } := by
  have himports : field.neededImports options name = [] := by
    rw [Field.neededImports, h]
  simp [ofDto, himports, Field.toProperty?_of_error h, Field.toSkipped?_of_error h]

/-! ## All fields -/

/-- Without the fields that have no validator, a document differs only in what it records as left
out. -/
theorem ofDto_filter (options : Options) (name : String) (fields : List Field) :
    ofDto options ⟨name, fields⟩ =
      { ofDto options ⟨name, fields.filter (Field.isMapped options name)⟩ with
        skipped := (ofDto options ⟨name, fields⟩).skipped } := by
  induction fields using List.reverseRecOn with
  | nil => rfl
  | append_singleton fields field ih =>
    rw [List.filter_append]
    cases hresolved : field.resolveIn options name with
    | ok resolved =>
      have hmapped := Field.isMapped_of_ok hresolved
      rw [List.filter_cons_of_pos hmapped, List.filter_nil, ofDto_concat_ok hresolved,
        ofDto_concat_ok hresolved, ih]
    | error e =>
      have hmapped := Field.isMapped_of_error hresolved
      rw [List.filter_cons_of_neg (by simp [hmapped]), List.filter_nil, List.append_nil,
        ofDto_concat_error hresolved, ih]

theorem content_filter (options : Options) (name : String) (fields : List Field) :
    (ofDto options ⟨name, fields⟩).content =
      (ofDto options ⟨name, fields.filter (Field.isMapped options name)⟩).content := by
  rw [ofDto_filter]
  rfl

theorem imports_filter (options : Options) (name : String) (fields : List Field) :
    (ofDto options ⟨name, fields⟩).imports =
      (ofDto options ⟨name, fields.filter (Field.isMapped options name)⟩).imports := by
  rw [ofDto_filter]

/-- The properties are those of the fields that have a validator, in their order. -/
theorem map_properties (options : Options) (name : String) (fields : List Field) :
    (ofDto options ⟨name, fields⟩).properties.map (fun p => (p.field, Except.ok p.expression)) =
      (fields.filter (Field.isMapped options name)).map fun field =>
        (field.name, (field.resolveIn options name).map Resolution.expression) := by
  induction fields using List.reverseRecOn with
  | nil => rfl
  | append_singleton fields field ih =>
    rw [List.filter_append, List.map_append, ← ih]
    cases hresolved : field.resolveIn options name with
    | ok resolved =>
      have hmapped := Field.isMapped_of_ok hresolved
      rw [ofDto_concat_ok hresolved, List.map_append, List.filter_cons_of_pos hmapped,
        List.filter_nil, List.map_singleton, List.map_singleton, hresolved]
      rfl
    | error e =>
      have hmapped := Field.isMapped_of_error hresolved
      rw [ofDto_concat_error hresolved, List.filter_cons_of_neg (by simp [hmapped]),
        List.filter_nil, List.map_nil, List.append_nil]

/-- The other fields are recorded in their order, with their types and with what was wrong. -/
theorem map_skipped (options : Options) (name : String) (fields : List Field) :
    (ofDto options ⟨name, fields⟩).skipped.map (fun s => (s.name, s.type, Except.error s.error)) =
      (fields.filter fun field => !field.isMapped options name).map fun field =>
        (field.name, field.displayType, field.resolveIn options name) := by
  induction fields using List.reverseRecOn with
  | nil => rfl
  | append_singleton fields field ih =>
    rw [List.filter_append, List.map_append, ← ih]
    cases hresolved : field.resolveIn options name with
    | ok resolved =>
      have hmapped := Field.isMapped_of_ok hresolved
      rw [ofDto_concat_ok hresolved, List.filter_cons_of_neg (by simp [hmapped]), List.filter_nil,
        List.map_nil, List.append_nil]
    | error e =>
      have hmapped := Field.isMapped_of_error hresolved
      rw [ofDto_concat_error hresolved, List.map_append,
        List.filter_cons_of_pos (by simp [hmapped]), List.filter_nil, List.map_singleton,
        List.map_singleton, hresolved]

/-- Every field has a property or is recorded as left out. -/
theorem length_properties_add_skipped (options : Options) (dto : Dto) :
    (ofDto options dto).properties.length + (ofDto options dto).skipped.length =
      dto.fields.length := by
  have hproperties := congrArg List.length (map_properties options dto.name dto.fields)
  have hskipped := congrArg List.length (map_skipped options dto.name dto.fields)
  rw [List.length_map, List.length_map] at hproperties hskipped
  rw [hproperties, hskipped]
  exact (List.length_eq_length_filter_add (Field.isMapped options dto.name)).symm

/-! ## Fields put together -/

/-- The text of a module before its properties: the imports, and the opening of the schema. -/
def opening (doc : Document) : String :=
  unlines ((Import.statement ⟨coreValidator, doc.library⟩ :: doc.imports.statements) ++
    ["export const " ++ doc.schema ++ " = z.object(\x7b"])

/-- The text of the properties. -/
def body (doc : Document) : String :=
  unlines (doc.properties.map Property.line)

/-- The text after the properties: the end of the schema, and the type. -/
def closing (doc : Document) : String :=
  unlines ["\x7d);", "export type " ++ doc.dto ++ " = z.infer<typeof " ++ doc.schema ++ ">;"]

theorem content_eq (doc : Document) : doc.content = doc.opening ++ doc.body ++ doc.closing := by
  rw [opening, body, closing, ← unlines_append, ← unlines_append, content, lines]
  simp only [List.append_assoc, List.cons_append, List.nil_append]

theorem body_append (options : Options) (name : String) (a b : List Field) :
    (ofDto options ⟨name, a ++ b⟩).body =
      (ofDto options ⟨name, a⟩).body ++ (ofDto options ⟨name, b⟩).body := by
  have hproperties : (ofDto options ⟨name, a ++ b⟩).properties =
      (ofDto options ⟨name, a⟩).properties ++ (ofDto options ⟨name, b⟩).properties :=
    List.filterMap_append
  rw [body, hproperties, List.map_append, unlines_append]
  rfl

theorem imports_append (options : Options) (name : String) (a b : List Field) :
    (ofDto options ⟨name, a ++ b⟩).imports =
      (ofDto options ⟨name, a⟩).imports ∪ (ofDto options ⟨name, b⟩).imports := by
  show ImportSet.ofList ((a ++ b).flatMap _) = _
  rw [List.flatMap_append, ImportSet.ofList_append]
  rfl

/-! ## The law -/

/-- Fields that have no validator leave no trace in a module, and no other field is lost.  For all
options and all fields of a data transfer object, the text and the imports are those of the fields
that have a validator; there is a property for each of these and a record for each of the others,
both in the order of the fields.  So lists that have the same fields with a validator, wherever
others stand between them, have the same module.  In the text of two lists put together, the
properties of the first are followed by those of the second, and the imports are those of both. -/
theorem unmapped_leave_no_trace (options : Options) (name : String) :
    (∀ fields : List Field,
      (ofDto options ⟨name, fields⟩).content =
        (ofDto options ⟨name, fields.filter (Field.isMapped options name)⟩).content ∧
      (ofDto options ⟨name, fields⟩).imports =
        (ofDto options ⟨name, fields.filter (Field.isMapped options name)⟩).imports ∧
      (ofDto options ⟨name, fields⟩).properties.map Property.field =
        (fields.filter (Field.isMapped options name)).map Field.name ∧
      (ofDto options ⟨name, fields⟩).skipped.map (fun s => (s.name, s.type, Except.error s.error)) =
        (fields.filter fun field => !field.isMapped options name).map fun field =>
          (field.name, field.displayType, field.resolveIn options name)) ∧
    (∀ fields other : List Field,
      other.filter (Field.isMapped options name) = fields.filter (Field.isMapped options name) →
        (ofDto options ⟨name, other⟩).content = (ofDto options ⟨name, fields⟩).content ∧
        (ofDto options ⟨name, other⟩).imports = (ofDto options ⟨name, fields⟩).imports) ∧
    (∀ fields : List Field, (ofDto options ⟨name, fields⟩).content =
      (ofDto options ⟨name, fields⟩).opening ++ (ofDto options ⟨name, fields⟩).body ++
        (ofDto options ⟨name, fields⟩).closing) ∧
    ∀ a b : List Field,
      (ofDto options ⟨name, a ++ b⟩).body =
        (ofDto options ⟨name, a⟩).body ++ (ofDto options ⟨name, b⟩).body ∧
      (ofDto options ⟨name, a ++ b⟩).imports =
        (ofDto options ⟨name, a⟩).imports ∪ (ofDto options ⟨name, b⟩).imports := by
  refine ⟨?_, ?_, fun fields => content_eq _, ?_⟩
  · intro fields
    have hnames := congrArg (List.map Prod.fst) (map_properties options name fields)
    rw [List.map_map, List.map_map] at hnames
    exact ⟨content_filter options name fields, imports_filter options name fields, hnames,
      map_skipped options name fields⟩
  · intro fields other hsame
    rw [content_filter options name other, imports_filter options name other, hsame]
    exact ⟨(content_filter options name fields).symm, (imports_filter options name fields).symm⟩
  · intro a b
    exact ⟨body_append options name a b, imports_append options name a b⟩

/-- The fields of `sampleLines` in another company: one without a validator is gone, and others
stand elsewhere. -/
def sampleCompany : List Field :=
  [.ofType "first" "List<>", .ofType "price\nper_day" "Money",
    .ofType "tag" "Tag", .ofType "last" "Set"]

theorem unmapped_leave_no_trace_sample :
    sampleCompany.filter (Field.isMapped sampleOptions "User") =
        sampleLines.fields.filter (Field.isMapped sampleOptions "User") ∧
      (ofDto sampleOptions ⟨"User", sampleCompany⟩).content =
        (ofDto sampleOptions ⟨"User", sampleLines.fields⟩).content ∧
      (ofDto sampleOptions ⟨"User", sampleCompany⟩).properties.map Property.field =
        ["price\nper_day", "tag"] ∧
      (ofDto sampleOptions ⟨"User", sampleCompany⟩).skipped.length = 2 := by
  obtain ⟨hfields, hsame, -, -⟩ := unmapped_leave_no_trace sampleOptions "User"
  obtain ⟨-, -, hnames, hskipped⟩ := hfields sampleCompany
  have hkept : sampleCompany.filter (Field.isMapped sampleOptions "User") =
      sampleLines.fields.filter (Field.isMapped sampleOptions "User") := by decide +kernel
  refine ⟨hkept, (hsame sampleLines.fields sampleCompany hkept).1, ?_, ?_⟩
  · rw [hnames]
    decide +kernel
  · have hlength := congrArg List.length hskipped
    rw [List.length_map] at hlength
    rw [hlength]
    decide +kernel

end Document

end SchemaGen
