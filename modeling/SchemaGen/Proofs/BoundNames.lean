import SchemaGen.Proofs.JsonOutlines
import SchemaGen.Proofs.LinkedModules

/-!
# Names that a module binds

At its top level a module binds the validation library, everything that it imports, and its
schema.  Imports are told apart by their symbols together with their modules, and the symbols come
from three places: the library, the shared validators, and the names of types with the suffix of
schema names.  A suffix that completes the name of a type to one of the other symbols makes a
module bind this symbol twice.

* `Document.boundNames`: the names that a module binds.
* `Document.Clashes`: the schema of a type is named like something else that the module binds.
* `Document.nodup_boundNames_iff`: no name is bound twice iff no schema of the module clashes.
* `Document.Clashes.exists_suffix`: with which suffixes one can.
* `Document.binds_names_once`: both.
-/

namespace SchemaGen

/-- The name of a schema tells the type. -/
theorem Options.schemaName_inj {options : Options} {type other : String} :
    options.schemaName type = options.schemaName other ↔ type = other := by
  unfold schemaName
  rw [String.append_left_inj]

namespace Document

variable {options : Options} {dto : Dto} {i : Import}

/-- The value names that a module binds at its top level. -/
def boundNames (doc : Document) : List String :=
  coreValidator :: (doc.imports.toList.map Import.symbol ++ [doc.schema])

/-- The schema of a type is named like the validation library, or like a shared validator that the
document imports.  The latter does no harm if the shared validators are imported from the module of
this very schema and the type is another one, since this is one import. -/
def Clashes (options : Options) (dto : Dto) (type : String) : Prop :=
  options.schemaName type = coreValidator ∨
    ∃ i, ImportsShared options dto i ∧ i.symbol = options.schemaName type ∧
      (type = dto.name ∨ i ≠ .sibling (options.schemaName type))

/-- The names are bound once iff the library and the schema have different names, no import has
one of these, and no two imports have the same. -/
theorem nodup_boundNames_iff_imports (doc : Document) : doc.boundNames.Nodup ↔
    doc.schema ≠ coreValidator ∧
      (∀ i ∈ doc.imports, i.symbol ≠ coreValidator ∧ i.symbol ≠ doc.schema) ∧
      ∀ i ∈ doc.imports, ∀ j ∈ doc.imports, i.symbol = j.symbol → i = j := by
  have hsymbols := List.nodup_map_iff_inj_on (f := Import.symbol) doc.imports.nodup
  have hnotMem (name : String) :
      name ∉ doc.imports.toList.map Import.symbol ↔ ∀ i ∈ doc.imports, i.symbol ≠ name := by
    simp only [List.mem_map, not_exists, not_and]
    rfl
  unfold boundNames
  rw [List.nodup_cons, List.mem_append, not_or, hnotMem, List.mem_singleton,
    List.nodup_append_comm, List.singleton_append, List.nodup_cons, hnotMem, hsymbols]
  constructor
  · rintro ⟨⟨hcore, hschema⟩, hown, hinj⟩
    exact ⟨Ne.symm hschema, fun i hi => ⟨hcore i hi, hown i hi⟩, hinj⟩
  · rintro ⟨hschema, himports, hinj⟩
    exact ⟨⟨fun i hi => (himports i hi).1, Ne.symm hschema⟩, fun i hi => (himports i hi).2, hinj⟩

theorem ImportsShared.mem (h : ImportsShared options dto i) : i ∈ (ofDto options dto).imports :=
  mem_imports_iff_shared_or_sibling.mpr (.inl h)

theorem HasLeaf.sibling_mem {type : String} (h : HasLeaf options dto (.reference type))
    (hne : type ≠ dto.name) :
    .sibling (options.schemaName type) ∈ (ofDto options dto).imports :=
  mem_imports_iff_shared_or_sibling.mpr (.inr ⟨type, h, hne, rfl⟩)

/-- No shared validator is named like the validation library. -/
theorem ImportsShared.symbol_ne (h : ImportsShared options dto i) : i.symbol ≠ coreValidator := by
  have hall : ∀ name ∈ SharedValidators.names, name ≠ coreValidator := by decide
  exact hall i.symbol h.symbol_module.1

/-- Shared validators with one symbol are one import. -/
theorem ImportsShared.eq_of_symbol {j : Import} (hi : ImportsShared options dto i)
    (hj : ImportsShared options dto j) (h : i.symbol = j.symbol) : i = j := by
  obtain ⟨symbol, module⟩ := i
  obtain ⟨symbol', module'⟩ := j
  obtain rfl : symbol = symbol' := h
  obtain rfl : module = module' := hi.symbol_module.2.trans hj.symbol_module.2.symm
  rfl

/-- A module binds no name twice iff neither its own schema nor one that it refers to clashes. -/
theorem nodup_boundNames_iff : (ofDto options dto).boundNames.Nodup ↔
    ∀ type, type = dto.name ∨ HasLeaf options dto (.reference type) →
      ¬ Clashes options dto type := by
  rw [nodup_boundNames_iff_imports]
  constructor
  · rintro ⟨hschema, himports, hinj⟩ type htype hclash
    by_cases hown : type = dto.name
    · subst hown
      rcases hclash with hcore | ⟨i, hshared, hsymbol, -⟩
      · exact hschema hcore
      · exact (himports i hshared.mem).2 hsymbol
    · have hmem := (htype.resolve_left hown).sibling_mem hown
      rcases hclash with hcore | ⟨i, hshared, hsymbol, howner | hne⟩
      · exact (himports _ hmem).1 hcore
      · exact hown howner
      · exact hne (hinj i hshared.mem _ hmem hsymbol)
  · intro h
    have hown := h dto.name (.inl rfl)
    have hrefers : ∀ type, HasLeaf options dto (.reference type) → ¬ Clashes options dto type :=
      fun type hleaf => h type (.inr hleaf)
    refine ⟨fun hcore => hown (.inl hcore), fun i hi => ?_, fun i hi j hj hsymbol => ?_⟩
    · rcases mem_imports_iff_shared_or_sibling.mp hi with hshared | ⟨type, hleaf, hne, rfl⟩
      · exact ⟨hshared.symbol_ne, fun hsymbol => hown (.inr ⟨i, hshared, hsymbol, .inl rfl⟩)⟩
      · exact ⟨fun hcore => hrefers type hleaf (.inl hcore),
          fun hsymbol => hne (Options.schemaName_inj.mp hsymbol)⟩
    · -- A shared validator and a schema with one symbol are one import, or the schema clashes.
      have hmixed : ∀ i, ImportsShared options dto i → ∀ type,
          HasLeaf options dto (.reference type) → i.symbol = options.schemaName type →
          i = .sibling (options.schemaName type) := by
        intro i hshared type hleaf hsymbol
        by_contra hne
        exact hrefers type hleaf (.inr ⟨i, hshared, hsymbol, .inr hne⟩)
      rcases mem_imports_iff_shared_or_sibling.mp hi with hshared | ⟨type, hleaf, -, rfl⟩
      · rcases mem_imports_iff_shared_or_sibling.mp hj with hshared' | ⟨type, hleaf, -, rfl⟩
        · exact hshared.eq_of_symbol hshared' hsymbol
        · exact hmixed i hshared type hleaf hsymbol
      · rcases mem_imports_iff_shared_or_sibling.mp hj with hshared' | ⟨type', -, -, rfl⟩
        · exact (hmixed j hshared' type hleaf hsymbol.symm).symm
        · exact congrArg Import.sibling hsymbol

/-- A schema that clashes is named like the library or a shared validator, so the suffix of schema
names is an ending of that name. -/
theorem Clashes.exists_suffix {type : String} (h : Clashes options dto type) :
    ∃ name ∈ coreValidator :: SharedValidators.names,
      options.suffix.toList <:+ name.toList := by
  have hsuffix : options.suffix.toList <:+ (options.schemaName type).toList := by
    rw [Options.schemaName, String.toList_append]
    exact List.suffix_append _ _
  rcases h with hcore | ⟨i, hshared, hsymbol, -⟩
  · exact ⟨coreValidator, List.mem_cons_self .., hcore ▸ hsuffix⟩
  · exact ⟨i.symbol, List.mem_cons_of_mem _ hshared.symbol_module.1, hsymbol ▸ hsuffix⟩

/-- When a module binds a name twice.  For all options, and so for every configuration, and for
every data transfer object with any fields, the names of the validation library, of the imports and
of the schema are distinct iff neither the schema of the object nor that of a type that it refers
to is named like the library or like a shared validator that the module imports, unless both are
one import.  In particular they are distinct if the suffix of schema names is no ending of any of
these names. -/
theorem binds_names_once (options : Options) (dto : Dto) :
    ((ofDto options dto).boundNames.Nodup ↔
      ∀ type, type = dto.name ∨ HasLeaf options dto (.reference type) →
        ¬ Clashes options dto type) ∧
    ((∀ name ∈ coreValidator :: SharedValidators.names,
        ¬ options.suffix.toList <:+ name.toList) →
      (ofDto options dto).boundNames.Nodup) := by
  refine ⟨nodup_boundNames_iff, fun hsuffix => nodup_boundNames_iff.mpr fun type _ hclash => ?_⟩
  obtain ⟨name, hname, hending⟩ := hclash.exists_suffix
  exact hsuffix name hname hending

theorem binds_names_once_sample :
    (ofDto Options.standard sampleNode).boundNames.Nodup ∧
      ¬ Clashes Options.standard sampleNode "Tag" := by
  obtain ⟨hiff, hsuffix⟩ := binds_names_once Options.standard sampleNode
  have hnodup := hsuffix (by decide)
  have htags : Shape.ofField .standard (.ofType "tags" "List<Tag>") =
      .ok (.collection (.reference "Tag")) := rfl
  exact ⟨hnodup, hiff.mp hnodup "Tag"
    (.inr ⟨_, by simp [sampleNode, sampleFields], _, htags, rfl⟩)⟩

/-! ## A name that is bound twice -/

/-- A configuration whose suffix completes a name to that of a shared validator. -/
def completingConfig : Config :=
  { Config.standard with suffix := "Only" }

/-- A data transfer object with such a name. -/
def completedOutline : Manifest.Outline where
  name := "zDate"
  fields := [("day", "LocalDate")]
  isIdentifier_name := by decide
  isVerbatim_name := by decide
  isVerbatim_type := by decide

/-- The configuration and the object are accepted, but the module imports what it defines. -/
theorem binds_twice : completingConfig.checkUsable = .ok () ∧
    Manifest.parse "a.dto.json" (Manifest.Outline.manifestJson [completedOutline]) .json =
      .ok [completedOutline.dto] ∧
    (ofDto completingConfig.options completedOutline.dto).boundNames =
      ["z", "zDateOnly", "zDateOnly"] ∧
    ¬ (ofDto completingConfig.options completedOutline.dto).boundNames.Nodup := by
  have husable : completingConfig.checkUsable = .ok () := rfl
  have hparse := Manifest.parse_eq_ok.mpr
    ⟨Manifest.Outline.decode_manifestJson "a.dto.json" [completedOutline], by decide⟩
  have hnames : (ofDto completingConfig.options completedOutline.dto).boundNames =
      ["z", "zDateOnly", "zDateOnly"] := by
    decide +kernel
  exact ⟨husable, hparse, hnames, hnames ▸ by decide⟩

end Document

end SchemaGen
