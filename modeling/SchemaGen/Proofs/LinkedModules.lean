import SchemaGen.Proofs.MemoryPasses
import SchemaGen.Proofs.NeededImports
import SchemaGen.Proofs.RunOutputs

/-!
# Generated modules link up

What a document imports is decided by the resolution of its fields, and what a module exports and
how its file is named by the synthesis of another document, or by the text of the shared
validators and the configuration.  They agree for all names, suffixes and modules: both sides of a
reference are named by the same schema, and every shared validator that a field can use is one
that the shared module exports.

* `Document.infix_content`, `SharedValidators.infix_content`: what modules export.
* `Document.mem_imports_iff_shared_or_sibling`: the two kinds of imports.
* `Run.putHelpers_of_relative`: where the shared validators are put.
* `Sink.Accepting`: sinks that take every file.
* `Pass.links_modules`: the imports of a pass and what they are linked to.
-/

namespace SchemaGen

/-! ## What a text of lines contains -/

namespace Text

/-- A line is contained in the text of the lines. -/
theorem infix_unlines {line : String} {lines : List String} (h : line ∈ lines) :
    line.toList <:+: (unlines lines).toList := by
  obtain ⟨before, after, rfl⟩ := List.append_of_mem h
  rw [toList_unlines_append, toList_unlines_cons, ← List.append_assoc]
  exact List.infix_append _ _ _

end Text

open Text

/-! ## What modules export -/

/-- The module of a data transfer object exports its schema. -/
theorem Document.infix_content (options : Options) (dto : Dto) :
    ("export const " ++ options.schemaName dto.name ++ " = z.object(\x7b").toList <:+:
      (ofDto options dto).content.toList := by
  refine infix_unlines ?_
  show _ ∈ (ofDto options dto).lines
  unfold lines
  simp [ofDto]

namespace SharedValidators

/-- The validators that fields use. -/
def names : List String :=
  [dateOnlyValidator, timeOnlyValidator, dayOfWeekValidator]

theorem mem_lines_of_mem {options : Options} (part : List String) {line : String}
    (hpart : part ∈ [dateLines, timeLines, dayOfWeekLines]) (h : line ∈ part) :
    line ∈ lines options := by
  simp only [List.mem_cons, List.not_mem_nil, or_false] at hpart
  unfold lines
  rcases hpart with rfl | rfl | rfl
  · simp [List.intercalate, h]
  · simp [List.intercalate, h]
  · simp [List.intercalate, h]

/-- The module of the shared validators exports those that fields use. -/
theorem infix_content (options : Options) {name : String} (h : name ∈ names) :
    ("export const " ++ name ++ " = ").toList <:+: (content options).toList := by
  obtain ⟨line, hline, hstart⟩ : ∃ line ∈ lines options,
      ("export const " ++ name ++ " = ").toList <+: line.toList := by
    simp only [names, List.mem_cons, List.not_mem_nil, or_false] at h
    rcases h with rfl | rfl | rfl
    · exact ⟨_, mem_lines_of_mem dateLines (by simp) (List.mem_cons_self ..), by decide⟩
    · exact ⟨_, mem_lines_of_mem timeLines (by simp) (List.mem_cons_self ..), by decide⟩
    · exact ⟨_, mem_lines_of_mem dayOfWeekLines (by simp) (List.mem_cons_self ..),
        by decide⟩
  exact hstart.isInfix.trans (infix_unlines hline)

end SharedValidators

/-! ## What documents import -/

/-- What a leaf needs is one of the shared validators or the schema of another type. -/
theorem Shape.Needs.shared_or_sibling {options : Options} {owner : String} {leaf : Shape}
    {i : Import} (h : leaf.Needs options owner i) :
    (∀ type, leaf ≠ .reference type) ∧ i.symbol ∈ SharedValidators.names ∧
        i.module = options.helpersModule ∨
      ∃ type, leaf = .reference type ∧ type ≠ owner ∧
        i = .sibling (options.schemaName type) := by
  cases h with
  | dateOnly => exact .inl ⟨fun _ => Shape.noConfusion, by simp [SharedValidators.names], rfl⟩
  | timeOnly => exact .inl ⟨fun _ => Shape.noConfusion, by simp [SharedValidators.names], rfl⟩
  | dayOfWeek => exact .inl ⟨fun _ => Shape.noConfusion, by simp [SharedValidators.names], rfl⟩
  | reference type hne => exact .inr ⟨type, rfl, hne, rfl⟩

namespace Document

variable {options : Options} {dto : Dto} {i : Import}

/-- A field of the data transfer object has this leaf. -/
def HasLeaf (options : Options) (dto : Dto) (leaf : Shape) : Prop :=
  ∃ field ∈ dto.fields, ∃ shape, Shape.ofField options field = .ok shape ∧ shape.leaf = leaf

/-- The document imports a shared validator, for a field that does not refer to a type. -/
def ImportsShared (options : Options) (dto : Dto) (i : Import) : Prop :=
  ∃ leaf, HasLeaf options dto leaf ∧ (∀ type, leaf ≠ .reference type) ∧
    leaf.Needs options dto.name i

theorem mem_imports_iff_leaf : i ∈ (ofDto options dto).imports ↔
    ∃ leaf, HasLeaf options dto leaf ∧ leaf.Needs options dto.name i := by
  simp only [mem_imports, Field.mem_neededImports, HasLeaf]
  constructor
  · rintro ⟨field, hfield, shape, hshape, hneeds⟩
    exact ⟨_, ⟨field, hfield, shape, hshape, rfl⟩, hneeds⟩
  · rintro ⟨_, ⟨field, hfield, shape, hshape, rfl⟩, hneeds⟩
    exact ⟨field, hfield, shape, hshape, hneeds⟩

/-- A document imports shared validators, and the schemas that it refers to. -/
theorem mem_imports_iff_shared_or_sibling : i ∈ (ofDto options dto).imports ↔
    ImportsShared options dto i ∨
      ∃ type, HasLeaf options dto (.reference type) ∧ type ≠ dto.name ∧
        i = .sibling (options.schemaName type) := by
  rw [mem_imports_iff_leaf]
  constructor
  · rintro ⟨leaf, hleaf, hneeds⟩
    rcases hneeds.shared_or_sibling with ⟨hshared, -⟩ | ⟨type, rfl, hne, rfl⟩
    · exact .inl ⟨leaf, hleaf, hshared, hneeds⟩
    · exact .inr ⟨type, hleaf, hne, rfl⟩
  · rintro (⟨leaf, hleaf, -, hneeds⟩ | ⟨type, hleaf, hne, rfl⟩)
    · exact ⟨leaf, hleaf, hneeds⟩
    · exact ⟨_, hleaf, .reference type hne⟩

theorem ImportsShared.symbol_module (h : ImportsShared options dto i) :
    i.symbol ∈ SharedValidators.names ∧ i.module = options.helpersModule := by
  obtain ⟨leaf, -, hshared, hneeds⟩ := h
  rcases hneeds.shared_or_sibling with ⟨-, h⟩ | ⟨type, rfl, -⟩
  · exact h
  · exact absurd rfl (hshared type)

end Document

/-! ## Where shared validators are put -/

/-- The file of the shared validators is named by the module that documents import. -/
theorem Config.helpersFileName?_of_relative {config : Config} (h : config.RelativeHelpers) :
    config.helpersFileName? = some (config.options.helpersModule ++ ".ts") := by
  rw [helpersModule_options]
  exact helpersFileName?_eq_some.mpr ⟨h, rfl⟩

/-- A run that puts the shared validators into the folder puts the text of their module there. -/
theorem Run.putHelpers_of_relative {config : Config} (h : config.RelativeHelpers)
    (hemit : config.emitHelpers = true) :
    putHelpers config = (fun t => some t.path) <$>
      OutputFolder.put (config.options.helpersModule ++ ".ts")
        (SharedValidators.content config.options) := by
  unfold putHelpers
  rw [Config.helpersFileName?_of_relative h, hemit]
  rfl

/-! ## Sinks that take everything -/

section Accepting

variable {σ ε : Type} {sink : Sink σ ε}

/-- The sink takes every file, whatever has been written before. -/
def Sink.Accepting (sink : Sink σ ε) : Prop :=
  ∀ name content s, ∃ s', sink.write name content s = (.ok (), s')

theorem Sink.Accepting.accepts (h : sink.Accepting) (files : List (String × String)) (s : σ) :
    ∃ s', sink.Accepts s files s' := by
  induction files generalizing s with
  | nil => exact ⟨s, .nil s⟩
  | cons file files ih =>
    obtain ⟨s₁, hwrite⟩ := h file.1 file.2 s
    obtain ⟨s', hrest⟩ := ih s₁
    exact ⟨s', .cons hwrite hrest⟩

namespace Pass

open Run Document

/-- Every file that a pass hands to its sink exports the schema that it is named by. -/
theorem infix_of_mem_modules {options : Options} {dtos : List Dto} {name content : String}
    (h : (options.schemaName name ++ ".ts", content) ∈ dtos.map (moduleOf options)) :
    ("export const " ++ options.schemaName name ++ " = z.object(\x7b").toList <:+:
      content.toList := by
  obtain ⟨dto, -, hmodule⟩ := List.mem_map.mp h
  obtain ⟨hfile, rfl⟩ := Prod.mk.inj hmodule
  have hschema : options.schemaName dto.name = options.schemaName name :=
    (String.append_left_inj _).mp hfile
  rw [← hschema]
  exact Document.infix_content options dto

/-- Generated modules only import what another module exports.  A pass into a sink that takes every
file hands it the module of each data transfer object.  If a field of one of them refers to
another, the document imports the schema of that one from the module next to it, and what is
handed to the sink as that module exports the schema; only what refers to its own object is not
imported.  Whatever else a document imports is a shared validator, which the module of the shared
validators exports.  If a configuration tells that module by a path that starts in the folder or
above it, the module is put into the folder under the name that documents import it by. -/
theorem links_modules (hsink : sink.Accepting) (options : Options) (dtos : List Dto) (s : σ) :
    (∃ report s' calls, outcome sink options dtos s = (.ok report, s') ∧
      outcome sink.recording options dtos (s, []) = (.ok report, (s', calls)) ∧
      ∀ dto ∈ dtos, ∀ other ∈ dtos, HasLeaf options dto (.reference other.name) →
        ∀ schema, schema = other.name ++ options.suffix →
          (other.name ≠ dto.name → ⟨schema, "./" ++ schema⟩ ∈ (ofDto options dto).imports) ∧
          schema ++ ".ts" ∈ report.files ∧
          (∃ content, (schema ++ ".ts", content) ∈ calls) ∧
          ∀ content, (schema ++ ".ts", content) ∈ calls →
            ("export const " ++ schema ++ " = z.object(\x7b").toList <:+: content.toList) ∧
    ∀ dto i, (i ∈ (ofDto options dto).imports ↔ ImportsShared options dto i ∨
        ∃ type, HasLeaf options dto (.reference type) ∧ type ≠ dto.name ∧
          i = .sibling (options.schemaName type)) ∧
      (ImportsShared options dto i →
        ("export const " ++ i.symbol ++ " = ").toList <:+:
          (SharedValidators.content options).toList ∧
        ∀ config : Config, config.options = options → config.RelativeHelpers →
          config.helpersFileName? = some (i.module ++ ".ts") ∧
          (config.emitHelpers = true → putHelpers config = (fun t => some t.path) <$>
            OutputFolder.put (i.module ++ ".ts") (SharedValidators.content options))) := by
  refine ⟨?_, ?_⟩
  · obtain ⟨s', haccepts⟩ := hsink.accepts (dtos.map (moduleOf options)) s
    refine ⟨reportOf options dtos, s', dtos.map (moduleOf options),
      outcome_of_accepts haccepts, outcome_of_accepts (haccepts.recording []), ?_⟩
    rintro dto hdto other hother hleaf schema rfl
    refine ⟨?_, List.mem_map_of_mem hother, ⟨_, List.mem_map_of_mem hother⟩, ?_⟩
    · intro hne
      exact mem_imports_iff_shared_or_sibling.mpr (.inr ⟨other.name, hleaf, hne, rfl⟩)
    · intro content hcontent
      exact infix_of_mem_modules hcontent
  · intro dto i
    refine ⟨mem_imports_iff_shared_or_sibling, ?_⟩
    intro hshared
    obtain ⟨hsymbol, hmodule⟩ := hshared.symbol_module
    refine ⟨SharedValidators.infix_content options hsymbol, ?_⟩
    rintro config rfl hrelative
    rw [hmodule]
    exact ⟨Config.helpersFileName?_of_relative hrelative, Run.putHelpers_of_relative hrelative⟩

theorem links_modules_sample :
    ∃ report s' calls, outcome MemoryStore.sink.recording .standard [sampleNode, ⟨"Tag", []⟩]
        (.empty, []) = (.ok report, (s', calls)) ∧
      ⟨"TagSchema", "./TagSchema"⟩ ∈ (ofDto .standard sampleNode).imports ∧
      "TagSchema.ts" ∈ report.files ∧
      (∃ content, ("TagSchema.ts", content) ∈ calls ∧
        "export const TagSchema = z.object(\x7b".toList <:+: content.toList) ∧
      Config.standard.helpersFileName? = some "../zod-mods.ts" := by
  have htags : Shape.ofField .standard (.ofType "tags" "List<Tag>") =
      .ok (.collection (.reference "Tag")) := rfl
  have hday : Shape.ofField .standard (.ofType "day" "LocalDate") =
      .ok (.temporal .dateOnly) := rfl
  have haccepting : MemoryStore.sink.Accepting := fun _ _ _ => ⟨_, rfl⟩
  obtain ⟨⟨report, s', calls, -, hrun, hlinks⟩, hshared⟩ :=
    links_modules haccepting .standard [sampleNode, ⟨"Tag", []⟩] .empty
  obtain ⟨himport, hfile, ⟨content, hcontent⟩, hexport⟩ :=
    hlinks sampleNode (by simp) ⟨"Tag", []⟩ (by simp)
      ⟨_, by simp [sampleNode, sampleFields], _, htags, rfl⟩ "TagSchema" rfl
  obtain ⟨-, hhelpers⟩ := (hshared sampleNode ⟨dateOnlyValidator, "../zod-mods"⟩).2
    ⟨_, ⟨_, by simp [sampleNode, sampleFields], _, hday, rfl⟩, fun _ => Shape.noConfusion,
      .dateOnly⟩
  obtain ⟨hname, -⟩ := hhelpers .standard rfl ⟨"zod-mods", .inr rfl⟩
  exact ⟨report, s', calls, hrun, himport (by decide), hfile,
    ⟨content, hcontent, hexport content hcontent⟩, hname⟩

end Pass

end Accepting

end SchemaGen
