import Mathlib.Data.List.Basic
import SchemaGen.Proofs.NeededImports
import SchemaGen.Proofs.QuotedKeys

/-!
# The layout of a generated module

A document is rendered line by line: the import of the validation library, the other imports, the
opening of the schema, one line for every field that has a validator, the end of the schema, and
the type.  The lines can be told apart in the text because none of them holds a newline.  What the
user configures is kept on one line by assumption; what a manifest names is an identifier where it
reaches the text raw, and is escaped where it is the key of a property.

* `OneLine`: a text without newlines; `splitOn_unlines`: lines are read back from their text.
* `Shape.Supported`: a shape whose names and expressions come from where shapes get them, with
  `Shape.supported_ofField`.
* `Shape.oneLine_resolve`: the validator of such a shape stays on one line.
* `Document.layout`: the lines of a document.
-/

namespace SchemaGen

namespace Text

/-! ## Lines -/

/-- The text stays on its line. -/
def OneLine (text : String) : Prop :=
  '\n' ∉ text.toList

instance (text : String) : Decidable (OneLine text) :=
  inferInstanceAs (Decidable ('\n' ∉ text.toList))

@[simp] theorem oneLine_append {a b : String} : OneLine (a ++ b) ↔ OneLine a ∧ OneLine b := by
  unfold OneLine
  rw [String.toList_append, List.mem_append, not_or]

/-- Lines without newlines are read back from the text that closes each of them by one; after the
last there is nothing more. -/
theorem splitOn_unlines {lines : List String} (h : ∀ line ∈ lines, OneLine line) :
    (unlines lines).toList.splitOn '\n' = (lines ++ [""]).map String.toList := by
  induction lines with
  | nil => rfl
  | cons line lines ih =>
    have hline : '\n' ∉ line.toList := h line (List.mem_cons_self ..)
    have hrest := ih fun other hother => h other (List.mem_cons_of_mem _ hother)
    rw [toList_unlines_cons, List.splitOn_append_cons_self, List.splitOn_eq_singleton hline, hrest]
    rfl

end Text

open Text

/-! ## What can be on a line -/

/-- What the options put into a module stays on one line. -/
structure Options.OneLine (options : Options) : Prop where
  library : Text.OneLine options.library
  helpersModule : Text.OneLine options.helpersModule
  suffix : Text.OneLine options.suffix
  overrides : ∀ entry ∈ options.overrides, Text.OneLine entry.2

/-- Neither quoting nor naming brings a newline into a key. -/
theorem Property.oneLine_writtenKey (name : String) : OneLine (writtenKey name) := by
  intro h
  have hcontrol := needsCodePoint_of_mem_writtenKey h
  exact absurd hcontrol (by decide)

theorem TypeName.oneLine_of_isIdentifier {name : String} (h : isIdentifier name = true) :
    OneLine name :=
  notMem_of_isIdentifier h (by decide)

theorem Options.oneLine_schemaName {options : Options} (h : options.OneLine) {name : String}
    (hname : Text.OneLine name) : Text.OneLine (options.schemaName name) :=
  oneLine_append.mpr ⟨hname, h.suffix⟩

theorem Import.oneLine_statement {i : Import} (hsymbol : OneLine i.symbol)
    (hmodule : OneLine i.module) : OneLine i.statement := by
  have hparts : OneLine "import \x7b " ∧ OneLine " \x7d from '" ∧ OneLine "';" := by decide
  simp only [statement, oneLine_append]
  exact ⟨⟨⟨⟨hparts.1, hsymbol⟩, hparts.2.1⟩, hmodule⟩, hparts.2.2⟩

/-! ## Shapes -/

namespace Shape

/-- Every expression in the shape is configured, and every name in it is an identifier. -/
def Supported (options : Options) : Shape → Prop
  | override expression => ∃ type, (type, expression) ∈ options.overrides
  | reference type => TypeName.isIdentifier type = true
  | collection element => element.Supported options
  | primitive _ | temporal _ | dayOfWeek => True

variable {options : Options} {shape : Shape}

theorem supported_of_overrideFor {name expression : String}
    (h : options.overrideFor name = some expression) :
    (override expression).Supported options := by
  exact ⟨Options.overrideKey name, mem_of_lookup h⟩

theorem supported_of_classifiedType {name : String} (h : ClassifiedType options name shape) :
    shape.Supported options := by
  cases h with
  | override hoverride => exact supported_of_overrideFor hoverride
  | temporal => trivial
  | builtIn _ _ hlookup =>
    rcases of_lookup_builtIn hlookup with ⟨kind, rfl⟩ | rfl
    · trivial
    · trivial
  | reference _ _ _ hname => exact hname

/-- The shape of a field has its names and expressions from identifiers and options. -/
theorem supported_ofField {field : Field} (h : ofField options field = .ok shape) :
    shape.Supported options := by
  cases ofField_eq_ok.mp h with
  | override hoverride => exact supported_of_overrideFor hoverride
  | @collection name element _ _ _ _ helement =>
    show element.Supported options
    exact supported_of_classifiedType helement
  | scalar _ _ htype => exact supported_of_classifiedType htype

/-- The validator of a supported shape stays on one line, and so does what it imports. -/
theorem oneLine_resolve (hoptions : options.OneLine) (owner : Option String)
    (h : shape.Supported options) :
    OneLine (shape.resolve options owner).expression ∧
      ∀ i ∈ (shape.resolve options owner).imports, OneLine i.symbol ∧ OneLine i.module := by
  have hinline : ∀ expression, OneLine expression →
      OneLine (Resolution.inline expression).expression ∧
        ∀ i ∈ (Resolution.inline expression).imports, OneLine i.symbol ∧ OneLine i.module := by
    intro expression hexpression
    exact ⟨hexpression, fun i hi => absurd hi List.not_mem_nil⟩
  have hshared : ∀ validator, OneLine validator →
      OneLine (Resolution.shared options validator).expression ∧
        ∀ i ∈ (Resolution.shared options validator).imports,
          OneLine i.symbol ∧ OneLine i.module := by
    intro validator hvalidator
    refine ⟨hvalidator, fun i hi => ?_⟩
    rw [List.mem_singleton.mp hi]
    exact ⟨hvalidator, hoptions.helpersModule⟩
  induction shape with
  | primitive kind =>
    refine hinline _ ?_
    cases kind <;> decide
  | temporal kind =>
    cases kind with
    | dateOnly => exact hshared _ (by decide)
    | timeOnly => exact hshared _ (by decide)
    | timestamp => exact hinline _ (by decide)
  | dayOfWeek => exact hshared _ (by decide)
  | override expression =>
    obtain ⟨type, hentry⟩ := h
    exact hinline _ (hoptions.overrides _ hentry)
  | reference type =>
    have hschema := Options.oneLine_schemaName hoptions (TypeName.oneLine_of_isIdentifier h)
    simp only [resolve]
    split
    · refine hinline _ ?_
      rw [oneLine_append, oneLine_append]
      exact ⟨⟨by decide, hschema⟩, by decide⟩
    · refine ⟨hschema, fun i hi => ?_⟩
      rw [List.mem_singleton.mp hi]
      exact ⟨hschema, oneLine_append.mpr ⟨by decide, hschema⟩⟩
  | collection element ih =>
    obtain ⟨hexpression, himports⟩ := ih h
    refine ⟨?_, himports⟩
    simp only [resolve, Resolution.array]
    rw [oneLine_append, oneLine_append]
    exact ⟨⟨by decide, hexpression⟩, by decide⟩

end Shape

/-! ## Documents -/

namespace Document

variable {options : Options} {dto : Dto}

/-- The line of a field, if it has a validator. -/
def fieldLine? (options : Options) (owner : String) (field : Field) : Option String :=
  match field.resolveIn options owner with
  | .ok resolved =>
    some ("  " ++ Property.writtenKey (options.propertyName field.name) ++ ": " ++
      resolved.expression ++ ",")
  | .error _ => none

/-- The lines of the properties are those of the fields that have a validator. -/
theorem map_line_properties (options : Options) (dto : Dto) :
    (ofDto options dto).properties.map Property.line =
      dto.fields.filterMap (fieldLine? options dto.name) := by
  have hline : ∀ field : Field, (field.toProperty? options dto.name).map Property.line =
      fieldLine? options dto.name field := by
    intro field
    unfold Field.toProperty? fieldLine?
    cases field.resolveIn options dto.name with
    | error e => rfl
    | ok resolved => rfl
  show (dto.fields.filterMap (Field.toProperty? options dto.name)).map Property.line = _
  rw [List.map_filterMap]
  exact List.filterMap_congr fun field _ => hline field

/-- The lines of a document, one after the other. -/
theorem lines_ofDto (options : Options) (dto : Dto) :
    (ofDto options dto).lines =
      ["import \x7b z \x7d from '" ++ options.library ++ "';"] ++
        (ofDto options dto).imports.toList.map Import.statement ++
        ["export const " ++ options.schemaName dto.name ++ " = z.object(\x7b"] ++
        dto.fields.filterMap (fieldLine? options dto.name) ++
        ["\x7d);", "export type " ++ dto.name ++ " = z.infer<typeof " ++
          options.schemaName dto.name ++ ">;"] := by
  rw [← map_line_properties]
  unfold lines
  simp only [List.append_assoc, List.cons_append, List.nil_append]
  rfl

/-- The validator of a field stays on one line, and so does what it imports. -/
theorem oneLine_resolveIn (hoptions : options.OneLine) {owner : String} {field : Field}
    {resolved : Resolution} (h : field.resolveIn options owner = .ok resolved) :
    OneLine resolved.expression ∧ ∀ i ∈ resolved.imports, OneLine i.symbol ∧ OneLine i.module := by
  obtain ⟨shape, hshape, rfl⟩ := Field.resolveIn_eq_ok.mp h
  exact Shape.oneLine_resolve hoptions (some owner) (Shape.supported_ofField hshape)

theorem oneLine_fieldLine? (hoptions : options.OneLine) {owner line : String} {field : Field}
    (h : fieldLine? options owner field = some line) : OneLine line := by
  unfold fieldLine? at h
  split at h
  · next resolved hresolved =>
    obtain rfl := Option.some.inj h
    have hkey := Property.oneLine_writtenKey (options.propertyName field.name)
    have hexpression := (oneLine_resolveIn hoptions hresolved).1
    simp only [oneLine_append]
    exact ⟨⟨⟨⟨by decide, hkey⟩, by decide⟩, hexpression⟩, by decide⟩
  · exact absurd h (by simp)

theorem oneLine_of_mem_imports (hoptions : options.OneLine) {i : Import}
    (h : i ∈ (ofDto options dto).imports) : OneLine i.statement := by
  obtain ⟨field, -, hi⟩ := mem_imports.mp h
  unfold Field.neededImports at hi
  split at hi
  · next resolved hresolved =>
    obtain ⟨hsymbol, hmodule⟩ := (oneLine_resolveIn hoptions hresolved).2 i hi
    exact Import.oneLine_statement hsymbol hmodule
  · exact absurd hi List.not_mem_nil

/-- No line of a document holds a newline. -/
theorem oneLine_of_mem_lines (hname : OneLine dto.name) (hoptions : options.OneLine) :
    ∀ line ∈ (ofDto options dto).lines, OneLine line := by
  have hschema := Options.oneLine_schemaName hoptions hname
  have hfirst : OneLine ("import \x7b z \x7d from '" ++ options.library ++ "';") := by
    rw [oneLine_append, oneLine_append]
    exact ⟨⟨by decide, hoptions.library⟩, by decide⟩
  have hopening : OneLine ("export const " ++ options.schemaName dto.name ++ " = z.object(\x7b") := by
    rw [oneLine_append, oneLine_append]
    exact ⟨⟨by decide, hschema⟩, by decide⟩
  have htype : OneLine ("export type " ++ dto.name ++ " = z.infer<typeof " ++
      options.schemaName dto.name ++ ">;") := by
    simp only [oneLine_append]
    exact ⟨⟨⟨⟨by decide, hname⟩, by decide⟩, hschema⟩, by decide⟩
  intro line hline
  simp only [lines_ofDto, List.mem_append, List.mem_cons, List.not_mem_nil, or_false] at hline
  rcases hline with (((rfl | himport) | rfl) | hfield) | rfl | rfl
  · exact hfirst
  · obtain ⟨i, hi, rfl⟩ := List.mem_map.mp himport
    exact oneLine_of_mem_imports hoptions hi
  · exact hopening
  · obtain ⟨field, -, hsome⟩ := List.mem_filterMap.mp hfield
    exact oneLine_fieldLine? hoptions hsome
  · decide
  · exact htype

/-- No name of a field can break the layout of a module.  Cut at its newlines, the text of a
document is, line by line, the import of the validation library, the other imports in ascending
order of module and symbol, the opening of the schema, the property of each field that has a
validator in the order of the fields, the end of the schema, and the type; nothing follows the
last newline. -/
theorem layout (hname : OneLine dto.name) (hoptions : options.OneLine) :
    (ofDto options dto).content.toList.splitOn '\n' =
      ((["import \x7b z \x7d from '" ++ options.library ++ "';"] ++
        (ofDto options dto).imports.toList.map Import.statement ++
        ["export const " ++ options.schemaName dto.name ++ " = z.object(\x7b"] ++
        dto.fields.filterMap (fieldLine? options dto.name) ++
        ["\x7d);", "export type " ++ dto.name ++ " = z.infer<typeof " ++
          options.schemaName dto.name ++ ">;"]) ++ [""]).map String.toList ∧
    ((ofDto options dto).content.toList.splitOn '\n').length =
      4 + (ofDto options dto).imports.size + (ofDto options dto).properties.length + 1 ∧
    (ofDto options dto).imports.toList.Pairwise Import.Before := by
  have hsplit := splitOn_unlines (oneLine_of_mem_lines hname hoptions)
  have hcontent : (ofDto options dto).content = unlines (ofDto options dto).lines := rfl
  have hfields := congrArg List.length (map_line_properties options dto)
  rw [List.length_map] at hfields
  refine ⟨?_, ?_, (ofDto options dto).imports.ascending⟩
  · rw [hcontent, hsplit, lines_ofDto]
  · rw [hcontent, hsplit, lines_ofDto, hfields]
    simp only [List.length_map, List.length_append, List.length_cons, List.length_nil,
      ImportSet.size]
    omega

/-- Options that rename properties and have an expression for a type. -/
def sampleOptions : Options :=
  { Options.standard with nameStyle := some .camel, overrides := [("money", "z.string()")] }

/-- Fields that are named by a text with a newline, of a type without a validator, and by an
identifier. -/
def sampleLines : Dto :=
  ⟨"User", [.ofType "price\nper_day" "Money", .ofType "odd" "List", .ofType "tag" "Tag"]⟩

theorem layout_sample :
    OneLine sampleLines.name ∧ sampleOptions.OneLine ∧
      (ofDto sampleOptions sampleLines).content.toList.splitOn '\n' =
        ["import \x7b z \x7d from 'zod';", "import \x7b TagSchema \x7d from './TagSchema';",
          "export const UserSchema = z.object(\x7b", "  'price\\nperDay': z.string(),",
          "  tag: TagSchema,", "\x7d);", "export type User = z.infer<typeof UserSchema>;",
          ""].map String.toList := by
  have hname : OneLine sampleLines.name := by decide
  have hoptions : sampleOptions.OneLine := ⟨by decide, by decide, by decide, by decide⟩
  refine ⟨hname, hoptions, (layout hname hoptions).1.trans ?_⟩
  decide +kernel

end Document

end SchemaGen
