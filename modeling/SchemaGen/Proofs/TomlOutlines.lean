import SchemaGen.Manifest.Loading
import SchemaGen.Proofs.TomlTables
import SchemaGen.Proofs.TomlTexts

/-!
# Outlines in TOML

The manifest of some outlines, written as a sequence of tables, is read back as their objects.

* `Manifest.Outline.statements`: the statements of an outline, with `lines_toml`.
* `Manifest.Outline.value`: the table that they fill, with `foldlM_add?_statements`.
* `Manifest.Outline.ofToml?_value`: the table stands for the object that the outline describes.
* `Manifest.Outline.decode_manifestToml`: what is read from the manifest.
-/

namespace SchemaGen.Manifest.Outline

open Text Toml

/-! ## Statements -/

/-- The statements of a field. -/
def fieldStatements (f : String × String) : List Statement :=
  [.tables ["dtos"] "fields", .assign [] "name" (.text f.1), .assign [] "type" (.text f.2)]

/-- The statements of an outline. -/
def statements (o : Outline) : List Statement :=
  .tables [] "dtos" :: .assign [] "name" (.text o.name) :: o.fields.flatMap fieldStatements

/-! ## Keys -/

theorem ofTokens?_dtos : Key.ofTokens? [.bare ('d' :: "tos".toList)] = some ([], "dtos") := by
  decide +kernel

theorem ofTokens?_fields :
    Key.ofTokens? [.bare ('d' :: "tos.fields".toList)] = some (["dtos"], "fields") := by
  decide +kernel

theorem ofTokens?_name : Key.ofTokens? [.bare ('n' :: "ame".toList)] = some ([], "name") := by
  decide +kernel

theorem ofTokens?_type : Key.ofTokens? [.bare ('t' :: "ype".toList)] = some ([], "type") := by
  decide +kernel

/-! ## Lines -/

theorem lines_fieldToml {f : String × String} (hname : ∀ c ∈ f.1.toList, isVerbatim c = true)
    (htype : ∀ c ∈ f.2.toList, isVerbatim c = true) :
    Lines (fieldToml f).toList (fieldStatements f) := by
  have htext (rest : List Char) : (fieldToml f).toList ++ rest =
      '[' :: '[' :: 'd' :: ("tos.fields".toList ++ ']' :: ']' :: '\n' :: 'n' ::
        ("ame".toList ++ ' ' :: '=' :: ' ' :: quoted f.1.toList ('\n' :: 't' ::
          ("ype".toList ++ ' ' :: '=' :: ' ' :: quoted f.2.toList ('\n' :: '\n' :: rest))))) := by
    simp [fieldToml, quoted]
  intro before rest
  rw [htext, Reader.read?_header (by decide) (by decide) ofTokens?_fields,
    Reader.read?_assignment (by decide) (by decide) ofTokens?_name hname,
    Reader.read?_assignment (by decide) (by decide) ofTokens?_type htype, Reader.read?_emptyLine]
  simp only [fieldStatements, String.ofList_toList, List.reverse_cons, List.reverse_nil,
    List.nil_append, List.cons_append]

/-- The text of an outline has its statements. -/
theorem lines_toml (o : Outline) : Lines o.toml.toList o.statements := by
  have hfields : Lines (o.fields.flatMap fun f => (fieldToml f).toList)
      (o.fields.flatMap fieldStatements) :=
    .flatMap fun f hf => lines_fieldToml (o.isVerbatim_name f hf) (o.isVerbatim_type f hf)
  have htext (rest : List Char) : o.toml.toList ++ rest =
      '[' :: '[' :: 'd' :: ("tos".toList ++ ']' :: ']' :: '\n' :: 'n' ::
        ("ame".toList ++ ' ' :: '=' :: ' ' :: quoted o.name.toList ('\n' :: '\n' ::
          ((o.fields.flatMap fun f => (fieldToml f).toList) ++ rest)))) := by
    simp [toml, quoted, List.flatMap_map]
  intro before rest
  rw [htext, Reader.read?_header (by decide) (by decide) ofTokens?_dtos,
    Reader.read?_assignment (by decide) (by decide) ofTokens?_name o.isVerbatim_of_mem_name,
    Reader.read?_emptyLine, hfields]
  simp only [statements, String.ofList_toList, List.reverse_cons, List.append_assoc,
    List.cons_append, List.nil_append]

theorem toList_manifestToml (outlines : List Outline) :
    (manifestToml outlines).toList = outlines.flatMap fun o => o.toml.toList := by
  rw [manifestToml, String.toList_join, List.flatMap_map]

/-- The text of a manifest has the statements of its outlines. -/
theorem lines_manifestToml (outlines : List Outline) :
    Lines (manifestToml outlines).toList (outlines.flatMap statements) := by
  rw [toList_manifestToml]
  exact .flatMap fun o _ => lines_toml o

/-! ## Tables -/

/-- The table of a field. -/
def fieldValue (f : String × String) : Value :=
  .table .header [("name", .text f.1), ("type", .text f.2)]

/-- The entries of an object with these fields. -/
def entries (name : String) (fields : List (String × String)) : Entries :=
  [("name", .text name)] ++ Entries.listed "fields" (fields.map fieldValue)

/-- The table of an outline. -/
def value (o : Outline) : Value :=
  .table .header (entries o.name o.fields)

/-- The entries of a document whose last object has these entries. -/
def opened (before : List Value) (inner : Entries) : Entries :=
  Entries.listed "dtos" (before ++ [.table .header inner])

/-- What is changed below the objects is changed in the last one. -/
theorem descend_opened (change : Entries.Change) (path : List String) (before : List Value)
    (inner : Entries) :
    Entries.descend false change ("dtos" :: path) .header (opened before inner) =
      (Entries.descend false change path .header inner).map (opened before) :=
  Entries.descend_listed (t := []) rfl false change path .header .header before inner

theorem get?_fields (name : String) : Entries.get? [("name", .text name)] "fields" = none :=
  rfl

/-- The header of an object opens one more of them. -/
theorem add?_header (before : List Value) (current : List String) :
    Document.add? ⟨Entries.listed "dtos" before, current⟩ (.tables [] "dtos") =
      some ⟨opened before [], ["dtos"]⟩ := by
  have hopen : Entries.openTables [] "dtos" .header (Entries.listed "dtos" before) =
      some (opened before []) :=
    Entries.openTables_listed (t := []) rfl .header before
  rw [Document.add?, hopen]
  rfl

/-- A key after the header of an object belongs to the last object. -/
theorem add?_assign (before : List Value) {inner : Entries} {key : String}
    (h : inner.get? key = none) (v : Value) :
    Document.add? ⟨opened before inner, ["dtos"]⟩ (.assign [] key v) =
      some ⟨opened before (inner ++ [(key, v)]), ["dtos"]⟩ := by
  rw [Document.add?, descend_opened, Entries.descend, Entries.assign_new h]
  rfl

section Fields

variable (before : List Value) (name : String) (fields : List Value)

/-- The entries of a document whose last object has these fields. -/
def openedField (before : List Value) (name : String) (fields : List Value) : Entries :=
  opened before ([("name", .text name)] ++ Entries.listed "fields" fields)

/-- The header of a field opens one more in the last object. -/
theorem add?_fieldHeader (current : List String) :
    Document.add? ⟨openedField before name fields, current⟩ (.tables ["dtos"] "fields") =
      some ⟨openedField before name (fields ++ [.table .header []]), ["dtos", "fields"]⟩ := by
  have hopen := Entries.openTables_listed (get?_fields name) .header fields
  rw [Entries.openTables] at hopen
  rw [Document.add?, Entries.openTables, openedField, descend_opened, hopen]
  rfl

/-- A key after the header of a field belongs to the last field. -/
theorem add?_fieldAssign {inner : Entries} {key : String} (h : inner.get? key = none)
    (v : Value) :
    Document.add? ⟨openedField before name (fields ++ [.table .header inner]), ["dtos", "fields"]⟩
        (.assign [] key v) =
      some ⟨openedField before name (fields ++ [.table .header (inner ++ [(key, v)])]),
        ["dtos", "fields"]⟩ := by
  rw [Document.add?, openedField, descend_opened, Entries.descend_listed (get?_fields name),
    Entries.descend, Entries.assign_new h]
  rfl

/-- The statements of a field add it to the last object. -/
theorem foldlM_fieldStatements (f : String × String) (current : List String) :
    (fieldStatements f).foldlM Document.add? ⟨openedField before name fields, current⟩ =
      some ⟨openedField before name (fields ++ [fieldValue f]), ["dtos", "fields"]⟩ := by
  have htype : Entries.get? [("name", .text f.1)] "type" = none := rfl
  rw [fieldStatements, List.foldlM_cons, add?_fieldHeader, Option.bind_eq_bind, Option.bind_some,
    List.foldlM_cons, add?_fieldAssign before name fields rfl, Option.bind_eq_bind,
    Option.bind_some, List.foldlM_cons, List.nil_append,
    add?_fieldAssign before name fields htype]
  rfl

/-- The statements of several fields add them one after the other. -/
theorem exists_foldlM_fields (fs : List (String × String)) (current : List String) :
    ∃ last, (fs.flatMap fieldStatements).foldlM Document.add?
        ⟨openedField before name fields, current⟩ =
      some ⟨openedField before name (fields ++ fs.map fieldValue), last⟩ := by
  -- After the first field the current table is another one, so it is generalized too.
  induction fs generalizing fields current with
  | nil => exact ⟨current, by rw [List.map_nil, List.append_nil]; rfl⟩
  | cons f fs ih =>
    obtain ⟨last, hlast⟩ := ih (fields ++ [fieldValue f]) ["dtos", "fields"]
    refine ⟨last, ?_⟩
    rw [List.flatMap_cons, List.foldlM_append, foldlM_fieldStatements, Option.bind_eq_bind,
      Option.bind_some, hlast, List.map_cons, List.append_assoc, List.singleton_append]

end Fields

/-- The statements of an outline add its table to the document. -/
theorem exists_foldlM_statements (o : Outline) (before : List Value) (current : List String) :
    ∃ last, o.statements.foldlM Document.add? ⟨Entries.listed "dtos" before, current⟩ =
      some ⟨Entries.listed "dtos" (before ++ [o.value]), last⟩ := by
  obtain ⟨last, hlast⟩ := exists_foldlM_fields before o.name [] o.fields ["dtos"]
  refine ⟨last, ?_⟩
  rw [statements, List.foldlM_cons, add?_header, Option.bind_eq_bind, Option.bind_some,
    List.foldlM_cons, add?_assign before rfl, Option.bind_eq_bind, Option.bind_some]
  exact hlast

theorem exists_foldlM_outlines (outlines : List Outline) (before : List Value)
    (current : List String) :
    ∃ last, (outlines.flatMap statements).foldlM Document.add?
        ⟨Entries.listed "dtos" before, current⟩ =
      some ⟨Entries.listed "dtos" (before ++ outlines.map value), last⟩ := by
  induction outlines generalizing before current with
  | nil => exact ⟨current, by rw [List.map_nil, List.append_nil]; rfl⟩
  | cons o outlines ih =>
    obtain ⟨next, hnext⟩ := exists_foldlM_statements o before current
    obtain ⟨last, hlast⟩ := ih (before ++ [o.value]) next
    refine ⟨last, ?_⟩
    rw [List.flatMap_cons, List.foldlM_append, hnext, Option.bind_eq_bind, Option.bind_some,
      hlast, List.map_cons, List.append_assoc, List.singleton_append]

/-! ## Whole texts -/

theorem return_notMem_of_isVerbatim {t : List Char} (h : ∀ c ∈ t, isVerbatim c = true) :
    '\r' ∉ t := fun hmem => absurd (h '\r' hmem) (by decide)

theorem return_notMem_toml (o : Outline) : '\r' ∉ o.toml.toList := by
  have hname := return_notMem_of_isVerbatim o.isVerbatim_of_mem_name
  have hfields : '\r' ∉ o.fields.flatMap fun f => (fieldToml f).toList := by
    rw [List.mem_flatMap]
    rintro ⟨f, hf, hmem⟩
    have hfirst := return_notMem_of_isVerbatim (o.isVerbatim_name f hf)
    have hsecond := return_notMem_of_isVerbatim (o.isVerbatim_type f hf)
    exact absurd hmem (by simp [fieldToml, hfirst, hsecond])
  simp only [toml, String.toList_join, List.flatMap_cons, List.flatMap_map, List.mem_append, hname,
    hfields, or_false]
  decide

/-- The text of a manifest fills the tables of its outlines. -/
theorem ofText?_manifestToml (outlines : List Outline) :
    Document.ofText? (manifestToml outlines) =
      some (Entries.listed "dtos" (outlines.map value)) := by
  -- Nothing is done to the text before its lines are read.
  have hreturn : '\r' ∉ (manifestToml outlines).toList := by
    rw [toList_manifestToml, List.mem_flatMap]
    rintro ⟨o, -, ho⟩
    exact return_notMem_toml o ho
  have hmark : (manifestToml outlines).toList.head? ≠ some '\ufeff' := by
    rw [toList_manifestToml]
    cases outlines with
    | nil => simp
    | cons o outlines => simp [toml]
  have hstatements := statements?_of_lines hreturn hmark (lines_manifestToml outlines)
  obtain ⟨last, hlast⟩ := exists_foldlM_outlines outlines [] []
  have hfold : (outlines.flatMap statements).foldlM Document.add? Document.empty =
      some ⟨Entries.listed "dtos" (outlines.map value), last⟩ := hlast
  rw [Document.ofText?, hstatements, Option.bind_eq_bind, Option.bind_some, hfold]
  rfl

/-! ## What the tables stand for -/

/-- A list of tables stands for what they stand for. -/
theorem toList?_tables {α β : Type} {read : Value → Option β} {value : α → Value} {result : α → β}
    (h : ∀ x, read (value x) = some (result x)) (l : List α) :
    (Value.tables (l.map value)).toList? read = some (l.map result) := by
  rw [Value.toList?]
  induction l with
  | nil => rfl
  | cons x l ih => rw [List.map_cons, List.mapM_cons, h, ih]; rfl

theorem ofToml?_fieldValue (f : String × String) :
    Field.ofToml? (fieldValue f) = some (.ofType f.1 f.2) := by
  have hentries : (fieldValue f).toRecord? Field.entryNames Field.readEntry {} =
      some { name := some f.1, type := some f.2 } := by
    simp [fieldValue, Value.toRecord?, Value.ofEntries?, Field.entryNames, Field.readEntry,
      Value.toText?]
  rw [Field.ofToml?, hentries, ← Field.ofDeclaration_type]
  rfl

/-- The table of an outline stands for the object that it describes. -/
theorem ofToml?_value (o : Outline) : Dto.ofToml? o.value = some o.dto := by
  have hfields := toList?_tables ofToml?_fieldValue o.fields
  have hentries : o.value.toRecord? Dto.entryNames Dto.readEntry {} =
      some { name := some o.name, fields := o.dto.fields } := by
    rw [value, entries, dto]
    -- Without fields their key is missing, which stands for none.
    cases hempty : o.fields with
    | nil =>
      simp [Entries.listed, Value.toRecord?, Value.ofEntries?, Dto.entryNames, Dto.readEntry,
        Value.toText?]
    | cons f fs =>
      rw [hempty, List.map_cons, List.map_cons] at hfields
      simp [Entries.listed, Value.toRecord?, Value.ofEntries?, Dto.entryNames, Dto.readEntry,
        Value.toText?, hfields]
  rw [Dto.ofToml?, hentries]
  rfl

/-- The manifest of some outlines is read back as their objects. -/
theorem decode_manifestToml (path : String) (outlines : List Outline) :
    Manifest.decode path (manifestToml outlines) .toml = .ok (outlines.map dto) := by
  have hread : dtosOfToml? (.table .header (Entries.listed "dtos" (outlines.map value))) =
      some (outlines.map dto) := by
    have hdtos := toList?_tables ofToml?_value outlines
    cases outlines with
    | nil => rfl
    | cons o outlines =>
      rw [List.map_cons] at hdtos
      simp [dtosOfToml?, Entries.listed, Value.toRecord?, Value.ofEntries?, entryNames, readEntry,
        hdtos]
  have hdecode : Toml.decode? dtosOfToml? (manifestToml outlines) = some (outlines.map dto) := by
    rw [Toml.decode?, ofText?_manifestToml, Option.bind_eq_bind, Option.bind_some, hread]
  rw [Manifest.decode, hdecode]

end SchemaGen.Manifest.Outline
