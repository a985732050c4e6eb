import SchemaGen.Proofs.SourceLiterals
import SchemaGen.Proofs.UsableNames

/-!
# What import statements denote

An import statement has its module between quotes, as it is, while the key of a property is
escaped.  The module of another schema is made of the characters of identifiers, so its statement
denotes it.  The modules of the validation library and of the shared validators are any texts of
the configuration, and only empty ones are refused: their statements denote them iff the texts are
plain.

* `Import.source?`: reads the statement at the beginning of a text.
* `Import.source?_statement`: when a statement is read as the import that it was made of.
* `Import.DenotedAfter`: a text has the statement behind some lines, and it is read so.
* `Config.denotes_modules`: which statements of generated modules denote their modules.
* `Config.misread_library`: an accepted configuration with one that does not.
-/

namespace SchemaGen

open Text Script

/-! ## Reading a statement -/

namespace Import

/-- The code units that an import statement at the beginning of a text names its module by, and
what follows the statement. -/
def source? (edition : Edition) (text : List Char) : Option (List Nat × List Char) :=
  match text.dropWhile (· ≠ '\'') with
  | _ :: s =>
    match scan edition s with
    | some (source, ';' :: rest) => some (source, rest)
    | _ => none
  | [] => none

theorem toList_statement (i : Import) : i.statement.toList =
    "import \x7b ".toList ++ i.symbol.toList ++ " \x7d from ".toList ++
      '\'' :: (i.module.toList ++ '\'' :: [';']) := by
  simp [statement]

/-- The statement of an import is read as its module, and ends where it was made to end, iff the
module is plain. -/
theorem source?_statement {edition : Edition} {i : Import} (hsymbol : '\'' ∉ i.symbol.toList)
    {rest : List Char} :
    source? edition (i.statement.toList ++ rest) = some (units i.module.toList, rest) ↔
      IsPlain edition i.module.toList := by
  have hbefore : ∀ c ∈ "import \x7b ".toList ++ i.symbol.toList ++ " \x7d from ".toList,
      decide (c ≠ '\'') = true := by
    simp only [List.forall_mem_append]
    exact ⟨⟨by decide, fun c hc => decide_eq_true fun h => hsymbol (h ▸ hc)⟩, by decide⟩
  have hdrop : (i.statement.toList ++ rest).dropWhile (· ≠ '\'') =
      '\'' :: (i.module.toList ++ '\'' :: ';' :: rest) := by
    rw [toList_statement, List.append_assoc, List.dropWhile_append_of_pos hbefore]
    simp
  -- The first quote of the text is the one in front of the module.
  rw [← scan_eq_units_iff (';' :: rest), source?, hdrop]
  constructor
  · intro hsource
    dsimp only at hsource
    split at hsource
    · next source rest' hscan =>
      obtain ⟨rfl, rfl⟩ := Prod.mk.inj (Option.some.inj hsource)
      exact hscan
    · simp at hsource
  · intro hscan
    simp only [hscan]

/-- A text consists of some lines, the statement of an import on one line, and more lines, and the
statement is read there as an import from its module, up to the end of its line. -/
def DenotedAfter (edition : Edition) (before : List String) (i : Import) (text : String) : Prop :=
  ∃ after, text = unlines (before ++ i.statement :: after) ∧
    source? edition (unlines (i.statement :: after)).toList =
      some (units i.module.toList, '\n' :: (unlines after).toList)

theorem DenotedAfter.isPlain {edition : Edition} {before : List String} {i : Import}
    {text : String} (hsymbol : '\'' ∉ i.symbol.toList)
    (h : i.DenotedAfter edition before text) : IsPlain edition i.module.toList := by
  obtain ⟨after, -, hsource⟩ := h
  rw [toList_unlines_cons] at hsource
  exact (source?_statement hsymbol).mp hsource

theorem denotedAfter_of_isPlain {edition : Edition} {i : Import} (before after : List String)
    (hsymbol : '\'' ∉ i.symbol.toList) (h : IsPlain edition i.module.toList) :
    i.DenotedAfter edition before (unlines (before ++ i.statement :: after)) := by
  refine ⟨after, rfl, ?_⟩
  rw [toList_unlines_cons]
  exact (source?_statement hsymbol).mpr h

/-- The import of the validation library. -/
def ofLibrary (library : String) : Import :=
  ⟨coreValidator, library⟩

theorem not_mem_symbol_ofLibrary (library : String) :
    '\'' ∉ (ofLibrary library).symbol.toList := by
  show '\'' ∉ coreValidator.toList
  decide

/-- The first line of a text is the import of the validation library, which denotes it iff it is
plain. -/
theorem denotedAfter_ofLibrary_iff {edition : Edition} {library : String} {lines rest : List String}
    (hlines : lines = (ofLibrary library).statement :: rest) :
    (ofLibrary library).DenotedAfter edition [] (unlines lines) ↔
      IsPlain edition library.toList := by
  have hsymbol := not_mem_symbol_ofLibrary library
  refine ⟨fun h => h.isPlain hsymbol, fun h => ?_⟩
  rw [hlines]
  exact denotedAfter_of_isPlain [] rest hsymbol h

end Import

/-! ## The statements of generated modules -/

/-- No character of the name of a schema means anything in a literal. -/
theorem Config.isPlain_of_isSuffixChar (edition : Edition) {s : List Char}
    (h : ∀ c ∈ s, Config.isSuffixChar c = true) : IsPlain edition s := by
  have hnone : ∀ c ∈ ['\'', '\\', '\n', '\r', '\u2028', '\u2029'],
      Config.isSuffixChar c = false := by
    decide +kernel
  intro c hc
  have hne : ∀ d ∈ ['\'', '\\', '\n', '\r', '\u2028', '\u2029'], c ≠ d := by
    rintro d hd rfl
    exact absurd ((hnone c hd).symm.trans (h c hc)) (by decide)
  refine ⟨hne _ (by decide), hne _ (by decide), Bool.eq_false_iff.mpr fun hends => ?_⟩
  have hline := isLineEnd_of_endsLine hends
  simp only [isLineEnd, Bool.or_eq_true, decide_eq_true_eq] at hline
  rcases hline with ((heq | heq) | heq) | heq <;> exact hne _ (by decide) heq

/-- The statement that imports a schema is read as its module. -/
theorem Import.isPlain_sibling (edition : Edition) {schema : String}
    (h : ∀ c ∈ schema.toList, Config.isSuffixChar c = true) :
    '\'' ∉ (sibling schema).symbol.toList ∧ IsPlain edition (sibling schema).module.toList := by
  have hschema := Config.isPlain_of_isSuffixChar edition h
  refine ⟨fun hmem => (hschema _ hmem).1 rfl, ?_⟩
  have hdot : ∀ edition, IsPlain edition ['.', '/'] := by
    rintro (_ | _) <;> decide
  show IsPlain edition ("./" ++ schema).toList
  rw [String.toList_append]
  exact List.forall_mem_append.mpr ⟨hdot edition, hschema⟩

/-- No shared validator has a quote in its name. -/
theorem SharedValidators.not_mem_of_mem_names {name : String} (h : name ∈ names) :
    '\'' ∉ name.toList := by
  have hall : ∀ name ∈ names, '\'' ∉ name.toList := by decide
  exact hall name h

/-- Every import has its statement in the text of the document. -/
theorem Document.exists_content_of_mem {doc : Document} {i : Import} (h : i ∈ doc.imports) :
    ∃ before after, doc.content = unlines (before ++ i.statement :: after) := by
  have hline : i.statement ∈ doc.lines := by
    have hstatement : i.statement ∈ doc.imports.statements := List.mem_map_of_mem h
    simp [lines, hstatement]
  obtain ⟨before, after, hlines⟩ := List.append_of_mem hline
  exact ⟨before, after, congrArg unlines hlines⟩

/-- The statement of an import of a document is read as its module iff this is plain. -/
theorem Document.exists_denotedAfter_iff {edition : Edition} {doc : Document} {i : Import}
    (h : i ∈ doc.imports) (hsymbol : '\'' ∉ i.symbol.toList) :
    (∃ before, i.DenotedAfter edition before doc.content) ↔ IsPlain edition i.module.toList := by
  refine ⟨fun ⟨_, hdenoted⟩ => hdenoted.isPlain hsymbol, fun hplain => ?_⟩
  obtain ⟨before, after, hcontent⟩ := exists_content_of_mem h
  rw [hcontent]
  exact ⟨before, Import.denotedAfter_of_isPlain before after hsymbol hplain⟩

namespace Config

/-- Which import statements denote the modules that were configured.  For every configuration that
is accepted, the first line of the module of shared validators and that of any document denote the
validation library iff this is plain.  Every other import of a document either is one of a shared
validator, and its statement denotes the configured module iff this is plain, or is one of the
schema of another type, and its statement denotes the module next to the document. -/
theorem denotes_modules {config : Config} (husable : config.checkUsable = .ok ())
    (edition : Edition) (dto : Dto) :
    ((Import.ofLibrary config.library).DenotedAfter edition []
        (SharedValidators.content config.options) ↔ IsPlain edition config.library.toList) ∧
    ((Import.ofLibrary config.library).DenotedAfter edition []
        (Document.ofDto config.options dto).content ↔ IsPlain edition config.library.toList) ∧
    ∀ i ∈ (Document.ofDto config.options dto).imports,
      i.module = config.helpersModule ∧
        ((∃ before, i.DenotedAfter edition before (Document.ofDto config.options dto).content) ↔
          IsPlain edition config.helpersModule.toList) ∨
      i = .sibling i.symbol ∧
        ∃ before, i.DenotedAfter edition before (Document.ofDto config.options dto).content := by
  have hlibrary : config.options.library = config.library :=
    congrArg Options.library config.options_eq
  have hsuffix : ∀ c ∈ config.options.suffix.toList, isSuffixChar c = true := by
    rw [suffix_options]
    exact suffix_of_checkUsable husable
  refine ⟨?_, ?_, fun i hi => ?_⟩
  · rw [← hlibrary]
    exact Import.denotedAfter_ofLibrary_iff rfl
  · rw [← hlibrary]
    exact Import.denotedAfter_ofLibrary_iff rfl
  · -- Only the module of the shared validators is taken from the configuration.
    rcases Document.mem_imports_iff_shared_or_sibling.mp hi with hshared | ⟨type, hleaf, -, rfl⟩
    · obtain ⟨hname, hmodule⟩ := hshared.symbol_module
      rw [helpersModule_options] at hmodule
      have hsymbol := SharedValidators.not_mem_of_mem_names hname
      exact .inl ⟨hmodule, hmodule ▸ Document.exists_denotedAfter_iff hi hsymbol⟩
    · have hschema := Options.isSuffixChar_of_mem_schemaName hsuffix hleaf.isIdentifier
      obtain ⟨hsymbol, hplain⟩ := Import.isPlain_sibling edition hschema
      exact .inr ⟨rfl, (Document.exists_denotedAfter_iff hi hsymbol).mpr hplain⟩

theorem denotes_modules_sample :
    standard.checkUsable = .ok () ∧
      (Import.ofLibrary "zod").DenotedAfter .older [] (SharedValidators.content standard.options) ∧
      (Import.ofLibrary "zod").DenotedAfter .older []
        (Document.ofDto standard.options Document.sampleNode).content ∧
      ∀ i ∈ (Document.ofDto standard.options Document.sampleNode).imports, ∃ before,
        i.DenotedAfter .older before
          (Document.ofDto standard.options Document.sampleNode).content := by
  have husable : standard.checkUsable = .ok () := rfl
  obtain ⟨hshared, hdocument, himports⟩ := denotes_modules husable .older Document.sampleNode
  refine ⟨husable, hshared.mpr (by decide), hdocument.mpr (by decide), fun i hi => ?_⟩
  rcases himports i hi with ⟨-, hdenoted⟩ | ⟨-, hdenoted⟩
  · exact hdenoted.mpr (by decide)
  · exact hdenoted

/-! ## A statement that is misread -/

/-- A configuration whose validation library has a quote in its name. -/
def misreadConfig : Config :=
  { standard with library := "it's" }

/-- The configuration is accepted, but no document of it, and not the module of the shared
validators either, begins with a statement that is read as an import from the library. -/
theorem misread_library : misreadConfig.checkUsable = .ok () ∧
    Manifest.parse "a.dto.json" Run.sampleManifest .json = .ok [Run.sampleDto] ∧
    (Document.ofDto misreadConfig.options Run.sampleDto).lines.head? =
      some "import \x7b z \x7d from 'it's';" ∧
    (SharedValidators.lines misreadConfig.options).head? =
      some "import \x7b z \x7d from 'it's';" ∧
    ∀ edition,
      ¬ (Import.ofLibrary misreadConfig.library).DenotedAfter edition []
          (Document.ofDto misreadConfig.options Run.sampleDto).content ∧
      ¬ (Import.ofLibrary misreadConfig.library).DenotedAfter edition []
          (SharedValidators.content misreadConfig.options) := by
  have hnot : ∀ edition, ¬ IsPlain edition misreadConfig.library.toList := by
    rintro (_ | _) <;> decide
  have hsymbol := Import.not_mem_symbol_ofLibrary misreadConfig.library
  exact ⟨rfl, Run.parse_sampleManifest _, rfl, rfl, fun edition =>
    ⟨fun h => hnot edition (h.isPlain hsymbol), fun h => hnot edition (h.isPlain hsymbol)⟩⟩

end Config

end SchemaGen
