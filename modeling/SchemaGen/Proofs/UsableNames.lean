import SchemaGen.Proofs.DocumentLayout
import SchemaGen.Proofs.LinkedModules

/-!
# Names that generated modules can use

The names in a generated module are put together from three texts that are checked apart: the name
of a data transfer object, the name of a type that a field refers to, and the suffix of schema
names.  The first two have to be identifiers, which are ASCII.  The suffix may have letters and
digits of any script, so a configuration that has been accepted can still name every schema by
something that is no identifier.

* `Options.isIdentifier_schemaName`: which suffixes keep the names of schemas identifiers.
* `Config.isIdentifier_iff_isAscii_suffix`: the same for all names of a document.
* `Config.unusable_of_superscript`: an accepted configuration whose names are no identifiers.
-/

namespace SchemaGen

open Text

/-- The name of a schema is an identifier iff the suffix is ASCII. -/
theorem Options.isIdentifier_schemaName {options : Options} {name : String}
    (hsuffix : ∀ c ∈ options.suffix.toList, Config.isSuffixChar c = true)
    (hname : TypeName.isIdentifier name = true) :
    TypeName.isIdentifier (options.schemaName name) = true ↔
      ∀ c ∈ options.suffix.toList, isAscii c = true := by
  unfold schemaName
  rw [TypeName.isIdentifier_append hname]
  exact forall₂_congr fun c hc => TypeName.isIdentifierPart_iff_isAscii (hsuffix c hc)

theorem SharedValidators.isIdentifier_of_mem_names {name : String} (h : name ∈ names) :
    TypeName.isIdentifier name = true := by
  have hall : ∀ name ∈ names, TypeName.isIdentifier name = true := by decide
  exact hall name h

/-- A field only refers to types that are named by identifiers. -/
theorem Document.HasLeaf.isIdentifier {options : Options} {dto : Dto} {type : String}
    (h : HasLeaf options dto (.reference type)) : TypeName.isIdentifier type = true := by
  obtain ⟨field, -, shape, hshape, hleaf⟩ := h
  have hsupported := Shape.supported_ofField hshape
  cases shape with
  | collection element =>
    obtain rfl : element = .reference type := hleaf
    exact hsupported
  | reference name =>
    obtain rfl := Shape.reference.inj hleaf
    exact hsupported
  | _ => exact Shape.noConfusion hleaf

namespace Config

/-- A configuration that is accepted names schemas by identifiers iff its suffix is ASCII.  The
check of the suffix takes letters and digits of any script, while identifiers are ASCII.  So for
every object of a manifest, with any fields, the name of its schema is an identifier iff the suffix
is ASCII, and so is every symbol that its document imports, except that the shared validators are
identifiers in any case. -/
theorem isIdentifier_iff_isAscii_suffix {config : Config} (husable : config.checkUsable = .ok ())
    {path text : String} {format : Manifest.Format} {dtos : List Dto}
    (hparse : Manifest.parse path text format = .ok dtos) {dto : Dto} (hdto : dto ∈ dtos)
    (fields : List Field) :
    (TypeName.isIdentifier (Document.ofDto config.options { dto with fields }).schema = true ↔
      ∀ c ∈ config.suffix.toList, isAscii c = true) ∧
    ∀ i ∈ (Document.ofDto config.options { dto with fields }).imports,
      (TypeName.isIdentifier i.symbol = true ↔ i.symbol ∈ SharedValidators.names ∨
        ∀ c ∈ config.suffix.toList, isAscii c = true) := by
  have hsuffix : ∀ c ∈ config.options.suffix.toList, isSuffixChar c = true := by
    rw [suffix_options]
    exact suffix_of_checkUsable husable
  have hname := (Manifest.parse_eq_ok.mp hparse).2 dto hdto
  rw [← suffix_options]
  refine ⟨Options.isIdentifier_schemaName hsuffix hname, ?_⟩
  intro i hi
  rcases Document.mem_imports_iff_shared_or_sibling.mp hi with hshared | ⟨type, hleaf, -, rfl⟩
  · have hsymbol := hshared.symbol_module.1
    exact iff_of_true (SharedValidators.isIdentifier_of_mem_names hsymbol) (.inl hsymbol)
  · have hschema := Options.isIdentifier_schemaName hsuffix hleaf.isIdentifier
    constructor
    · intro hsymbol
      exact .inr (hschema.mp hsymbol)
    · rintro (hsymbol | hascii)
      · exact SharedValidators.isIdentifier_of_mem_names hsymbol
      · exact hschema.mpr hascii

theorem isIdentifier_iff_isAscii_suffix_sample :
    standard.checkUsable = .ok () ∧
      Manifest.parse "a.dto.json" Run.sampleManifest .json = .ok [Run.sampleDto] ∧
      TypeName.isIdentifier (Document.ofDto standard.options
        { Run.sampleDto with fields := [.ofType "tag" "Tag"] }).schema = true ∧
      ∀ i ∈ (Document.ofDto standard.options
        { Run.sampleDto with fields := [.ofType "tag" "Tag"] }).imports,
        TypeName.isIdentifier i.symbol = true := by
  have husable : standard.checkUsable = .ok () := rfl
  have hparse := Run.parse_sampleManifest "a.dto.json"
  have hall : standard.suffix.toList.all isAscii = true := by decide
  have hascii := List.all_eq_true.mp hall
  obtain ⟨hschema, hsymbols⟩ := isIdentifier_iff_isAscii_suffix husable hparse
    (List.mem_singleton_self _) [.ofType "tag" "Tag"]
  exact ⟨husable, hparse, hschema.mpr hascii, fun i hi => (hsymbols i hi).mpr (.inr hascii)⟩

/-- A configuration whose suffix ends with a digit that is not ASCII. -/
def superscriptConfig : Config :=
  { standard with suffix := "Schema²" }

/-- An accepted configuration with names that no generated module can use. -/
theorem unusable_of_superscript : superscriptConfig.checkUsable = .ok () ∧
    Manifest.parse "a.dto.json" Run.sampleManifest .json = .ok [Run.sampleDto] ∧
    TypeName.isIdentifier (Document.ofDto superscriptConfig.options
      { Run.sampleDto with fields := [.ofType "tag" "Tag"] }).schema = false ∧
    ∃ i ∈ (Document.ofDto superscriptConfig.options
        { Run.sampleDto with fields := [.ofType "tag" "Tag"] }).imports,
      TypeName.isIdentifier i.symbol = false := by
  have husable : superscriptConfig.checkUsable = .ok () := by decide +kernel
  have hschema : ∀ name, superscriptConfig.options.schemaName name = name ++ "Schema²" :=
    Run.schemaName_options superscriptConfig
  have htag : Shape.ofField superscriptConfig.options (.ofType "tag" "Tag") =
      .ok (.reference "Tag") := rfl
  refine ⟨husable, Run.parse_sampleManifest _, ?_, ?_⟩
  · show TypeName.isIdentifier (superscriptConfig.options.schemaName "User") = false
    rw [hschema]
    decide
  · refine ⟨.sibling (superscriptConfig.options.schemaName "Tag"), ?_, ?_⟩
    · refine Document.mem_imports_iff_shared_or_sibling.mpr (.inr ⟨"Tag", ?_, by decide, rfl⟩)
      exact ⟨_, List.mem_singleton_self _, _, htag, rfl⟩
    · show TypeName.isIdentifier (superscriptConfig.options.schemaName "Tag") = false
      rw [hschema]
      decide

end Config

end SchemaGen
