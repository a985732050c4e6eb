import SchemaGen.Proofs.ByteOrder
import SchemaGen.Proofs.ModuleNames

/-!
# Which of several configured types counts

Type names are configured in full, and looked up by their simple names in lower case, so several
configured names can mean one type.  The options take them one after the other in ascending order,
and of two that mean the same type the later one comes before the earlier in a look-up.  So the
greatest of them decides, and the order is that of their bytes.

* `Options.overrides_foldl`: what any number of additions leaves to be looked up.
* `Overrides.Decides`: the configured name that decides about a type.
* `Config.greatest_key_decides`: what is looked up in the options of a configuration.
-/

namespace SchemaGen

open Text

/-! ## Additions one after the other -/

namespace Assoc

variable {κ κ' ν : Type} [BEq κ'] [LawfulBEq κ'] {f : κ → κ'} {l : List (κ × ν)} {key : κ'}

/-- Where keys are replaced, of the pairs that then have a key the last counts. -/
theorem lookup_reverse_map_eq_some_iff {value : ν} :
    (l.map fun e => (f e.1, e.2)).reverse.lookup key = some value ↔
      ∃ before old after, l = before ++ (old, value) :: after ∧ f old = key ∧
        ∀ e ∈ after, f e.1 ≠ key := by
  rw [lookup_reverse_eq_some_iff]
  constructor
  · rintro ⟨before, after, hl, hafter⟩
    obtain ⟨front, rest, rfl, rfl, hrest⟩ := List.map_eq_append_iff.mp hl
    obtain ⟨⟨old, _⟩, back, rfl, hpair, rfl⟩ := List.map_eq_cons_iff.mp hrest
    obtain ⟨hold, rfl⟩ := Prod.mk.inj hpair
    exact ⟨front, old, back, rfl, hold, fun e he => hafter _ (List.mem_map_of_mem he)⟩
  · rintro ⟨before, old, after, rfl, rfl, hafter⟩
    refine ⟨_, _, List.map_append, fun e he => ?_⟩
    obtain ⟨pair, hpair, rfl⟩ := List.mem_map.mp he
    exact hafter pair hpair

theorem exists_lookup_reverse_map_iff :
    (∃ value, (l.map fun e => (f e.1, e.2)).reverse.lookup key = some value) ↔
      ∃ e ∈ l, f e.1 = key := by
  rw [← Option.isSome_iff_exists, List.lookup_isSome_iff]
  constructor
  · rintro ⟨e, he, hkey⟩
    obtain ⟨pair, hpair, rfl⟩ := List.mem_map.mp (List.mem_reverse.mp he)
    exact ⟨pair, hpair, (eq_of_beq hkey).symm⟩
  · rintro ⟨pair, hpair, rfl⟩
    exact ⟨_, List.mem_reverse.mpr (List.mem_map_of_mem hpair), beq_self_eq_true _⟩

end Assoc

/-- Additions stand in the options by their keys, the last first. -/
theorem Options.overrides_foldl (entries : List (String × String)) (options : Options) :
    (entries.foldl (fun options e => options.override e.1 e.2) options).overrides =
      (entries.map fun e => (overrideKey e.1, e.2)).reverse ++ options.overrides := by
  induction entries generalizing options with
  | nil => rfl
  | cons e entries ih =>
    rw [List.foldl_cons, ih, override, List.map_cons, List.reverse_cons, List.append_assoc,
      List.singleton_append]

namespace Overrides

/-- Of the configured names that have the key of a type, this one is the greatest by its bytes,
and it has this expression. -/
structure Decides (o : Overrides) (type key expression : String) : Prop where
  mem : (key, expression) ∈ o.entries
  same : Options.overrideKey key = Options.overrideKey type
  greatest : ∀ other ∈ o.entries, Options.overrideKey other.1 = Options.overrideKey type →
    other.1 ≠ key → bytes other.1 < bytes key

/-- A configured name decides about a type iff it has the key of the type and none that comes
after it does. -/
theorem decides_iff {o : Overrides} {type key expression : String} :
    o.Decides type key expression ↔
      ∃ before after, o.entries = before ++ (key, expression) :: after ∧
        Options.overrideKey key = Options.overrideKey type ∧
        ∀ e ∈ after, Options.overrideKey e.1 ≠ Options.overrideKey type := by
  have hsplit : ∀ before after, o.entries = before ++ (key, expression) :: after →
      (∀ e ∈ before, e.1 < key) ∧ ∀ e ∈ after, key < e.1 := by
    intro before after hentries
    have hascending := o.ascending
    rw [hentries, List.pairwise_map, List.pairwise_append, List.pairwise_cons] at hascending
    exact ⟨fun e he => hascending.2.2 e he _ (List.mem_cons_self ..), hascending.2.1.1⟩
  constructor
  · rintro ⟨hmem, hsame, hgreatest⟩
    obtain ⟨before, after, hentries⟩ := List.append_of_mem hmem
    refine ⟨before, after, hentries, hsame, fun e he hkey => ?_⟩
    -- An entry behind the greatest would be greater still.
    have hlt := (hsplit before after hentries).2 e he
    have hmem : e ∈ o.entries := by
      rw [hentries]
      exact List.mem_append_right _ (List.mem_cons_of_mem _ he)
    have hless := bytes_lt_iff.mp (hgreatest e hmem hkey (String.ne_of_lt hlt).symm)
    exact String.lt_asymm hlt hless
  · rintro ⟨before, after, hentries, hsame, hafter⟩
    refine ⟨by rw [hentries]; simp, hsame, fun other hother hkey hne => bytes_lt_iff.mpr ?_⟩
    rw [hentries] at hother
    rcases List.mem_append.mp hother with hbefore | hrest
    · exact (hsplit before after hentries).1 other hbefore
    · rcases List.mem_cons.mp hrest with rfl | hmem
      · exact absurd rfl hne
      · exact absurd hkey (hafter other hmem)

end Overrides

/-! ## The options of a configuration -/

namespace Config

theorem overrides_options (config : Config) : config.options.overrides =
    (config.overrides.entries.map fun e => (Options.overrideKey e.1, e.2)).reverse := by
  have h := Options.overrides_foldl config.overrides.entries
    { library := config.library, helpersModule := config.helpersModule, suffix := config.suffix,
      nameStyle := config.nameStyle, overrides := [] }
  rwa [List.append_nil] at h

/-- An expression is found for a type iff a configured name that decides about the type has it. -/
theorem overrideFor_options {config : Config} {type expression : String} :
    config.options.overrideFor type = some expression ↔
      ∃ key, config.overrides.Decides type key expression := by
  unfold Options.overrideFor
  rw [overrides_options, Assoc.lookup_reverse_map_eq_some_iff]
  simp only [Overrides.decides_iff]
  exact exists_comm

/-- For every configuration and every type.  An expression is found for the type iff some
configured name has the same simple name in lower case; the greatest of these names by its bytes
decides, and the expression is the one that it is configured with.  All other options are those of
the configuration, however many types are configured. -/
theorem greatest_key_decides (config : Config) (type : String) :
    ((∃ expression, config.options.overrideFor type = some expression) ↔
      ∃ e ∈ config.overrides.entries,
        lowered (TypeName.simple e.1) = lowered (TypeName.simple type)) ∧
    (∀ expression, config.options.overrideFor type = some expression ↔
      ∃ key, config.overrides.Decides type key expression) ∧
    config.options.library = config.library ∧
    config.options.helpersModule = config.helpersModule ∧
    config.options.suffix = config.suffix ∧
    config.options.nameStyle = config.nameStyle := by
  refine ⟨?_, fun expression => overrideFor_options, congrArg Options.library config.options_eq,
    config.helpersModule_options, config.suffix_options,
    congrArg Options.nameStyle config.options_eq⟩
  unfold Options.overrideFor
  rw [overrides_options]
  exact Assoc.exists_lookup_reverse_map_iff

/-- Small letters come after capital letters. -/
example : (options { overrides := .ofList [("uuid", "zId"), ("java.util.UUID", "zKey"),
    ("UUID", "z.uuid()")] }).overrideFor "Uuid" = some "zId" := by
  decide +kernel

end Config

end SchemaGen
