import Mathlib.Data.List.Nodup
import SchemaGen.Proofs.DecodedKeys

/-!
# The names of properties

A line of a generated schema defines a property, whose name is read back from its key.  It is the
name of the field in the configured style, whether the key is an identifier or a literal, so quoting
never brings two names together.  A style does, since it forgets how words were told apart and which
letters were capitals.  No field is asked whether its name in the style is that of another one,
so properties are kept apart iff the style keeps the names of their fields apart.

* `Script.units_injective`: the code units of a text tell the text.
* `Script.propertyName?`, `Script.definedName?`: the name of a property as the language reads it, at
  the beginning of a text and on a line.
* `Property.definedName?_line`: what is read on the line of a property.
* `Document.names_defined`: the names that a document defines, and when two are the same.
* `Document.one_name_for_two`: two fields whose properties have one name.
-/

namespace SchemaGen

open Text

namespace Script

/-! ## Code units -/

theorem codeUnits_of_lt {n : Nat} (h : n < 0x10000) : codeUnits n = [n] :=
  if_pos h

theorem codeUnits_of_le {n : Nat} (h : 0x10000 ≤ n) : codeUnits n =
    [0xD800 + (n - 0x10000) / 0x400, 0xDC00 + (n - 0x10000) % 0x400] :=
  if_neg (Nat.not_lt.mpr h)

/-- The code units that a text begins with tell its first character: one that begins a pair is not
a character of its own. -/
theorem codeUnits_append_inj {c d : Char} {u v : List Nat}
    (h : codeUnits c.toNat ++ u = codeUnits d.toNat ++ v) : c = d ∧ u = v := by
  have hvalid : ∀ c : Char, c.toNat < 0xD800 ∨ 0xDFFF < c.toNat ∧ c.toNat < 0x110000 :=
    fun c => c.valid
  have hc := hvalid c
  have hd := hvalid d
  rcases Nat.lt_or_ge c.toNat 0x10000 with hsmall | hlarge
  · rw [codeUnits_of_lt hsmall] at h
    rcases Nat.lt_or_ge d.toNat 0x10000 with hsmall' | hlarge'
    · rw [codeUnits_of_lt hsmall'] at h
      obtain ⟨hfirst, hrest⟩ := List.cons.inj h
      exact ⟨Char.toNat_inj.mp hfirst, hrest⟩
    · -- The first unit of a pair is no code point of a character.
      rw [codeUnits_of_le hlarge'] at h
      have hfirst := (List.cons.inj h).1
      omega
  · rw [codeUnits_of_le hlarge] at h
    rcases Nat.lt_or_ge d.toNat 0x10000 with hsmall' | hlarge'
    · rw [codeUnits_of_lt hsmall'] at h
      have hfirst := (List.cons.inj h).1
      omega
    · rw [codeUnits_of_le hlarge'] at h
      obtain ⟨hfirst, h⟩ := List.cons.inj h
      obtain ⟨hsecond, hrest⟩ := List.cons.inj h
      exact ⟨Char.toNat_inj.mp (by omega), hrest⟩

theorem units_cons_ne_nil (c : Char) (s : List Char) : units (c :: s) ≠ [] := by
  intro h
  rw [units_cons] at h
  have hlength := congrArg List.length (List.append_eq_nil_iff.mp h).1
  exact absurd hlength (Nat.ne_of_gt (length_codeUnits_pos c.toNat))

/-- The code units of a text tell the text. -/
theorem units_injective : Function.Injective units := by
  intro s t h
  induction s generalizing t with
  | nil =>
    cases t with
    | nil => rfl
    | cons d t => exact absurd h.symm (units_cons_ne_nil d t)
  | cons c s ih =>
    cases t with
    | nil => exact absurd h (units_cons_ne_nil c s)
    | cons d t =>
      rw [units_cons, units_cons] at h
      obtain ⟨rfl, hrest⟩ := codeUnits_append_inj h
      rw [ih hrest]

/-! ## Reading a property -/

/-- The code units of the property name at the beginning of a text, and what follows it: the name
is a literal or an identifier. -/
def propertyName? (edition : Edition) : List Char → Option (List Nat × List Char)
  | [] => none
  | c :: s =>
    if c = '\'' then scan edition s
    else if TypeName.isIdentifierStart c then
      some (units (c :: s.takeWhile TypeName.isIdentifierPart),
        s.dropWhile TypeName.isIdentifierPart)
    else none

/-- The code units of the name of the property that a line of an object defines. -/
def definedName? (edition : Edition) (line : String) : Option (List Nat) :=
  match propertyName? edition (line.toList.dropWhile (· = ' ')) with
  | some (name, ':' :: _) => some name
  | _ => none

/-- An identifier is read as itself, up to the colon. -/
theorem propertyName?_of_isIdentifier (edition : Edition) {name : String}
    (h : TypeName.isIdentifier name = true) (rest : List Char) :
    propertyName? edition (name.toList ++ ':' :: rest) = some (units name.toList, ':' :: rest) := by
  have hparts := TypeName.isIdentifierPart_of_mem h
  unfold TypeName.isIdentifier at h
  cases hname : name.toList with
  | nil => simp [hname] at h
  | cons c s =>
    simp only [hname, Bool.and_eq_true] at h
    have hquote : c ≠ '\'' := by
      rintro rfl
      exact absurd h.1 (by decide)
    have hs : ∀ d ∈ s, TypeName.isIdentifierPart d = true :=
      fun d hd => hparts d (hname ▸ List.mem_cons_of_mem _ hd)
    have hcolon : ¬ TypeName.isIdentifierPart ':' = true := by decide
    rw [List.cons_append, propertyName?, if_neg hquote, if_pos h.1,
      List.takeWhile_append_of_pos hs, List.takeWhile_cons_of_neg hcolon,
      List.dropWhile_append_of_pos hs, List.dropWhile_cons_of_neg hcolon, List.append_nil]

/-- The key of a property is read as its name. -/
theorem propertyName?_writtenKey (edition : Edition) (name : String) (rest : List Char) :
    propertyName? edition ((Property.writtenKey name).toList ++ ':' :: rest) =
      some (units name.toList, ':' :: rest) := by
  rcases Property.writtenKey_denotes edition name with ⟨hname, hkey⟩ | ⟨s, hkey, hscan⟩
  · rw [hkey]
    exact propertyName?_of_isIdentifier edition hname rest
  · rw [hkey, List.cons_append, propertyName?, if_pos rfl]
    exact hscan (':' :: rest)

end Script

namespace Property

/-- No key begins with a space. -/
theorem dropWhile_writtenKey (name : String) (rest : List Char) :
    ((writtenKey name).toList ++ rest).dropWhile (· = ' ') = (writtenKey name).toList ++ rest := by
  have hcons : ∃ c s, (writtenKey name).toList = c :: s ∧ c ≠ ' ' := by
    unfold writtenKey
    split
    · next hname =>
      have hspace := TypeName.notMem_of_isIdentifier hname (c := ' ') (by decide)
      cases hlist : name.toList with
      | nil => simp [TypeName.isIdentifier, hlist] at hname
      | cons c s =>
        rw [hlist] at hspace
        exact ⟨c, s, rfl, fun h => hspace (h ▸ List.mem_cons_self ..)⟩
    · exact ⟨'\'', _, Quoted.toList_literal name, by decide⟩
  obtain ⟨c, s, hlist, hc⟩ := hcons
  rw [hlist, List.cons_append, List.dropWhile_cons_of_neg (by simpa using hc)]

/-- The line of a property is read as defining the name that its key was made of. -/
theorem definedName?_line (edition : Script.Edition) (field name expression : String) :
    Script.definedName? edition (line ⟨field, writtenKey name, expression⟩) =
      some (Script.units name.toList) := by
  have hline : (line ⟨field, writtenKey name, expression⟩).toList =
      "  ".toList ++
        ((writtenKey name).toList ++ ':' :: (' ' :: (expression.toList ++ [',']))) := by
    simp [line]
  have hspaces : ∀ c ∈ "  ".toList, decide (c = ' ') = true := by decide
  rw [Script.definedName?, hline, List.dropWhile_append_of_pos hspaces, dropWhile_writtenKey,
    Script.propertyName?_writtenKey]
  rfl

end Property

/-- The field has a validator, so it is in the document of `owner`. -/
def Field.isMapped (options : Options) (owner : String) (field : Field) : Bool :=
  (field.resolveIn options owner).isOk

theorem Field.isMapped_of_ok {options : Options} {owner : String} {field : Field}
    {resolved : Resolution} (h : field.resolveIn options owner = .ok resolved) :
    field.isMapped options owner = true := by
  rw [isMapped, h]
  rfl

theorem Field.isMapped_of_error {options : Options} {owner : String} {field : Field}
    {e : TypeError} (h : field.resolveIn options owner = .error e) :
    field.isMapped options owner = false := by
  rw [isMapped, h]
  rfl

theorem Field.toProperty?_of_error {options : Options} {owner : String} {field : Field}
    {e : TypeError} (h : field.resolveIn options owner = .error e) :
    field.toProperty? options owner = none := by
  rw [toProperty?, h]

theorem Field.toSkipped?_of_error {options : Options} {owner : String} {field : Field}
    {e : TypeError} (h : field.resolveIn options owner = .error e) :
    field.toSkipped? options owner = some ⟨field.name, field.displayType, e⟩ := by
  rw [toSkipped?, h]

namespace Document

/-- The code units of the names that the lines of the properties define, one after the other. -/
def definedNames (edition : Script.Edition) (doc : Document) : List (Option (List Nat)) :=
  (doc.properties.map Property.line).map (Script.definedName? edition)

variable {options : Options} {dto : Dto}

/-- Each line defines the name of its field in the configured style. -/
theorem definedNames_ofDto (edition : Script.Edition) (options : Options) (dto : Dto) :
    definedNames edition (ofDto options dto) =
      (dto.fields.filter (Field.isMapped options dto.name)).map fun field =>
        some (Script.units (options.propertyName field.name).toList) := by
  show ((dto.fields.filterMap (Field.toProperty? options dto.name)).map Property.line).map
    (Script.definedName? edition) = _
  induction dto.fields with
  | nil => rfl
  | cons field fields ih =>
    cases hresolved : field.resolveIn options dto.name with
    | error e =>
      have hproperty := Field.toProperty?_of_error hresolved
      have hmapped := Field.isMapped_of_error hresolved
      rw [List.filterMap_cons_none hproperty, List.filter_cons_of_neg (by simp [hmapped]), ih]
    | ok resolved =>
      have hproperty := Field.toProperty?_eq_some.mpr ⟨resolved, hresolved, rfl⟩
      have hmapped := Field.isMapped_of_ok hresolved
      rw [List.filterMap_cons_some hproperty, List.filter_cons_of_pos hmapped, List.map_cons,
        List.map_cons, List.map_cons, ih, Property.definedName?_line]

/-- Of fields with distinct names, two define one name iff the style gives them one. -/
theorem nodup_definedNames_iff {edition : Script.Edition}
    (h : (dto.fields.map Field.name).Nodup) :
    (definedNames edition (ofDto options dto)).Nodup ↔
      ∀ field ∈ dto.fields, ∀ other ∈ dto.fields, field.isMapped options dto.name = true →
        other.isMapped options dto.name = true →
        options.propertyName field.name = options.propertyName other.name →
        field.name = other.name := by
  have hfields : (dto.fields.filter (Field.isMapped options dto.name)).Nodup :=
    (List.Nodup.of_map _ h).filter _
  rw [definedNames_ofDto, List.nodup_map_iff_inj_on hfields]
  simp only [List.mem_filter]
  constructor
  · intro hinj field hfield other hother hmapped hmapped' hname
    have hsame := hinj field ⟨hfield, hmapped⟩ other ⟨hother, hmapped'⟩ (by rw [hname])
    exact congrArg Field.name hsame
  · rintro hstyle field ⟨hfield, hmapped⟩ other ⟨hother, hmapped'⟩ hunits
    have htext := Script.units_injective (Option.some.inj hunits)
    have hname := hstyle field hfield other hother hmapped hmapped' (String.toList_inj.mp htext)
    exact List.inj_on_of_nodup_map h hfield hother hname

/-- What the lines of a schema define, for all options and all fields: one property for each field
that has a validator, in their order, by the name of the field in the configured style.  If no two
fields have one name, then no two properties do iff the style does not give one name to two of the
fields that have a validator; without a style, no two properties do. -/
theorem names_defined (edition : Script.Edition) (options : Options) (dto : Dto) :
    definedNames edition (ofDto options dto) =
      ((dto.fields.filter (Field.isMapped options dto.name)).map fun field =>
        some (Script.units (options.propertyName field.name).toList)) ∧
    ((dto.fields.map Field.name).Nodup →
      ((definedNames edition (ofDto options dto)).Nodup ↔
        ∀ field ∈ dto.fields, ∀ other ∈ dto.fields, field.isMapped options dto.name = true →
          other.isMapped options dto.name = true →
          options.propertyName field.name = options.propertyName other.name →
          field.name = other.name) ∧
      (options.nameStyle = none → (definedNames edition (ofDto options dto)).Nodup)) := by
  refine ⟨definedNames_ofDto edition options dto,
    fun hnames => ⟨nodup_definedNames_iff hnames, fun hstyle => ?_⟩⟩
  refine (nodup_definedNames_iff hnames).mpr ?_
  intro field _ other _ _ _ hname
  rw [Options.propertyName, Options.propertyName, hstyle] at hname
  exact hname

/-- Fields whose names differ by a separator, and one that has no validator. -/
def sampleNames : Dto :=
  ⟨"Header", [.ofType "content-type" "String", .ofType "content.type" "String",
    .ofType "contentType" "List"]⟩

theorem names_defined_sample :
    (sampleNames.fields.map Field.name).Nodup ∧ Options.standard.nameStyle = none ∧
      (definedNames .current (ofDto .standard sampleNames)).Nodup ∧
      definedNames .current (ofDto .standard sampleNames) =
        [some (Script.units "content-type".toList), some (Script.units "content.type".toList)] := by
  have hnames : (sampleNames.fields.map Field.name).Nodup := by decide
  obtain ⟨hdefined, hnodup⟩ := names_defined .current .standard sampleNames
  exact ⟨hnames, rfl, (hnodup hnames).2 rfl, hdefined.trans (by decide +kernel)⟩

/-- Fields with the same words, told apart by a separator and by a capital letter. -/
def sameWords : Dto :=
  ⟨"User", [.ofType "user_name" "String", .ofType "UserName" "String"]⟩

/-- The options of a run that configures a style of names. -/
def camelOptions : Options :=
  { Options.standard with nameStyle := some .camel }

/-- Two fields with distinct names whose properties have one name. -/
theorem one_name_for_two :
    (sameWords.fields.map Field.name).Nodup ∧
      definedNames .current (ofDto camelOptions sameWords) =
        [some (Script.units "userName".toList), some (Script.units "userName".toList)] ∧
      ¬ ∀ (edition : Script.Edition) (options : Options) (dto : Dto),
        (dto.fields.map Field.name).Nodup →
        (definedNames edition (ofDto options dto)).Nodup := by
  have hnames : (sameWords.fields.map Field.name).Nodup := by decide
  have hdefined : definedNames .current (ofDto camelOptions sameWords) =
      [some (Script.units "userName".toList), some (Script.units "userName".toList)] := by
    rw [definedNames_ofDto]
    decide +kernel
  refine ⟨hnames, hdefined, fun h => ?_⟩
  have hnodup := h .current camelOptions sameWords hnames
  rw [hdefined] at hnodup
  exact absurd hnodup (by decide)

end Document

end SchemaGen
