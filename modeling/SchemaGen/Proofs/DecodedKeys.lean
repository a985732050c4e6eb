import SchemaGen.Proofs.NeededImports
import SchemaGen.Proofs.SourceLiterals

/-!
# Keys are decoded to names

What stands between the quotes of a literal is a sequence of escapes, of different lengths, and of
characters that stand there as they are.  A reader takes one of them at a time, so that all
properties of literals are those of the escape of one character in front of any text: no quote
is left that would end the literal early, and the character is read back.  Then distinct names
have distinct keys, since no identifier begins with a quote.

* `Quoted.hasBareQuote`: whether a quote is in a text that no backslash escapes.
* `Quoted.decode_escape`, `Quoted.decode_encode`: escapes are read back.
* `Property.writtenKey_injective`: distinct names have distinct keys.
* `Property.keys_decode`: what literals have between their quotes, and what keys tell.
-/

namespace SchemaGen

open Text

namespace Text.Quoted

/-! ## Quotes -/

/-- A quote is in the text that no backslash escapes. -/
def hasBareQuote : List Char → Bool
  | [] => false
  | '\\' :: _ :: s => hasBareQuote s
  | c :: s => c = '\'' || hasBareQuote s

theorem hasBareQuote_cons {c : Char} (hbackslash : c ≠ '\\') (hquote : c ≠ '\'') (s : List Char) :
    hasBareQuote (c :: s) = hasBareQuote s := by
  rw [hasBareQuote, decide_eq_false hquote, Bool.false_or]
  exact fun _ _ h _ => hbackslash h

theorem hasBareQuote_append {digits : List Char} (h : ∀ c ∈ digits, c ≠ '\\' ∧ c ≠ '\'')
    (s : List Char) : hasBareQuote (digits ++ s) = hasBareQuote s := by
  induction digits with
  | nil => rfl
  | cons c digits ih =>
    obtain ⟨⟨hbackslash, hquote⟩, hdigits⟩ := List.forall_mem_cons.mp h
    rw [List.cons_append, hasBareQuote_cons hbackslash hquote, ih hdigits]

theorem ne_of_mem_hexDigits {k n : Nat} : ∀ c ∈ hexDigits k n, c ≠ '\\' ∧ c ≠ '\'' := by
  intro c hc
  obtain ⟨d, hd, rfl⟩ := mem_hexDigits hc
  have hall : ∀ d, d < 16 → hexDigit d ≠ '\\' ∧ hexDigit d ≠ '\'' := by decide
  exact hall d hd

/-- An escape brings no quote into a text, and hides none that follows it. -/
theorem hasBareQuote_escape (c : Char) (s : List Char) :
    hasBareQuote (escape c ++ s) = hasBareQuote s := by
  unfold escape
  split_ifs with hbackslash hquote hnewline hreturn htab hpoint
  · rfl
  · rfl
  · rfl
  · rfl
  · rfl
  · exact hasBareQuote_append ne_of_mem_hexDigits s
  · exact hasBareQuote_cons hbackslash hquote s

theorem hasBareQuote_encode (s : List Char) : hasBareQuote (encode s) = false := by
  induction s with
  | nil => rfl
  | cons c s ih =>
    have hcons : encode (c :: s) = escape c ++ encode s := rfl
    rw [hcons, hasBareQuote_escape, ih]

theorem needsCodePoint_eq_false {c : Char} :
    needsCodePoint c = false ↔ isControl c = false ∧ c ≠ '\u2028' ∧ c ≠ '\u2029' := by
  simp [needsCodePoint, and_assoc]

/-! ## Reading back -/

/-- A character that stands for itself. -/
theorem decode_raw {c : Char} (hbackslash : c ≠ '\\') (hquote : c ≠ '\'') (hnewline : c ≠ '\n')
    (hreturn : c ≠ '\r') (s : List Char) : decode (c :: s) = (decode s).map (c :: ·) := by
  rw [decode]
  · simp [hbackslash, hquote, hnewline, hreturn]
  · exact fun _ _ _ _ _ h _ => hbackslash h
  · exact fun _ _ h _ => hbackslash h

/-- The letters that follow a backslash, and what they stand for. -/
def letters : List (Char × Char) :=
  [('\\', '\\'), ('\'', '\''), ('n', '\n'), ('r', '\r'), ('t', '\t')]

theorem decode_letter {letter c : Char} (h : (letter, c) ∈ letters) (s : List Char) :
    decode ('\\' :: letter :: s) = (decode s).map (c :: ·) := by
  simp only [letters, List.mem_cons, Prod.mk.injEq, List.not_mem_nil, or_false] at h
  rcases h with ⟨rfl, rfl⟩ | ⟨rfl, rfl⟩ | ⟨rfl, rfl⟩ | ⟨rfl, rfl⟩ | ⟨rfl, rfl⟩ <;>
    cases hs : decode s <;> simp [decode, hs]

/-- Four digits stand for the character of this code point. -/
theorem decode_codePoint {c : Char} (hc : c.toNat < 0x10000) (s : List Char) :
    decode ('\\' :: 'u' :: (hexDigits 4 c.toNat ++ s)) = (decode s).map (c :: ·) := by
  have hread := readHex?_hexDigits 4 c.toNat
  rw [Nat.mod_eq_of_lt hc] at hread
  have hlength := length_hexDigits 4 c.toNat
  generalize hexDigits 4 c.toNat = digits at hread hlength
  match digits, hlength with
  | [d₃, d₂, d₁, d₀], _ => cases hs : decode s <;> simp [decode, hread, hs]

/-- The escape of a character is read as this character. -/
theorem decode_escape (c : Char) (s : List Char) :
    decode (escape c ++ s) = (decode s).map (c :: ·) := by
  unfold escape
  split_ifs with hbackslash hquote hnewline hreturn htab hpoint
  · subst hbackslash
    exact decode_letter (by decide) s
  · subst hquote
    exact decode_letter (by decide) s
  · subst hnewline
    exact decode_letter (by decide) s
  · subst hreturn
    exact decode_letter (by decide) s
  · subst htab
    exact decode_letter (by decide) s
  · exact decode_codePoint (Script.lt_of_needsCodePoint hpoint) s
  · exact decode_raw hbackslash hquote hnewline hreturn s

/-- What stands between the quotes of a literal is read as the text of the literal. -/
theorem decode_encode (s : List Char) : decode (encode s) = some s := by
  -- The reader takes the escape of one character, whatever follows it.
  induction s with
  | nil => rfl
  | cons c s ih =>
    have hcons : encode (c :: s) = escape c ++ encode s := rfl
    rw [hcons, decode_escape, ih, Option.map_some]

theorem encode_injective : Function.Injective encode := by
  intro s t h
  have hdecode := congrArg decode h
  rw [decode_encode, decode_encode] at hdecode
  exact Option.some.inj hdecode

theorem toList_literal (text : String) :
    (literal text).toList = '\'' :: (encode text.toList ++ ['\'']) :=
  String.toList_ofList

theorem literal_injective : Function.Injective literal := by
  intro first second h
  have hlist := congrArg String.toList h
  rw [toList_literal, toList_literal, List.cons_inj_right] at hlist
  exact String.toList_inj.mp (encode_injective (List.append_cancel_right hlist))

end Text.Quoted

/-! ## Keys -/

namespace Property

/-- No identifier is a literal. -/
theorem ne_literal_of_isIdentifier {name : String} (h : TypeName.isIdentifier name = true)
    (text : String) : name ≠ Quoted.literal text := by
  rintro rfl
  refine TypeName.notMem_of_isIdentifier h (c := '\'') (by decide) ?_
  rw [Quoted.toList_literal]
  exact List.mem_cons_self ..

/-- Distinct names have distinct keys. -/
theorem writtenKey_injective : Function.Injective writtenKey := by
  intro first second h
  unfold writtenKey at h
  split at h
  · next hfirst =>
    split at h
    · exact h
    · exact absurd h (ne_literal_of_isIdentifier hfirst second)
  · split at h
    · next hsecond => exact absurd h.symm (ne_literal_of_isIdentifier hsecond first)
    · exact Quoted.literal_injective h

end Property

/-- The property of a field is that of its resolution. -/
theorem Field.toProperty?_eq_some {options : Options} {owner : String} {field : Field}
    {property : Property} : field.toProperty? options owner = some property ↔
      ∃ resolved, field.resolveIn options owner = .ok resolved ∧
        property = ⟨field.name, Property.writtenKey (options.propertyName field.name),
          resolved.expression⟩ := by
  unfold toProperty?
  cases field.resolveIn options owner with
  | error e => simp
  | ok resolved => simp [eq_comm]

namespace Property

/-- Literals decode to the text that they were made of, whatever it is.  Between two quotes there
is no control character, no separator of lines or paragraphs, and no quote that is not escaped, so
that all of it is read, by the escapes alone or as the language reads literals, and nothing more.
So distinct texts have distinct literals; and without a style of names, two fields whose properties
have one key have one name. -/
theorem keys_decode :
    (∀ key : String, ∃ body, (Quoted.literal key).toList = '\'' :: (body ++ ['\'']) ∧
      (∀ c ∈ body, isControl c = false ∧ c ≠ '\u2028' ∧ c ≠ '\u2029') ∧
      Quoted.hasBareQuote body = false ∧
      Quoted.decode body = some key.toList ∧
      ∀ edition rest, Script.scan edition (body ++ '\'' :: rest) =
        some (Script.units key.toList, rest)) ∧
    Function.Injective Quoted.literal ∧
    ∀ options : Options, options.nameStyle = none →
      ∀ (owner owner' : String) (field field' : Field) (property property' : Property),
        field.toProperty? options owner = some property →
        field'.toProperty? options owner' = some property' →
        property.key = property'.key → field.name = field'.name := by
  refine ⟨fun key => ?_, Quoted.literal_injective, ?_⟩
  · refine ⟨Quoted.encode key.toList, Quoted.toList_literal key, fun c hc => ?_,
      Quoted.hasBareQuote_encode _, Quoted.decode_encode _, fun edition rest => ?_⟩
    · obtain ⟨d, -, hescape⟩ := List.mem_flatMap.mp hc
      exact Quoted.needsCodePoint_eq_false.mp (Quoted.needsCodePoint_of_mem_escape hescape)
    · exact Script.scan_encode edition key.toList rest
  · intro options hstyle owner owner' field field' property property' hproperty hproperty' hkey
    have hname : ∀ name, options.propertyName name = name := by
      intro name
      rw [Options.propertyName, hstyle]
    obtain ⟨_, -, rfl⟩ := Field.toProperty?_eq_some.mp hproperty
    obtain ⟨_, -, rfl⟩ := Field.toProperty?_eq_some.mp hproperty'
    simp only [hname] at hkey
    exact writtenKey_injective hkey

theorem keys_decode_sample :
    Quoted.decode "it\\'s\\u2028".toList = some "it's\u2028".toList ∧
      Quoted.literal "it's\u2028" = "'it\\'s\\u2028'" ∧
      Options.standard.nameStyle = none ∧
      (Field.ofType "it's" "int").toProperty? .standard "User" =
        some ⟨"it's", "'it\\'s'", "z.number()"⟩ ∧
      (Field.ofType "it's" "LocalDate").toProperty? .standard "Day" =
        some ⟨"it's", "'it\\'s'", "zDateOnly"⟩ ∧
      (Field.ofType "it's" "int").name = (Field.ofType "it's" "LocalDate").name := by
  obtain ⟨hliteral, -, hkeys⟩ := keys_decode
  obtain ⟨body, hbody, -, -, hdecode, -⟩ := hliteral "it's\u2028"
  have htext : Quoted.literal "it's\u2028" = "'it\\'s\\u2028'" := by decide
  have hsame : body = "it\\'s\\u2028".toList := by
    rw [htext] at hbody
    exact (List.append_cancel_right (List.cons.inj hbody).2).symm
  rw [hsame] at hdecode
  have hnumber : (Field.ofType "it's" "int").toProperty? .standard "User" =
      some ⟨"it's", "'it\\'s'", "z.number()"⟩ := by decide
  have hdate : (Field.ofType "it's" "LocalDate").toProperty? .standard "Day" =
      some ⟨"it's", "'it\\'s'", "zDateOnly"⟩ := by decide
  exact ⟨hdecode, htext, rfl, hnumber, hdate,
    hkeys .standard rfl "User" "Day" _ _ _ _ hnumber hdate rfl⟩

end Property

end SchemaGen
