import SchemaGen.Manifest.Json
import SchemaGen.Proofs.JsonTexts

/-!
# Spellings of texts in JSON

Between the quotes of a literal a character is written as itself, by a short escape, or by its code
units in hexadecimal, and there may be spaces between any two tokens.  All spellings of a text are
read alike.

* `Spells`: what stands between the quotes of a literal, and the text that it spells.
* `exists_spells`: every text has a spelling.
* `Spells.exists_literal`: the literal that is read from a spelling.
* `SpellsMember`: a member of an object, with spaces.
* `Field.SpelledJson`: an object that tells the name and the type of a field, and nothing else.
* `Field.ofJson_name_type`, `Field.decode_of_spelledJson`: the field that is read from it.
-/

namespace SchemaGen

namespace Json

open Text

/-! ## Literals -/

/-- What stands between the quotes of a literal, and the text that it spells. -/
inductive Spells : List Char → List Char → Prop
  | nil : Spells [] []
  /-- A character as itself. -/
  | plain {c : Char} {s t : List Char} : ' ' ≤ c → c ≠ '"' → c ≠ '\\' → Spells s t →
      Spells (c :: s) (c :: t)
  /-- A character by a short escape. -/
  | short {c x : Char} {s t : List Char} : shortEscape? c = some x → Spells s t →
      Spells ('\\' :: c :: s) (x :: t)
  /-- A character by its only code unit. -/
  | unit {a b c d : Char} {n : Nat} {s t : List Char} : readHex? [a, b, c, d] = some n →
      Literal.isLeading n = false → Literal.isTrailing n = false → Spells s t →
      Spells ('\\' :: 'u' :: a :: b :: c :: d :: s) (Char.ofNat n :: t)
  /-- A character by two code units. -/
  | pair {a b c d a' b' c' d' : Char} {n m : Nat} {s t : List Char} :
      readHex? [a, b, c, d] = some n → readHex? [a', b', c', d'] = some m →
      Literal.isLeading n = true → Literal.isTrailing m = true → Spells s t →
      Spells ('\\' :: 'u' :: a :: b :: c :: d :: '\\' :: 'u' :: a' :: b' :: c' :: d' :: s)
        (Literal.pair n m :: t)

/-- Every text has a spelling. -/
theorem exists_spells (t : List Char) : ∃ s, Spells s t := by
  induction t with
  | nil => exact ⟨[], .nil⟩
  | cons c t ih =>
    obtain ⟨s, hs⟩ := ih
    by_cases hquote : c = '"'
    · exact ⟨_, .short (c := '"') (by rw [hquote]; rfl) hs⟩
    by_cases hslash : c = '\\'
    · exact ⟨_, .short (c := '\\') (by rw [hslash]; rfl) hs⟩
    by_cases hspace : ' ' ≤ c
    · exact ⟨_, .plain hspace hquote hslash hs⟩
    · have hlt : c.toNat < 32 := UInt32.lt_iff_toNat_lt.mp (Char.not_le.mp hspace)
      have hhex : readHex? (hexDigits 4 c.toNat) = some c.toNat := by
        rw [readHex?_hexDigits, Nat.mod_eq_of_lt (Nat.lt_trans hlt (by decide))]
      have hleading : Literal.isLeading c.toNat = false := by
        simp only [Literal.isLeading, Bool.and_eq_false_iff, decide_eq_false_iff_not]
        omega
      have htrailing : Literal.isTrailing c.toNat = false := by
        simp only [Literal.isTrailing, Bool.and_eq_false_iff, decide_eq_false_iff_not]
        omega
      have hunit := Spells.unit hhex hleading htrailing hs
      rw [Char.ofNat_toNat] at hunit
      exact ⟨_, hunit⟩

namespace Literal

variable {stop : LiteralEnd} {n m : Nat}

/-- A code unit that is no part of a pair is a character. -/
theorem decodeParts_unit (hleading : isLeading n = false) (htrailing : isTrailing n = false)
    (parts : List Part) : decodeParts stop (.code n :: parts) =
      (decodeParts stop parts).map (Char.ofNat n :: ·) := by
  rw [decodeParts.eq_def]
  simp only [htrailing, hleading, Bool.false_eq_true, if_false]

/-- Two code units that are a pair are a character. -/
theorem decodeParts_pair (hleading : isLeading n = true) (htrailing : isTrailing m = true)
    (parts : List Part) : decodeParts stop (.code n :: .code m :: parts) =
      (decodeParts stop parts).map (pair n m :: ·) := by
  have hfirst : isTrailing n = false := by
    simp only [isLeading, isTrailing, Bool.and_eq_true, decide_eq_true_eq,
      Bool.and_eq_false_iff, decide_eq_false_iff_not] at hleading ⊢
    omega
  rw [decodeParts.eq_def]
  simp only [hfirst, hleading, htrailing, Bool.false_eq_true, if_false, if_true]

/-- What is read from a spelling as far as the closing quote. -/
theorem read_spells {s t : List Char} (h : Spells s t) : ∃ parts,
    decodeParts .closed parts = .ok t ∧ ∀ rest, read (s ++ '"' :: rest) = (⟨parts, .closed⟩, rest) := by
  induction h with
  | nil =>
    refine ⟨[], rfl, fun rest => ?_⟩
    simp [read]
  | @plain c s t hspace hquote hslash hs ih =>
    obtain ⟨parts, hdecode, hread⟩ := ih
    refine ⟨.plain c :: parts, ?_, fun rest => ?_⟩
    · rw [decodeParts, hdecode]
      rfl
    · rw [List.cons_append, read, if_neg hslash, if_neg hquote, if_neg (Char.not_lt.mpr hspace),
        hread]
      · rfl
      all_goals
        intros
        exact absurd ‹c = '\\'› hslash
  | @short c x s t hescape hs ih =>
    obtain ⟨parts, hdecode, hread⟩ := ih
    refine ⟨.plain x :: parts, ?_, fun rest => ?_⟩
    · rw [decodeParts, hdecode]
      rfl
    · have hu : c ≠ 'u' := by
        rintro rfl
        have hnone : shortEscape? 'u' = none := by decide
        exact Option.some_ne_none x (hescape.symm.trans hnone)
      rw [List.cons_append, List.cons_append, read]
      · simp only [hescape, hread]
        rfl
      all_goals
        intros
        exact absurd ‹c = 'u'› hu
  | @unit a b c d n s t hhex hleading htrailing hs ih =>
    obtain ⟨parts, hdecode, hread⟩ := ih
    refine ⟨.code n :: parts, ?_, fun rest => ?_⟩
    · rw [decodeParts_unit hleading htrailing, hdecode]
      rfl
    · simp only [List.cons_append, read, hhex, hread]
      rfl
  | @pair a b c d a' b' c' d' n m s t hn hm hleading htrailing hs ih =>
    obtain ⟨parts, hdecode, hread⟩ := ih
    refine ⟨.code n :: .code m :: parts, ?_, fun rest => ?_⟩
    · rw [decodeParts_pair hleading htrailing, hdecode]
      rfl
    · simp only [List.cons_append, read, hn, hm, hread]
      rfl

end Literal

/-- The literal that is read from a spelling, as a token between any others. -/
theorem Spells.exists_literal {s t : List Char} (h : Spells s t) : ∃ l : Literal,
    l.stop = .closed ∧ l.decode = .ok (String.ofList t) ∧
    ∀ (st : State) (rest : List Char), st.read (quoted s rest) = (st.feed (.text l)).read rest := by
  obtain ⟨parts, hdecode, hread⟩ := Literal.read_spells h
  refine ⟨⟨parts, .closed⟩, rfl, ?_, fun st rest => ?_⟩
  · rw [Literal.decode, hdecode]
    rfl
  · rw [quoted, State.read_first st (by decide), Token.first, hread]

/-! ## Spaces and members -/

/-- A text of spaces. -/
def Spaces (s : List Char) : Prop :=
  ∀ c ∈ s, isSpace c = true

/-- Spaces between tokens do not count. -/
theorem State.read_spaces {s : List Char} (h : Spaces s) (st : State) (rest : List Char) :
    st.read (s ++ rest) = st.read rest := by
  induction s with
  | nil => rfl
  | cons c s ih =>
    obtain ⟨hc, hs⟩ := List.forall_mem_cons.mp h
    rw [← ih hs, List.cons_append, State.read, tokens, if_pos hc, State.read]

/-- The text is a key and a value, both of them texts, with any spaces around them. -/
def SpellsMember (key value : String) (text : List Char) : Prop :=
  ∃ k v a b c d, Spells k key.toList ∧ Spells v value.toList ∧
    Spaces a ∧ Spaces b ∧ Spaces c ∧ Spaces d ∧
    text = a ++ quoted k (b ++ ':' :: (c ++ quoted v d))

/-- The text is an object with two members, with any spaces around it. -/
def SpellsPair (key value key' value' : String) (text : List Char) : Prop :=
  ∃ a b m m', Spaces a ∧ Spaces b ∧ SpellsMember key value m ∧ SpellsMember key' value' m' ∧
    text = a ++ '\x7b' :: (m ++ ',' :: (m' ++ '\x7d' :: b))

/-- The member that is read from a text, as the first of an object or a later one. -/
theorem SpellsMember.exists_literals {key value : String} {text : List Char}
    (h : SpellsMember key value text) : ∃ k v : Literal,
      k.decode = .ok key ∧ v.decode = .ok value ∧
      (∀ p rest, (State.firstKey p).read (text ++ rest) =
        (State.afterMember [(k, .text v)] p).read rest) ∧
      ∀ members p rest, (State.nextKey members p).read (text ++ rest) =
        (State.afterMember ((k, .text v) :: members) p).read rest := by
  obtain ⟨s, u, a, b, c, d, hs, hu, ha, hb, hc, hd, rfl⟩ := h
  obtain ⟨k, hkstop, hkey, hk⟩ := hs.exists_literal
  obtain ⟨v, hvstop, hvalue, hv⟩ := hu.exists_literal
  rw [String.ofList_toList] at hkey hvalue
  -- Behind the key the two places are alike.
  have hvalued : ∀ members p rest,
      (State.afterKey members k p).read (b ++ ':' :: (c ++ quoted u (d ++ rest))) =
        (State.afterMember ((k, .text v) :: members) p).read rest := by
    intro members p rest
    have hfed : (State.value (.member members k p)).feed (.text v) =
        .afterMember ((k, .text v) :: members) p := by
      simp only [State.feed, Place.start, hvstop, if_true, Place.fill]
    rw [State.read_spaces hb, State.read_colon]
    show (State.value (.member members k p)).read _ = _
    rw [State.read_spaces hc, hv, hfed, State.read_spaces hd]
  refine ⟨k, v, hkey, hvalue, fun p rest => ?_, fun members p rest => ?_⟩
  · have hfed : (State.firstKey p).feed (.text k) = .afterKey [] k p := by
      simp only [State.feed, Place.startMember, hkstop, if_true]
    simp only [List.append_assoc, List.cons_append, quoted_append]
    rw [State.read_spaces ha, hk, hfed, hvalued]
  · have hfed : (State.nextKey members p).feed (.text k) = .afterKey members k p := by
      simp only [State.feed, Place.startMember, hkstop, if_true]
    simp only [List.append_assoc, List.cons_append, quoted_append]
    rw [State.read_spaces ha, hk, hfed, hvalued]

/-- The tree of an object with two members. -/
theorem SpellsPair.exists_ofText {key value key' value' text : String}
    (h : SpellsPair key value key' value' text.toList) : ∃ k v k' v' : Literal,
      k.decode = .ok key ∧ v.decode = .ok value ∧ k'.decode = .ok key' ∧ v'.decode = .ok value' ∧
      Node.ofText text = (.object [(k, .text v), (k', .text v')] .closed, false) := by
  obtain ⟨a, b, m, m', ha, hb, hm, hm', htext⟩ := h
  obtain ⟨k, v, hkey, hvalue, hfirst, -⟩ := hm.exists_literals
  obtain ⟨k', v', hkey', hvalue', -, hnext⟩ := hm'.exists_literals
  refine ⟨k, v, k', v', hkey, hvalue, hkey', hvalue', ?_⟩
  rw [Node.ofText, ← State.read, htext, State.read_spaces ha, State.read_openObject]
  show ((State.firstKey .top).read _).finish = _
  rw [hfirst, State.read_comma]
  show ((State.nextKey _ .top).read _).finish = _
  have hend := State.read_spaces hb
    (.complete (.object [(k, .text v), (k', .text v')] .closed) false) []
  rw [List.append_nil, State.read_nil] at hend
  rw [hnext, State.read_closeObject]
  show (State.read (.complete (.object [(k, .text v), (k', .text v')] .closed) false) b).finish = _
  rw [hend]
  rfl

/-- There is an object with any two members. -/
theorem exists_spellsPair (key value key' value' : String) :
    ∃ text : String, SpellsPair key value key' value' text.toList := by
  have hnone : Spaces [] := fun _ hc => absurd hc List.not_mem_nil
  have hmember : ∀ key value : String, ∃ m, SpellsMember key value m := by
    intro key value
    obtain ⟨k, hk⟩ := exists_spells key.toList
    obtain ⟨v, hv⟩ := exists_spells value.toList
    exact ⟨_, k, v, [], [], [], [], hk, hv, hnone, hnone, hnone, hnone, rfl⟩
  obtain ⟨m, hm⟩ := hmember key value
  obtain ⟨m', hm'⟩ := hmember key' value'
  exact ⟨String.ofList _, [], [], m, m', hnone, hnone, hm, hm', String.toList_ofList⟩

end Json

/-! ## Fields -/

namespace Field

open Json

/-- The text is an object that tells the name and the type of a field, in either order, and nothing
else. -/
def SpelledJson (name type text : String) : Prop :=
  SpellsPair "name" name "type" type text.toList ∨ SpellsPair "type" type "name" name text.toList

/-- Every field has such an object. -/
theorem exists_spelledJson (name type : String) : ∃ text, SpelledJson name type text := by
  obtain ⟨text, htext⟩ := exists_spellsPair "name" name "type" type
  exact ⟨text, .inl htext⟩

section Members

variable {known : Draft} {k v k' v' : Literal} {name type : String}

theorem readMember_name (hvalue : v.decode = .ok name) (hknown : known.name = none) :
    readMember known "name" (.text v) = .ok { known with name := some name } := by
  rw [readMember, Node.toText, hvalue, hknown]
  rfl

theorem readMember_type (hvalue : v.decode = .ok type) (hknown : known.type = none) :
    readMember known "type" (.text v) = .ok { known with type := some type } := by
  rw [readMember, Node.toText, hvalue, hknown]
  rfl

/-- The field whose name and then its type are told, and nothing else. -/
theorem ofJson_name_type (hkey : k.decode = .ok "name") (hvalue : v.decode = .ok name)
    (hkey' : k'.decode = .ok "type") (hvalue' : v'.decode = .ok type) :
    ofJson (.object [(k, .text v), (k', .text v')] .closed) = .ok (ofType name type) := by
  rw [ofJson, Declaration.ofJson, readMembers_of_decode hkey (readMember_name hvalue rfl),
    readMembers_of_decode hkey' (readMember_type hvalue' rfl), ← ofDeclaration_type]
  rfl

/-- The field whose type and then its name are told, and nothing else. -/
theorem ofJson_type_name (hkey : k.decode = .ok "type") (hvalue : v.decode = .ok type)
    (hkey' : k'.decode = .ok "name") (hvalue' : v'.decode = .ok name) :
    ofJson (.object [(k, .text v), (k', .text v')] .closed) = .ok (ofType name type) := by
  rw [ofJson, Declaration.ofJson, readMembers_of_decode hkey (readMember_type hvalue rfl),
    readMembers_of_decode hkey' (readMember_name hvalue' rfl), ← ofDeclaration_type]
  rfl

end Members

/-- The field that is read from an object with a name and a type is told by the type alone. -/
theorem decode_of_spelledJson {name type text : String} (h : SpelledJson name type text) :
    Json.decode ofJson text = .ok (ofType name type) := by
  have hread : ∀ n : Node, Node.ofText text = (n, false) → ofJson n = .ok (ofType name type) →
      Json.decode ofJson text = .ok (ofType name type) := by
    intro n htext hn
    rw [Json.decode, htext, hn]
    rfl
  rcases h with h | h
  · obtain ⟨k, v, k', v', hkey, hvalue, hkey', hvalue', htext⟩ := h.exists_ofText
    exact hread _ htext (ofJson_name_type hkey hvalue hkey' hvalue')
  · obtain ⟨k, v, k', v', hkey, hvalue, hkey', hvalue', htext⟩ := h.exists_ofText
    exact hread _ htext (ofJson_type_name hkey hvalue hkey' hvalue')

end Field

end SchemaGen
