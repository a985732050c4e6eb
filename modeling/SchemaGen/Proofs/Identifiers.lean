import SchemaGen.Config.Basic

/-!
# The characters of identifiers

Identifiers are ASCII, so what the rules for texts of any script say about them is simple: they
have no blanks, and their lowercase form only replaces capital letters.

* `forall_of_isAscii`: a property of all ASCII characters can be checked one by one.
* `TypeName.isIdentifierPart_of_mem`: the characters of an identifier, and what they are not.
* `TypeName.isIdentifier_append`: identifiers that are continued.
* `TypeName.lowered_of_isIdentifier`: the lowercase form of an identifier.
-/

namespace SchemaGen

open Text

/-- What holds of the characters up to 127 holds of the ASCII characters. -/
theorem forall_of_isAscii (P : Char → Prop) (h : ∀ n : Fin 128, P (Char.ofNat n)) {c : Char}
    (hc : isAscii c = true) : P c := by
  have hlt : c.toNat < 128 := by simpa [isAscii] using hc
  have hchar := h ⟨c.toNat, hlt⟩
  rwa [Char.ofNat_toNat] at hchar

namespace TypeName

theorem isAscii_of_isIdentifierPart {c : Char} (h : isIdentifierPart c = true) :
    isAscii c = true := by
  have hz : 'z'.val.toNat = 122 := rfl
  have hZ : 'Z'.val.toNat = 90 := rfl
  have h9 : '9'.val.toNat = 57 := rfl
  have hline : '_'.val.toNat = 95 := rfl
  have hdollar : '$'.val.toNat = 36 := rfl
  simp only [isIdentifierPart, isIdentifierStart, isAsciiLetter, isAsciiDigit, Bool.or_eq_true,
    Bool.and_eq_true, decide_eq_true_eq, Char.le_def, UInt32.le_iff_toNat_le] at h
  simp only [isAscii, decide_eq_true_eq, Char.toNat]
  rcases h with ((h | rfl) | rfl) | h
  · omega
  · omega
  · omega
  · omega

/-- A character of an identifier may follow the name of a type. -/
theorem isSuffixChar_of_isIdentifierPart {c : Char} (h : isIdentifierPart c = true) :
    Config.isSuffixChar c = true :=
  forall_of_isAscii (fun c => isIdentifierPart c = true → Config.isSuffixChar c = true)
    (by decide) (isAscii_of_isIdentifierPart h) h

/-- No character of an identifier is blank. -/
theorem isBlank_of_isIdentifierPart {c : Char} (h : isIdentifierPart c = true) :
    isBlank c = false :=
  forall_of_isAscii (fun c => isIdentifierPart c = true → isBlank c = false)
    (by decide) (isAscii_of_isIdentifierPart h) h

theorem isIdentifierPart_of_mem {name : String} (h : isIdentifier name = true) :
    ∀ c ∈ name.toList, isIdentifierPart c = true := by
  unfold isIdentifier at h
  split at h
  · simp at h
  · next first rest htext =>
    rw [Bool.and_eq_true, List.all_eq_true] at h
    rw [htext]
    intro c hc
    rcases List.mem_cons.mp hc with rfl | hc
    · rw [isIdentifierPart, h.1, Bool.true_or]
    · exact h.2 c hc

theorem notMem_of_isIdentifier {name : String} {c : Char} (h : isIdentifier name = true)
    (hc : isIdentifierPart c = false) : c ∉ name.toList := by
  intro hmem
  rw [isIdentifierPart_of_mem h c hmem] at hc
  exact Bool.noConfusion hc

theorem isBlank_of_mem_of_isIdentifier {name : String} (h : isIdentifier name = true) :
    ∀ c ∈ name.toList, isBlank c = false :=
  fun c hc => isBlank_of_isIdentifierPart (isIdentifierPart_of_mem h c hc)

/-- An identifier that is continued stays one if nothing but characters of identifiers follows. -/
theorem isIdentifier_append {name text : String} (h : isIdentifier name = true) :
    isIdentifier (name ++ text) = true ↔ ∀ c ∈ text.toList, isIdentifierPart c = true := by
  unfold isIdentifier at h ⊢
  rw [String.toList_append]
  cases hname : name.toList with
  | nil => simp [hname] at h
  | cons first rest =>
    simp only [hname, Bool.and_eq_true] at h
    simp only [List.cons_append, List.all_append, h.1, h.2, Bool.true_and, List.all_eq_true]

/-- Of the characters that a suffix may have, those of identifiers are the ASCII ones. -/
theorem isIdentifierPart_iff_isAscii {c : Char} (h : Config.isSuffixChar c = true) :
    isIdentifierPart c = true ↔ isAscii c = true := by
  refine ⟨isAscii_of_isIdentifierPart, ?_⟩
  intro hascii
  exact forall_of_isAscii (fun c => Config.isSuffixChar c = true → isIdentifierPart c = true)
    (by decide) hascii h

/-- The lowercase form of an ASCII character. -/
theorem lowerChar_of_isAscii {c : Char} (h : isAscii c = true) : lowerChar c = [c.toLower] :=
  forall_of_isAscii (fun c => lowerChar c = [c.toLower]) (by decide) h

theorem lowerFrom_of_isAscii {s : List Char} (h : ∀ c ∈ s, isAscii c = true) (inWord : Bool) :
    lowerFrom inWord s = s.map Char.toLower := by
  induction s generalizing inWord with
  | nil => rfl
  | cons c s ih =>
    have hc := h c (List.mem_cons_self ..)
    have hsigma : c ≠ 'Σ' := by
      rintro rfl
      exact absurd hc (by decide)
    rw [lowerFrom, if_neg hsigma, lowerChar_of_isAscii hc,
      ih (fun c hc => h c (List.mem_cons_of_mem _ hc)), List.map_cons, List.singleton_append]

/-- The lowercase form of an identifier only replaces capital letters. -/
theorem lowered_of_isIdentifier {name : String} (h : isIdentifier name = true) :
    lowered name = String.ofList (name.toList.map Char.toLower) := by
  have hascii : ∀ c ∈ name.toList, isAscii c = true :=
    fun c hc => isAscii_of_isIdentifierPart (isIdentifierPart_of_mem h c hc)
  rw [lowered, lower, lowerFrom_of_isAscii hascii]

end TypeName

end SchemaGen
