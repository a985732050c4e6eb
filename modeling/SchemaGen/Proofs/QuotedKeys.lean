import Mathlib.Tactic.SplitIfs
import SchemaGen.Document
import SchemaGen.Proofs.Identifiers

/-!
# The characters of written keys

A property is named by any text that a manifest has for a field, and that text reaches the
generated module as a key.  Whatever it is, the key has no control character and no line or
paragraph separator: an identifier is made of ASCII letters, digits, underscores and dollar signs,
and in a literal every other character that could end the line is escaped.

* `mem_hexDigits`: the digits of a code point.
* `Quoted.needsCodePoint_of_mem_escape`, `Quoted.needsCodePoint_of_mem_literal`: the characters of
  a literal.
* `Property.needsCodePoint_of_mem_writtenKey`: the characters of a key.
-/

namespace SchemaGen

namespace Text

/-- Every hexadecimal digit is that of a value below sixteen. -/
theorem mem_hexDigits {k n : Nat} {c : Char} (h : c ∈ hexDigits k n) :
    ∃ d, d < 16 ∧ c = hexDigit d := by
  induction k generalizing n with
  | zero => exact absurd h List.not_mem_nil
  | succ k ih =>
    rw [hexDigits, List.mem_append] at h
    rcases h with h | h
    · exact ih h
    · exact ⟨n % 16, Nat.mod_lt _ (by decide), List.mem_singleton.mp h⟩

namespace Quoted

theorem needsCodePoint_hexDigit : ∀ d, d < 16 → needsCodePoint (hexDigit d) = false := by decide

/-- No character of an escape has to be escaped by its code point. -/
theorem needsCodePoint_of_mem_escape {c d : Char} (h : d ∈ escape c) :
    needsCodePoint d = false := by
  have hpair : ∀ a b : Char, needsCodePoint a = false → needsCodePoint b = false →
      d ∈ [a, b] → needsCodePoint d = false := by
    intro a b ha hb hd
    rcases List.mem_cons.mp hd with rfl | hd
    · exact ha
    · rw [List.mem_singleton.mp hd]
      exact hb
  unfold escape at h
  split_ifs at h with hbackslash hquote hnewline hreturn htab hpoint
  · exact hpair '\\' '\\' (by decide) (by decide) h
  · exact hpair '\\' '\'' (by decide) (by decide) h
  · exact hpair '\\' 'n' (by decide) (by decide) h
  · exact hpair '\\' 'r' (by decide) (by decide) h
  · exact hpair '\\' 't' (by decide) (by decide) h
  · -- A code point is written by a backslash, a letter, and its digits.
    rcases List.mem_cons.mp h with rfl | h
    · decide
    · rcases List.mem_cons.mp h with rfl | h
      · decide
      · obtain ⟨value, hvalue, rfl⟩ := mem_hexDigits h
        exact needsCodePoint_hexDigit value hvalue
  · rw [List.mem_singleton.mp h]
    exact Bool.eq_false_iff.mpr hpoint

/-- No character of a literal is a control character or a separator of lines. -/
theorem needsCodePoint_of_mem_literal {text : String} {c : Char}
    (h : c ∈ (literal text).toList) : needsCodePoint c = false := by
  rw [literal, String.toList_ofList, List.cons_append, List.mem_cons, List.mem_append] at h
  rcases h with rfl | h | h
  · decide
  · obtain ⟨d, -, hd⟩ := List.mem_flatMap.mp h
    exact needsCodePoint_of_mem_escape hd
  · rw [List.mem_singleton.mp h]
    decide

end Quoted

end Text

open Text

/-- No character of an identifier is a control character or a separator of lines. -/
theorem TypeName.needsCodePoint_of_isIdentifierPart {c : Char}
    (h : TypeName.isIdentifierPart c = true) : Quoted.needsCodePoint c = false :=
  forall_of_isAscii (fun c => TypeName.isIdentifierPart c = true → Quoted.needsCodePoint c = false)
    (by decide) (TypeName.isAscii_of_isIdentifierPart h) h

/-- No character of a key is a control character or a separator of lines, whatever the field is
named. -/
theorem Property.needsCodePoint_of_mem_writtenKey {name : String} {c : Char}
    (h : c ∈ (writtenKey name).toList) : Quoted.needsCodePoint c = false := by
  unfold writtenKey at h
  split at h
  · next hname =>
    have hpart := TypeName.isIdentifierPart_of_mem hname c h
    exact TypeName.needsCodePoint_of_isIdentifierPart hpart
  · exact Quoted.needsCodePoint_of_mem_literal h

end SchemaGen
