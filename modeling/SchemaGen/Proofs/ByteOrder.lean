import Mathlib.Data.List.Lex

/-!
# The order of texts is the order of their bytes

Texts are compared character by character, while the maps of a configuration and the names in a
directory are ordered by the bytes that encode them.  The two agree.  Of two different characters
the smaller has the smaller encoding, and at the first byte where the encodings differ neither of
them has ended, so what follows the characters makes no difference.

* `Text.bytes`: the bytes of a text, with `Text.toByteArray_bytes`.
* `Text.encode_append_lt`: two characters that differ, whatever follows them.
* `Text.bytes_lt_iff`: texts by their bytes.
* `Text.map_bytes_lt_iff`: lists of texts, text by text.
-/

namespace SchemaGen.Text

/-- The bytes that encode a text. -/
def bytes (s : String) : List UInt8 :=
  s.toList.flatMap String.utf8EncodeChar

/-- The bytes of a text are those of its encoding in UTF-8. -/
theorem toByteArray_bytes (s : String) : (bytes s).toByteArray = s.toUTF8 := by
  have h : s.toList.utf8Encode = s.toByteArray := by
    rw [← String.toByteArray_ofList, String.ofList_toList]
  exact h

/-! ## Characters -/

/-- Lists of bytes compare by the first of them that differ. -/
theorem ofNat_cons_lt_iff {m n : Nat} (hm : m < 256) (hn : n < 256) (s t : List UInt8) :
    UInt8.ofNat m :: s < UInt8.ofNat n :: t ↔ m < n ∨ m = n ∧ s < t := by
  rw [List.cons_lt_cons_iff, UInt8.ofNat_lt_iff_lt hm hn, ← UInt8.toNat_inj, UInt8.toNat_ofNat',
    UInt8.toNat_ofNat', Nat.mod_eq_of_lt hm, Nat.mod_eq_of_lt hn]

/-- Of two numbers the smaller has the smaller last digit, unless they differ before it. -/
theorem digit_lt {v w : Nat} (h : v < w) :
    v / 64 < w / 64 ∨ v / 64 = w / 64 ∧ v % 64 < w % 64 := by
  omega

/-- Of two numbers the smaller has the smaller digit where they first differ. -/
theorem digits_lt {v w : Nat} (h : v < w) :
    v / 262144 < w / 262144 ∨ v / 262144 = w / 262144 ∧
      (v / 4096 % 64 < w / 4096 % 64 ∨ v / 4096 % 64 = w / 4096 % 64 ∧
        (v / 64 % 64 < w / 64 % 64 ∨ v / 64 % 64 = w / 64 % 64 ∧ v % 64 < w % 64)) := by
  have hsecond : ∀ n, n / 4096 = n / 64 / 64 := fun n => (Nat.div_div_eq_div_mul n 64 64).symm
  have hfirst : ∀ n, n / 262144 = n / 64 / 64 / 64 := fun n => by
    rw [Nat.div_div_eq_div_mul, Nat.div_div_eq_div_mul]
  rw [hfirst, hfirst, hsecond, hsecond]
  rcases digit_lt h with h | ⟨h, hlast⟩
  · rcases digit_lt h with h | ⟨h, hlast⟩
    · exact (digit_lt h).imp_right fun ⟨h, hlast⟩ => ⟨h, .inl hlast⟩
    · rw [h]
      exact .inr ⟨rfl, .inr ⟨rfl, .inl hlast⟩⟩
  · rw [h]
    exact .inr ⟨rfl, .inr ⟨rfl, .inr ⟨rfl, hlast⟩⟩⟩

/-- Of two different characters the smaller has the smaller encoding, whatever follows. -/
theorem encode_append_lt {c d : Char} (h : c < d) (s t : List UInt8) :
    String.utf8EncodeChar c ++ s < String.utf8EncodeChar d ++ t := by
  have hlt : c.val.toNat < d.val.toNat := h
  have hd : d.val.toNat ≤ 0x10ffff := by
    have hvalid := d.valid
    simp only [UInt32.isValidChar, Nat.isValidChar] at hvalid
    omega
  unfold String.utf8EncodeChar
  generalize c.val.toNat = v at hlt
  generalize d.val.toNat = w at hlt hd
  have hdigits := digits_lt hlt
  -- A longer encoding begins with a greater byte; those of one length compare digit by digit.
  dsimp only
  split_ifs <;>
    simp (disch := omega) only [List.cons_append, List.nil_append, ofNat_cons_lt_iff,
      Nat.add_lt_add_iff_right, Nat.add_right_cancel_iff, Nat.mod_eq_of_lt] <;>
    omega

/-! ## Texts -/

/-- A list of characters that comes before another has the smaller encoding. -/
theorem flatMap_encode_lt {s t : List Char} (h : s < t) :
    s.flatMap String.utf8EncodeChar < t.flatMap String.utf8EncodeChar := by
  induction h with
  | @nil c t =>
    rw [List.flatMap_nil, List.flatMap_cons]
    cases hc : String.utf8EncodeChar c with
    | nil => exact absurd hc String.utf8EncodeChar_ne_nil
    | cons b bs => exact List.nil_lt_cons _ _
  | rel h => exact encode_append_lt h _ _
  | cons h ih => exact List.append_left_lt ih

theorem bytes_inj {a b : String} : bytes a = bytes b ↔ a = b := by
  refine ⟨fun h => ?_, congrArg bytes⟩
  rw [← String.toByteArray_inj]
  exact (toByteArray_bytes a).symm.trans ((congrArg _ h).trans (toByteArray_bytes b))

/-- A text comes before another iff its bytes do. -/
theorem bytes_lt_iff {a b : String} : bytes a < bytes b ↔ a < b := by
  refine ⟨fun h => ?_, flatMap_encode_lt⟩
  by_contra hnot
  -- Otherwise they would be the same text, or in the other order.
  by_cases heq : b = a
  · exact List.lt_irrefl _ (heq ▸ h)
  · have hlt := Std.lt_of_le_of_ne (String.not_lt.mp hnot) heq
    exact List.lt_asymm h (flatMap_encode_lt hlt)

/-- Lists of texts are compared text by text, and texts by their bytes. -/
theorem map_bytes_lt_iff {l m : List String} : l.map bytes < m.map bytes ↔ l < m := by
  induction l generalizing m with
  | nil =>
    cases m with
    | nil => exact iff_of_false (List.lt_irrefl _) (List.lt_irrefl _)
    | cons b m => exact iff_of_true (List.nil_lt_cons _ _) (List.nil_lt_cons _ _)
  | cons a l ih =>
    cases m with
    | nil => exact iff_of_false (List.not_lt_nil _) (List.not_lt_nil _)
    | cons b m =>
      rw [List.map_cons, List.map_cons, List.cons_lt_cons_iff, List.cons_lt_cons_iff, ih,
        bytes_lt_iff, bytes_inj]

end SchemaGen.Text
