import SchemaGen.Proofs.ElementTypes
import SchemaGen.Proofs.TypeExpressions

/-!
# What is read of signatures

The element type of a signature is the segment before its last closing bracket, back to the last
separator before that.  A signature has at most one such segment, so what is read of it, or what is
wrong with it, is said of its parts.

* `SegmentedSignature`: a signature in parts, with `text_injective`: the text tells the parts.
* `SegmentedSignature.elementOf_text`: what is read of such a signature.
* `TypeName.unsegmented_or_existsUnique`: any other signature lacks the bracket or the separator.
* `TypeName.elementOf_grammar`: what is read of every text.
-/

namespace SchemaGen

open Text TypeExpression

/-- A signature in the parts that tell its element type. -/
structure SegmentedSignature where
  /-- What precedes the separator. -/
  lead : List Char
  /-- The last separator before the last closing bracket. -/
  separator : Char
  /-- What stands between the two. -/
  segment : List Char
  /-- What follows the bracket. -/
  rest : List Char
  separator_eq : separator = '.' ∨ separator = '<'
  dot_notMem : '.' ∉ segment
  open_notMem : '<' ∉ segment
  close_notMem : '>' ∉ rest

namespace SegmentedSignature

variable (signature : SegmentedSignature)

/-- What precedes the last closing bracket. -/
def head : List Char :=
  signature.lead ++ signature.separator :: signature.segment

/-- The signature. -/
def text : String :=
  String.ofList (signature.head ++ '>' :: signature.rest)

/-- The element type. -/
def name : String :=
  String.ofList (trim signature.segment)

/-- The number of opening brackets up to the separator. -/
def openings : Nat :=
  (signature.lead ++ [signature.separator]).count '<'

theorem toList_text : signature.text.toList = signature.head ++ '>' :: signature.rest :=
  String.toList_ofList

theorem isSeparator_separator : isSeparator signature.separator = true := by
  rcases signature.separator_eq with h | h
  · rw [h]
    decide
  · rw [h]
    decide

theorem isSeparator_of_mem_segment : ∀ c ∈ signature.segment, isSeparator c = false :=
  isSeparator_of_notMem signature.dot_notMem signature.open_notMem

/-- No more brackets are opened in the segment. -/
theorem count_head : signature.head.count '<' = signature.openings := by
  have hsegment : signature.segment.count '<' = 0 := List.count_eq_zero.mpr signature.open_notMem
  rw [head, openings, List.append_cons, List.count_append, hsegment, Nat.add_zero]

/-- The text tells the parts. -/
theorem text_injective : Function.Injective text := by
  intro first second h
  have hclose : ∀ signature : SegmentedSignature,
      splitLast? (· = '>') signature.text.toList = some (signature.head, '>', signature.rest) := by
    intro signature
    rw [toList_text]
    exact splitLast?_of_notMem signature.close_notMem
  have hsegment : ∀ signature : SegmentedSignature, splitLast? isSeparator signature.head =
      some (signature.lead, signature.separator, signature.segment) :=
    fun signature =>
      splitLast?_append_cons signature.isSeparator_of_mem_segment signature.isSeparator_separator
  have hparts := hclose first
  rw [h, hclose second, Option.some.injEq, Prod.mk.injEq, Prod.mk.injEq] at hparts
  obtain ⟨hhead, -, hrest⟩ := hparts
  have hparts := hsegment first
  rw [← hhead, hsegment second, Option.some.injEq, Prod.mk.injEq, Prod.mk.injEq] at hparts
  obtain ⟨hlead, hseparator, hsegment⟩ := hparts
  cases first
  cases second
  simp_all

/-- A text with a separator before its last closing bracket has a segment. -/
theorem exists_of_separator {head rest : List Char} (hseparator : ∃ c ∈ head, isSeparator c = true)
    (hrest : '>' ∉ rest) :
    ∃ signature : SegmentedSignature, signature.head = head ∧ signature.rest = rest := by
  obtain ⟨lead, c, hc, hhead⟩ := exists_cut hseparator
  have hnone : ∀ c, isSeparator c = true → c ∉ afterLast isSeparator head :=
    fun c hc hmem => absurd hc (Bool.eq_false_iff.mp (not_of_mem_afterLast c hmem))
  have heq : c = '.' ∨ c = '<' := by simpa [isSeparator] using hc
  exact ⟨⟨lead, c, _, rest, heq, hnone '.' rfl, hnone '<' rfl, hrest⟩, hhead.symm, rfl⟩

/-- What is read of the signature. -/
theorem elementOf_text : TypeName.elementOf signature.text =
    if 1 < signature.openings then .error (.recursiveCollection signature.text)
    else if TypeName.isCollection signature.name then .error (.recursiveCollection signature.name)
    else if TypeName.isIdentifier signature.name then .ok signature.name
    else .error (.malformedSignature signature.text (.notATypeName signature.name)) := by
  have hmem : ∃ c ∈ signature.head, isSeparator c = true :=
    ⟨_, List.mem_append_right _ (List.mem_cons_self ..), signature.isSeparator_separator⟩
  have hsegment : afterLast isSeparator signature.head = signature.segment :=
    afterLast_append_cons signature.isSeparator_of_mem_segment signature.isSeparator_separator
  rw [elementOf_of_separator signature.toList_text signature.close_notMem hmem, hsegment,
    signature.count_head]
  rfl

/-- When an element type is read of the signature. -/
theorem elementOf_text_eq_ok {name : String} : TypeName.elementOf signature.text = .ok name ↔
    signature.openings ≤ 1 ∧ signature.name = name ∧ TypeName.isIdentifier name = true ∧
      TypeName.isCollection name = false := by
  rw [elementOf_text]
  constructor
  · intro h
    by_cases hopenings : 1 < signature.openings
    · rw [if_pos hopenings] at h
      exact absurd h (by simp)
    · rw [if_neg hopenings] at h
      cases hnot : TypeName.isCollection signature.name with
      | true => simp [hnot] at h
      | false =>
        cases hname : TypeName.isIdentifier signature.name with
        | false => simp [hnot, hname] at h
        | true =>
          rw [hnot, hname, if_neg Bool.false_ne_true, if_pos rfl] at h
          obtain rfl := Except.ok.inj h
          exact ⟨Nat.not_lt.mp hopenings, rfl, hname, hnot⟩
  · rintro ⟨hopenings, rfl, hname, hnot⟩
    rw [if_neg (Nat.not_lt.mpr hopenings), hnot, if_neg Bool.false_ne_true, if_pos hname]

/-- An array is a collection. -/
theorem isCollection_name_of_suffix (h : "[]".toList <:+ signature.name.toList) :
    TypeName.isCollection signature.name = true := by
  have htrim : (trimmed signature.name).toList = signature.name.toList := by
    rw [name, TypeName.toList_trimmed, String.toList_ofList, trim_trim]
  unfold TypeName.isCollection
  simp only [htrim, List.isSuffixOf_iff_suffix.mpr h, Bool.true_or]

end SegmentedSignature

namespace TypeName

/-- The text has a closing bracket, but no separator before the last one. -/
def LacksSeparator (text : String) : Prop :=
  ∃ head rest, text.toList = head ++ '>' :: rest ∧ '>' ∉ rest ∧ '.' ∉ head ∧ '<' ∉ head

theorem elementOf_of_notMem {text : String} (h : '>' ∉ text.toList) :
    elementOf text = .error (.malformedSignature text .noClosingBracket) := by
  have hclose : splitLast? (· = '>') text.toList = none :=
    splitLast?_of_forall (decide_eq_false_of_notMem h)
  unfold elementOf
  simp only [hclose]

theorem elementOf_of_lacksSeparator {text : String} (h : LacksSeparator text) :
    elementOf text = .error (.malformedSignature text .noSeparator) := by
  obtain ⟨head, rest, htext, hrest, hdot, hopen⟩ := h
  have hclose : splitLast? (· = '>') text.toList = some (head, '>', rest) := by
    rw [htext]
    exact splitLast?_of_notMem hrest
  have hsplit : splitLast? (fun c => c = '.' || c = '<') head = none :=
    splitLast?_of_forall (isSeparator_of_notMem hdot hopen)
  unfold elementOf
  simp only [hclose, hsplit]

/-- A text lacks the closing bracket, lacks the separator, or has one segment. -/
theorem unsegmented_or_existsUnique (text : String) : '>' ∉ text.toList ∨ LacksSeparator text ∨
    ∃! signature : SegmentedSignature, signature.text = text := by
  by_cases hclose : ∃ c ∈ text.toList, decide (c = '>') = true
  · obtain ⟨head, c, hc, htext⟩ := exists_cut hclose
    obtain rfl := of_decide_eq_true hc
    generalize hrest : afterLast (fun c => decide (c = '>')) text.toList = rest at htext
    have hnotMem : '>' ∉ rest := by
      rw [← hrest]
      exact fun hmem => absurd (not_of_mem_afterLast _ hmem) (by decide)
    by_cases hseparator : ∃ c ∈ head, isSeparator c = true
    · obtain ⟨signature, rfl, rfl⟩ := SegmentedSignature.exists_of_separator hseparator hnotMem
      have hsignature : signature.text = text := by
        rw [SegmentedSignature.text, ← htext, String.ofList_toList]
      exact .inr (.inr ⟨signature, hsignature,
        fun other hother => SegmentedSignature.text_injective (hother.trans hsignature.symm)⟩)
    · refine .inr (.inl ⟨head, rest, htext, hnotMem, ?_, ?_⟩)
      · exact fun hmem => hseparator ⟨'.', hmem, rfl⟩
      · exact fun hmem => hseparator ⟨'<', hmem, rfl⟩
  · exact .inl fun hmem => hclose ⟨'>', hmem, by decide⟩

/-- The texts that tell an element type. -/
theorem elementOf_eq_ok {text name : String} : elementOf text = .ok name ↔
    ∃ signature : SegmentedSignature, signature.text = text ∧ signature.openings ≤ 1 ∧
      signature.name = name ∧ isIdentifier name = true ∧ isCollection name = false := by
  constructor
  · intro h
    rcases unsegmented_or_existsUnique text with hclose | hseparator | ⟨signature, rfl, -⟩
    · rw [elementOf_of_notMem hclose] at h
      exact absurd h (by simp)
    · rw [elementOf_of_lacksSeparator hseparator] at h
      exact absurd h (by simp)
    · exact ⟨signature, rfl, signature.elementOf_text_eq_ok.mp h⟩
  · rintro ⟨signature, rfl, h⟩
    exact signature.elementOf_text_eq_ok.mpr h

/-- What is read of a text as a signature.  It tells an element type exactly if it has a segment
before its last closing bracket, at most one opening bracket up to there, and in the segment,
blanks around it apart, an identifier that is no collection.  Any other text is refused for the
first of these faults: it has no closing bracket, no separator before the last one, more than one
opening bracket before it, a collection in the segment, or anything else there that is no
identifier.  Every text lacks the bracket, lacks the separator, or has exactly one segment. -/
theorem elementOf_grammar (text : String) :
    (∀ name, elementOf text = .ok name ↔ ∃ signature : SegmentedSignature,
      signature.text = text ∧ signature.openings ≤ 1 ∧ signature.name = name ∧
        isIdentifier name = true ∧ isCollection name = false) ∧
    ('>' ∉ text.toList → elementOf text = .error (.malformedSignature text .noClosingBracket)) ∧
    (LacksSeparator text → elementOf text = .error (.malformedSignature text .noSeparator)) ∧
    (∀ signature : SegmentedSignature, signature.text = text →
      (2 ≤ signature.head.count '<' → elementOf text = .error (.recursiveCollection text)) ∧
      (signature.head.count '<' ≤ 1 →
        (isCollection signature.name = true ∨ "[]".toList <:+ signature.name.toList →
          elementOf text = .error (.recursiveCollection signature.name)) ∧
        (isCollection signature.name = false → isIdentifier signature.name = false →
          elementOf text =
            .error (.malformedSignature text (.notATypeName signature.name))))) ∧
    ('>' ∉ text.toList ∨ LacksSeparator text ∨
      ∃! signature : SegmentedSignature, signature.text = text) := by
  refine ⟨fun name => elementOf_eq_ok, elementOf_of_notMem, elementOf_of_lacksSeparator, ?_,
    unsegmented_or_existsUnique text⟩
  rintro signature rfl
  rw [signature.count_head, signature.elementOf_text]
  refine ⟨fun hopenings => if_pos hopenings, fun hopenings => ?_⟩
  rw [if_neg (Nat.not_lt.mpr hopenings)]
  refine ⟨fun h => if_pos (h.elim id signature.isCollection_name_of_suffix), fun hnot hname => ?_⟩
  rw [hnot, if_neg Bool.false_ne_true, hname, if_neg Bool.false_ne_true]

/-- A signature with a blank around the element type, and text after the bracket. -/
def sampleSignature : SegmentedSignature :=
  ⟨"java.util.List<com.acme".toList, '.', " Tag".toList, "...".toList, .inl rfl, by decide,
    by decide, by decide⟩

/-- A signature with one type argument, which is no path. -/
def sampleApplication (container argument : String) (hdot : '.' ∉ argument.toList)
    (hopen : '<' ∉ argument.toList) : SegmentedSignature :=
  ⟨container.toList, '<', argument.toList, [], .inr rfl, hdot, hopen, List.not_mem_nil⟩

theorem elementOf_grammar_sample :
    elementOf "java.util.List<com.acme. Tag>..." = .ok "Tag" ∧
      elementOf "List" = .error (.malformedSignature "List" .noClosingBracket) ∧
      elementOf "Tag>" = .error (.malformedSignature "Tag>" .noSeparator) ∧
      elementOf "List<Set<Tag>>" = .error (.recursiveCollection "List<Set<Tag>>") ∧
      elementOf "List<int[] >" = .error (.recursiveCollection "int[]") ∧
      elementOf "Map<K,V>" = .error (.malformedSignature "Map<K,V>" (.notATypeName "K,V")) := by
  have hlacks : LacksSeparator "Tag>" :=
    ⟨"Tag".toList, [], by decide, by decide, by decide, by decide⟩
  have hnested := (elementOf_grammar "List<Set<Tag>>").2.2.2.1
    (sampleApplication "List<Set" "Tag>" (by decide) (by decide)) (by decide)
  have harray := (elementOf_grammar "List<int[] >").2.2.2.1
    (sampleApplication "List" "int[] " (by decide) (by decide)) (by decide)
  have hmap := (elementOf_grammar "Map<K,V>").2.2.2.1
    (sampleApplication "Map" "K,V" (by decide) (by decide)) (by decide)
  refine ⟨?_, ?_, ?_, hnested.1 (by decide), ?_, ?_⟩
  · exact ((elementOf_grammar _).1 _).mpr
      ⟨sampleSignature, by decide, by decide, by decide, by decide, by decide⟩
  · exact (elementOf_grammar _).2.1 (by decide)
  · exact (elementOf_grammar _).2.2.1 hlacks
  · exact (harray.2 (by decide)).1 (.inl (by decide))
  · exact (hmap.2 (by decide)).2 (by decide) (by decide)

end TypeName

end SchemaGen
