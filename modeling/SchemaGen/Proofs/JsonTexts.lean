import SchemaGen.Json.Decoding
import SchemaGen.Proofs.ManifestOutlines
import SchemaGen.Proofs.Results

/-!
# Reading well-formed texts

What the reader of values does with a text is a matter of its parts: each part takes it from one
state to the next, whatever follows.

* `State.read`: reads the tokens of a text; `read_first` takes one of them.
* `State.read_quoted`: a text between quotes is one token, if its characters are verbatim.
* `Written`: a text that is an object in every place, and `State.read_list`: a list of them.
* `Node.ofText_of_written`: the tree of such a text.
* `Node.toText_verbatim`, `Node.toList_map`: what texts and lists stand for.
-/

namespace SchemaGen.Json

open Text

/-! ## Texts between quotes -/

namespace Literal

/-- The literal without escapes that holds these characters. -/
def verbatim (t : List Char) : Literal :=
  ⟨t.map .plain, .closed⟩

/-- A literal without escapes goes as far as the next quote. -/
theorem read_verbatim {t : List Char} (h : ∀ c ∈ t, isVerbatim c = true) (s : List Char) :
    read (t ++ '"' :: s) = (verbatim t, s) := by
  induction t with
  | nil => simp [read, verbatim]
  | cons c t ih =>
    have hc := h c (List.mem_cons_self ..)
    have hquote := (ne_of_isVerbatim hc).1
    have hslash := (ne_of_isVerbatim hc).2
    have hspace := (space_le_of_isVerbatim hc).1
    have ih := ih fun c hc => h c (List.mem_cons_of_mem _ hc)
    rw [List.cons_append, read, if_neg hslash, if_neg hquote, if_neg (Char.not_lt.mpr hspace), ih]
    · rfl
    all_goals
      intros
      exact absurd ‹c = '\\'› hslash

theorem decodeParts_plain (t : List Char) : decodeParts .closed (t.map .plain) = .ok t := by
  induction t with
  | nil => rfl
  | cons c t ih => rw [List.map_cons, decodeParts, ih]; rfl

/-- A literal without escapes stands for its characters. -/
theorem decode_verbatim (t : List Char) : decode (verbatim t) = .ok (String.ofList t) := by
  rw [verbatim, decode, decodeParts_plain]
  rfl

end Literal

/-! ## Tokens one after the other -/

namespace State

/-- Reads the tokens of a text. -/
def read (st : State) (s : List Char) : State :=
  (tokens s).foldl feed st

theorem read_nil (st : State) : st.read [] = st := by
  rw [read, tokens, List.foldl_nil]

/-- A space between tokens does not count. -/
theorem read_space (st : State) (s : List Char) : st.read (' ' :: s) = st.read s := by
  rw [read, tokens, if_pos (by decide), read]

/-- The first token of a text takes the reader to its next state. -/
theorem read_first (st : State) {c : Char} (h : isSpace c = false) (s : List Char) :
    st.read (c :: s) = (st.feed (Token.first c s).1).read (Token.first c s).2 := by
  rw [read, tokens, if_neg (by simp [h]), List.foldl_cons, read]

theorem read_openObject (st : State) (s : List Char) :
    st.read ('\x7b' :: s) = (st.feed .openObject).read s :=
  st.read_first (by decide) s

theorem read_closeObject (st : State) (s : List Char) :
    st.read ('\x7d' :: s) = (st.feed .closeObject).read s :=
  st.read_first (by decide) s

theorem read_openList (st : State) (s : List Char) :
    st.read ('[' :: s) = (st.feed .openList).read s :=
  st.read_first (by decide) s

theorem read_closeList (st : State) (s : List Char) :
    st.read (']' :: s) = (st.feed .closeList).read s :=
  st.read_first (by decide) s

theorem read_colon (st : State) (s : List Char) : st.read (':' :: s) = (st.feed .colon).read s :=
  st.read_first (by decide) s

theorem read_comma (st : State) (s : List Char) : st.read (',' :: s) = (st.feed .comma).read s :=
  st.read_first (by decide) s

/-- A text between quotes is one token. -/
theorem read_quoted (st : State) {t : List Char} (h : ∀ c ∈ t, isVerbatim c = true)
    (s : List Char) : st.read (quoted t s) = (st.feed (.text (.verbatim t))).read s := by
  rw [quoted, read_first st (by decide), Token.first, Literal.read_verbatim h]

/-- A text as a value. -/
theorem read_value_quoted (p : Place) {t : List Char} (h : ∀ c ∈ t, isVerbatim c = true)
    (s : List Char) :
    (State.value p).read (quoted t s) = (p.fill (.text (.verbatim t))).read s :=
  read_quoted _ h s

/-- The first key of an object. -/
theorem read_firstKey (p : Place) {key : List Char} (h : ∀ c ∈ key, isVerbatim c = true)
    (s : List Char) :
    (State.firstKey p).read (' ' :: quoted key (':' :: ' ' :: s)) =
      (State.value (.member [] (.verbatim key) p)).read s := by
  rw [read_space, read_quoted _ h, read_colon, read_space]
  rfl

/-- A later key of an object, behind the comma that follows a member. -/
theorem read_nextKey (members : List (Literal × Node)) (p : Place) {key : List Char}
    (h : ∀ c ∈ key, isVerbatim c = true) (s : List Char) :
    (State.afterMember members p).read (',' :: ' ' :: quoted key (':' :: ' ' :: s)) =
      (State.value (.member members (.verbatim key) p)).read s := by
  rw [read_comma, read_space, read_quoted _ h, read_colon, read_space]
  rfl

/-- The end of an object. -/
theorem read_objectEnd (members : List (Literal × Node)) (p : Place) (s : List Char) :
    (State.afterMember members p).read (' ' :: '\x7d' :: s) =
      (p.fill (.object members.reverse .closed)).read s := by
  rw [read_space, read_closeObject]
  rfl

end State

/-! ## Objects and lists of them -/

/-- The text is an object, and it is this value in every place. -/
def Written (s : List Char) (n : Node) : Prop :=
  ∃ inner, s = '\x7b' :: inner ∧
    ∀ p rest, (State.firstKey p).read (inner ++ rest) = (p.fill n).read rest

-- The brace is split off since an object is awaited differently as a value and as an item, while
-- behind the brace all places are alike.
theorem Written.value {s : List Char} {n : Node} (h : Written s n) (p : Place)
    (rest : List Char) : (State.value p).read (s ++ rest) = (p.fill n).read rest := by
  obtain ⟨inner, rfl, hinner⟩ := h
  rw [List.cons_append, State.read_openObject]
  exact hinner p rest

/-- The first item of a list. -/
theorem Written.firstItem {s : List Char} {n : Node} (h : Written s n) (p : Place)
    (rest : List Char) :
    (State.firstItem p).read (s ++ rest) = (State.afterItem [n] p).read rest := by
  obtain ⟨inner, rfl, hinner⟩ := h
  rw [List.cons_append, State.read_openObject]
  exact hinner (.item [] p) rest

/-- A later item of a list, behind the comma that follows an item. -/
theorem Written.nextItem {s : List Char} {n : Node} (h : Written s n) (items : List Node)
    (p : Place) (rest : List Char) :
    (State.afterItem items p).read (',' :: ' ' :: (s ++ rest)) =
      (State.afterItem (n :: items) p).read rest := by
  obtain ⟨inner, rfl, hinner⟩ := h
  rw [State.read_comma, State.read_space, List.cons_append, State.read_openObject]
  exact hinner (.item items p) rest

section Lists

variable {α : Type} {text : α → List Char} {node : α → Node}

/-- The items that follow the first one, to the end of the list. -/
theorem State.read_items {l : List α} (h : ∀ x ∈ l, Written (text x) (node x))
    (items : List Node) (p : Place) (rest : List Char) :
    (State.afterItem items p).read (l.flatMap (fun x => ',' :: ' ' :: text x) ++ ']' :: rest) =
      (p.fill (.list (items.reverse ++ l.map node) .closed)).read rest := by
  -- The reader keeps the items in reverse, and each one it has read comes before the others.
  induction l generalizing items with
  | nil =>
    rw [List.flatMap_nil, List.nil_append, State.read_closeList, List.map_nil, List.append_nil]
    rfl
  | cons x l ih =>
    have hx := h x (List.mem_cons_self ..)
    have hl := fun y hy => h y (List.mem_cons_of_mem _ hy)
    rw [List.flatMap_cons, List.append_assoc, List.cons_append, List.cons_append,
      hx.nextItem, ih hl, List.reverse_cons, List.append_assoc, List.map_cons,
      List.singleton_append]

theorem intercalate_cons (separator s : List Char) (l : List (List Char)) :
    separator.intercalate (s :: l) = s ++ l.flatMap (separator ++ ·) := by
  induction l generalizing s with
  | nil => rw [List.intercalate_singleton, List.flatMap_nil, List.append_nil]
  | cons t l ih => rw [List.intercalate_cons_cons, ih, List.flatMap_cons, List.append_assoc,
      List.append_assoc]

/-- A list of objects, from bracket to bracket. -/
theorem State.read_list {l : List α} (h : ∀ x ∈ l, Written (text x) (node x)) (p : Place)
    (rest : List Char) :
    (State.value p).read ('[' :: ([',', ' '].intercalate (l.map text) ++ ']' :: rest)) =
      (p.fill (.list (l.map node) .closed)).read rest := by
  rw [State.read_openList]
  -- Only the first item has no comma in front, and an empty list has no item at all.
  cases l with
  | nil =>
    rw [List.map_nil, List.intercalate_nil, List.nil_append, State.read_closeList]
    rfl
  | cons x l =>
    have hx := h x (List.mem_cons_self ..)
    have hl := fun y hy => h y (List.mem_cons_of_mem _ hy)
    rw [List.map_cons, intercalate_cons, List.flatMap_map, List.append_assoc]
    exact (hx.firstItem p _).trans (State.read_items hl [node x] p rest)

end Lists

/-! ## Whole texts -/

/-- Nothing follows the value of a text that is an object from beginning to end. -/
theorem Node.ofText_of_written {text : String} {n : Node} (h : Written text.toList n) :
    Node.ofText text = (n, false) := by
  have hread := h.value .top []
  rw [List.append_nil, State.read_nil] at hread
  rw [Node.ofText, ← State.read, hread]
  rfl

/-- A text without escapes stands for its characters. -/
theorem Node.toText_verbatim (s : String) : Node.toText (.text (.verbatim s.toList)) = .ok s := by
  rw [Node.toText, Literal.decode_verbatim, String.ofList_toList]

/-- A list whose items can be read stands for what they stand for. -/
theorem Node.toList_map {α β : Type} {read : Node → Except Error β} {node : α → Node}
    {value : α → β} (h : ∀ x, read (node x) = .ok (value x)) (l : List α) :
    Node.toList read (.list (l.map node) .closed) = .ok (l.map value) := by
  have hitems : (l.map node).mapM read = .ok (l.map value) := by
    induction l with
    | nil => rfl
    | cons x l ih =>
      rw [List.map_cons, List.mapM_cons, h, ih]
      rfl
  rw [Node.toList, hitems]
  rfl

section Members

variable {σ : Type} {step : σ → String → Node → Except Error σ}

/-- The first member of an object changes what is known before the others are read. -/
theorem readMembers_of_decode {start known : σ} {k : Literal} {key : String} {n : Node}
    (hkey : k.decode = .ok key) (h : step start key n = .ok known)
    (members : List (Literal × Node)) (stop : ObjectEnd) :
    readMembers step start ((k, n) :: members) stop = readMembers step known members stop := by
  simp only [readMembers, List.foldlM_cons, hkey, ok_bind, h]

theorem readMembers_cons {start known : σ} {key : String} {n : Node}
    (h : step start key n = .ok known) (members : List (Literal × Node)) (stop : ObjectEnd) :
    readMembers step start ((.verbatim key.toList, n) :: members) stop =
      readMembers step known members stop := by
  refine readMembers_of_decode ?_ h members stop
  rw [Literal.decode_verbatim, String.ofList_toList]

theorem readMembers_nil (start : σ) : readMembers step start [] .closed = .ok start := rfl

end Members

end SchemaGen.Json
