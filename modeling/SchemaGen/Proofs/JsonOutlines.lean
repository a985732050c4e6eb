import SchemaGen.Manifest.Loading
import SchemaGen.Proofs.JsonSpellings

/-!
# Outlines in JSON

The manifest of some outlines, written as one object, is read back as their objects.

* `Manifest.Outline.node`: the tree of an outline.
* `Manifest.Outline.written_json`: the text of an outline has this tree.
* `Manifest.Outline.ofJson_node`: the tree stands for the object that the outline describes.
* `Manifest.Outline.decode_manifestJson`: what is read from the manifest.
-/

namespace SchemaGen

open Json Text

namespace Manifest.Outline

/-! ## Trees -/

/-- The tree of a field. -/
def fieldNode (f : String × String) : Node :=
  .object [(.verbatim "name".toList, .text (.verbatim f.1.toList)),
    (.verbatim "type".toList, .text (.verbatim f.2.toList))] .closed

/-- The tree of an outline. -/
def node (o : Outline) : Node :=
  .object [(.verbatim "name".toList, .text (.verbatim o.name.toList)),
    (.verbatim "fields".toList, .list (o.fields.map fieldNode) .closed)] .closed

/-- The tree of a manifest. -/
def manifestNode (outlines : List Outline) : Node :=
  .object [(.verbatim "dtos".toList, .list (outlines.map node) .closed)] .closed

theorem toList_fieldJson (f : String × String) :
    (fieldJson f).toList = '\x7b' :: ' ' :: quoted "name".toList (':' :: ' ' ::
      quoted f.1.toList (',' :: ' ' :: quoted "type".toList (':' :: ' ' ::
        quoted f.2.toList [' ', '\x7d']))) := by
  simp [fieldJson, quoted]

theorem toList_json (o : Outline) :
    o.json.toList = '\x7b' :: ' ' :: quoted "name".toList (':' :: ' ' ::
      quoted o.name.toList (',' :: ' ' :: quoted "fields".toList (':' :: ' ' :: '[' ::
        ([',', ' '].intercalate (o.fields.map fun f => (fieldJson f).toList)
          ++ [']', ' ', '\x7d'])))) := by
  simp [json, quoted, Function.comp_def]

theorem toList_manifestJson (outlines : List Outline) :
    (manifestJson outlines).toList = '\x7b' :: ' ' :: quoted "dtos".toList (':' :: ' ' :: '[' ::
      ([',', ' '].intercalate (outlines.map fun o => o.json.toList) ++ [']', ' ', '\x7d'])) := by
  simp [manifestJson, quoted, Function.comp_def]

theorem written_fieldJson {f : String × String} (hname : ∀ c ∈ f.1.toList, isVerbatim c = true)
    (htype : ∀ c ∈ f.2.toList, isVerbatim c = true) :
    Written (fieldJson f).toList (fieldNode f) := by
  refine ⟨_, toList_fieldJson f, fun p rest => ?_⟩
  simp only [List.cons_append, quoted_append, List.nil_append]
  rw [State.read_firstKey p (by decide), State.read_value_quoted _ hname, Place.fill,
    State.read_nextKey _ p (by decide), State.read_value_quoted _ htype, Place.fill,
    State.read_objectEnd]
  rfl

/-- The text of an outline has its tree. -/
theorem written_json (o : Outline) : Written o.json.toList o.node := by
  have hfields : ∀ f ∈ o.fields, Written (fieldJson f).toList (fieldNode f) :=
    fun f hf => written_fieldJson (o.isVerbatim_name f hf) (o.isVerbatim_type f hf)
  refine ⟨_, toList_json o, fun p rest => ?_⟩
  simp only [List.cons_append, List.append_assoc, quoted_append, List.nil_append]
  rw [State.read_firstKey p (by decide), State.read_value_quoted _ o.isVerbatim_of_mem_name,
    Place.fill, State.read_nextKey _ p (by decide), State.read_list hfields, Place.fill,
    State.read_objectEnd]
  rfl

/-- The text of a manifest has its tree. -/
theorem written_manifestJson (outlines : List Outline) :
    Written (manifestJson outlines).toList (manifestNode outlines) := by
  refine ⟨_, toList_manifestJson outlines, fun p rest => ?_⟩
  simp only [List.cons_append, List.append_assoc, quoted_append, List.nil_append]
  rw [State.read_firstKey p (by decide), State.read_list fun o _ => written_json o, Place.fill,
    State.read_objectEnd]
  rfl

/-! ## What the trees stand for -/

theorem ofJson_fieldNode (f : String × String) :
    Field.ofJson (fieldNode f) = .ok (.ofType f.1 f.2) := by
  have hdecode : ∀ s : String, (Literal.verbatim s.toList).decode = .ok s := by
    intro s
    rw [Literal.decode_verbatim, String.ofList_toList]
  exact Field.ofJson_name_type (hdecode _) (hdecode _) (hdecode _) (hdecode _)

/-- The tree of an outline stands for the object that it describes. -/
theorem ofJson_node (o : Outline) : Dto.ofJson o.node = .ok o.dto := by
  have hname : Dto.readMember {} "name" (.text (.verbatim o.name.toList)) =
      .ok { name := some o.name } := by
    rw [Dto.readMember, Node.toText_verbatim]
    rfl
  have hfields : Dto.readMember { name := some o.name } "fields"
        (.list (o.fields.map fieldNode) .closed) =
      .ok { name := some o.name, fields := some o.dto.fields } := by
    rw [Dto.readMember, Node.toList_map ofJson_fieldNode]
    rfl
  rw [node, Dto.ofJson, readMembers_cons hname, readMembers_cons hfields, readMembers_nil]
  rfl

theorem dtosOfJson_manifestNode (outlines : List Outline) :
    dtosOfJson (manifestNode outlines) = .ok (outlines.map dto) := by
  have hdtos : readMember none "dtos" (.list (outlines.map node) .closed) =
      .ok (some (outlines.map dto)) := by
    rw [readMember, Node.toList_map ofJson_node]
    rfl
  rw [manifestNode, dtosOfJson, readMembers_cons hdtos, readMembers_nil]
  rfl

/-- The manifest of some outlines is read back as their objects. -/
theorem decode_manifestJson (path : String) (outlines : List Outline) :
    Manifest.decode path (manifestJson outlines) .json = .ok (outlines.map dto) := by
  have htree := Node.ofText_of_written (written_manifestJson outlines)
  have hread : Json.decode dtosOfJson (manifestJson outlines) = .ok (outlines.map dto) := by
    rw [Json.decode, htree, dtosOfJson_manifestNode]
    rfl
  rw [Manifest.decode, hread]

end Manifest.Outline

end SchemaGen
