import Conntrack.Proofs.AttrRoundTrip
import Conntrack.Proofs.CursorReads

/-!
# Packed trees are read back at every depth

A tree packed behind any bytes and in front of any others is read back by a
cursor at its first byte: the type, the value, and a cursor that stands exactly
where the tree ends. The value of a nested attribute is read the same way, child
by child, and reading it stops at its last byte (`Survives`). The lengths in the
headers are what makes it so, and one that does not fit its field spoils it; the
lengths inside a tree that fits all fit (`survives_pack`).
-/

namespace Conntrack.Wire.AttrTree

/-- Reading at `cursor` takes an attribute of the type and the size of the tree
and moves behind its padding. -/
structure Takes (cursor : Cursor) (tree : AttrTree) (attr : Attr) (behind : Cursor) : Prop where
  read : cursor.read? Attr.read? = some (attr, behind)
  type : attr.type = tree.wireType
  size : attr.payload.length = tree.valueLength
  moved : behind.position = cursor.position + tree.paddedLength

mutual

/-- Reading at `cursor` gives the whole tree back, and stops at `behind`. -/
inductive Survives : Cursor → AttrTree → Attr → Cursor → Prop
  | leaf {cursor behind : Cursor} {type : UInt16} {value : Bytes} {attr : Attr}
      (taken : Takes cursor (.leaf type value) attr behind) (same : attr.payload = value) :
      Survives cursor (.leaf type value) attr behind
  | nested {cursor behind last : Cursor} {type : UInt16} {children : List AttrTree} {attr : Attr}
      (taken : Takes cursor (.nested type children) attr behind)
      (inside : SurviveAll (.start attr.payload) children attr.children last)
      (atEnd : last.position = attr.payload.length) :
      Survives cursor (.nested type children) attr behind

/-- Reading attribute after attribute gives the trees back in order and count,
until at `last` a read is refused. -/
inductive SurviveAll : Cursor → List AttrTree → List Attr → Cursor → Prop
  | stop {cursor : Cursor} (refused : cursor.read? Attr.read? = none) :
      SurviveAll cursor [] [] cursor
  | next {cursor behind last : Cursor} {tree : AttrTree} {trees : List AttrTree} {attr : Attr}
      {attrs : List Attr} (first : Survives cursor tree attr behind)
      (more : SurviveAll behind trees attrs last) :
      SurviveAll cursor (tree :: trees) (attr :: attrs) last

end

theorem takes_of_rest {cursor : Cursor} {tree : AttrTree} {rest : Bytes} (fits : tree.Fits)
    (here : cursor.rest = tree.encode ++ rest) :
    Takes cursor tree tree.attr (cursor.stopAt rest) := by
  constructor
  · apply Cursor.read?_of_some
    rw [here]
    exact read?_encode tree rest fits
  · rfl
  · exact tree.length_value
  · rw [cursor.position_stopAt here, length_encode]

mutual

theorem survives_of_rest {cursor : Cursor} (tree : AttrTree) {rest : Bytes} (fits : tree.Fits)
    (here : cursor.rest = tree.encode ++ rest) :
    Survives cursor tree tree.attr (cursor.stopAt rest) := by
  have taken := takes_of_rest fits here
  cases tree with
  | leaf type value => exact .leaf taken rfl
  | nested type children =>
    obtain ⟨last, inside, atEnd⟩ := surviveAll_of_rest children
      (fun child member => fits_of_mem_contents fits member)
      (Cursor.rest_start (encodeAll children))
    have listed : (nested type children).attr.children = children.map attr := list_value _ fits
    rw [← listed] at inside
    exact .nested taken inside atEnd

theorem surviveAll_of_rest {cursor : Cursor} (trees : List AttrTree)
    (fit : ∀ tree ∈ trees, tree.Fits) (here : cursor.rest = encodeAll trees) :
    ∃ last, SurviveAll cursor trees (trees.map attr) last ∧ last.position = cursor.data.length := by
  cases trees with
  | nil =>
    refine ⟨cursor, .stop (Cursor.read?_of_none ?_), ?_⟩
    · rw [here]
      rfl
    · have none_left := cursor.position_add_remaining
      rw [← cursor.length_rest, here] at none_left
      exact none_left
  | cons tree trees =>
    have split : cursor.rest = tree.encode ++ encodeAll trees := here
    have first := survives_of_rest tree (fit tree List.mem_cons_self) split
    have behind : (cursor.stopAt (encodeAll trees)).rest = encodeAll trees :=
      cursor.rest_stopAt split
    obtain ⟨last, more, atEnd⟩ := surviveAll_of_rest trees
      (fun other member => fit other (List.mem_cons_of_mem tree member)) behind
    exact ⟨last, .next first more, atEnd⟩

end

/-- A tree of fitting length, packed behind `front` and followed by `rest`, is
read back at the end of `front`, and the cursor is left at `rest`. -/
theorem survives_pack (tree : AttrTree) (front rest : Bytes) (fits : tree.Fits) :
    ∃ attr behind,
      Survives ((Cursor.start ((tree.pack front.toArray).toList ++ rest)).moveTo front.length)
        tree attr behind ∧
      behind.data = (tree.pack front.toArray).toList ++ rest ∧
      behind.position = front.length + tree.paddedLength ∧ behind.rest = rest := by
  have packed : (tree.pack front.toArray).toList ++ rest = front ++ (tree.encode ++ rest) := by
    rw [toList_pack, List.append_assoc]
  rw [packed]
  let cursor := (Cursor.start (front ++ (tree.encode ++ rest))).moveTo front.length
  have placed : cursor.position = front.length := by
    apply Nat.min_eq_left
    simp [Cursor.start]
  have here : cursor.rest = tree.encode ++ rest := by
    rw [Cursor.rest, placed]
    exact List.drop_left
  refine ⟨tree.attr, cursor.stopAt rest, survives_of_rest tree fits here, rfl, ?_, ?_⟩
  · rw [cursor.position_stopAt here, placed, length_encode]
  · exact cursor.rest_stopAt here

/-- A nested attribute with an empty one and one of a single byte inside, packed
at an odd place. -/
def sample : AttrTree := .nested 1 [.nested 2 [], .leaf 3 [7]]

theorem survives_pack_sample :
    sample.Fits ∧ ∃ attr behind,
      Survives ((Cursor.start ((sample.pack [9, 9, 9].toArray).toList ++ [255])).moveTo 3)
        sample attr behind ∧
      behind.data = (sample.pack [9, 9, 9].toArray).toList ++ [255] ∧
      behind.position = 3 + sample.paddedLength ∧ behind.rest = [255] :=
  ⟨by decide, survives_pack sample [9, 9, 9] [255] (by decide)⟩

end Conntrack.Wire.AttrTree
