import Conntrack.Proofs.AttrScan
import Conntrack.Wire.AttrTree

/-!
# Written attributes are read back

A tree whose length fits the sixteen bits of its length field is read back as
its type and value, and a run of such trees as the list of them
(`list_encodeAll`). The trees inside a fitting tree fit as well, so the same
holds at every depth (`list_value`, `fits_of_mem_contents`).
-/

namespace Conntrack.Wire.AttrTree

/-- The declared length fits its sixteen bits. -/
def Fits (tree : AttrTree) : Prop := tree.length < UInt16.size

instance (tree : AttrTree) : Decidable tree.Fits := inferInstanceAs (Decidable (_ < _))

/-- The bytes between header and padding. -/
def value : AttrTree → Bytes
  | .leaf _ value => value
  | .nested _ children => encodeAll children

/-- What a reader makes of the tree. -/
def attr (tree : AttrTree) : Attr := ⟨tree.wireType, tree.value⟩

/-- An attribute as it would be written without knowing what is inside. -/
def ofAttr (attr : Attr) : AttrTree := .leaf attr.type attr.payload

/-- The trees inside: the children of a nested attribute, and of a leaf
whatever attributes its bytes happen to spell. -/
def contents : AttrTree → List AttrTree
  | .leaf _ value => (Attr.list value).map ofAttr
  | .nested _ children => children

@[simp] theorem length_value (tree : AttrTree) : tree.value.length = tree.valueLength := by
  cases tree with
  | leaf type value => rfl
  | nested type children => exact length_encodeAll children

theorem encode_eq_frame (tree : AttrTree) : tree.encode = frame tree.wireType tree.value := by
  cases tree <;> rfl

theorem read?_encode (tree : AttrTree) (rest : Bytes) (fits : tree.Fits) :
    Attr.read? (tree.encode ++ rest) = some (tree.attr, rest) := by
  rw [encode_eq_frame]
  apply read?_frame
  rw [length_value]
  exact fits

/-- A run of trees is read back in order and count, and what follows it is read after it. -/
theorem list_encodeAll (trees : List AttrTree) (rest : Bytes) (fit : ∀ tree ∈ trees, tree.Fits) :
    Attr.list (encodeAll trees ++ rest) = trees.map attr ++ Attr.list rest := by
  induction trees with
  | nil => rfl
  | cons tree trees ih =>
    have front := read?_encode tree (encodeAll trees ++ rest) (fit tree List.mem_cons_self)
    rw [encodeAll, List.append_assoc, Attr.list_of_read?_some front,
      ih fun other inside => fit other (List.mem_cons_of_mem tree inside)]
    rfl

theorem four_dvd_paddedLengths (trees : List AttrTree) : 4 ∣ paddedLengths trees := by
  induction trees with
  | nil => exact Nat.dvd_zero 4
  | cons tree trees ih => exact Nat.dvd_add (four_dvd_roundUp4 _) ih

theorem paddedLength_le_of_mem {tree : AttrTree} {trees : List AttrTree} (member : tree ∈ trees) :
    tree.paddedLength ≤ paddedLengths trees := by
  induction trees with
  | nil => cases member
  | cons first trees ih =>
    rw [paddedLengths]
    rcases List.mem_cons.mp member with rfl | behind
    · exact Nat.le_add_right _ _
    · exact Nat.le_trans (ih behind) (Nat.le_add_left _ _)

/-- What is inside a fitting tree fits. -/
theorem fits_of_mem_contents {tree inner : AttrTree} (fits : tree.Fits)
    (inside : inner ∈ tree.contents) : inner.Fits := by
  cases tree with
  | leaf type value =>
    obtain ⟨attr, listed, rfl⟩ := List.mem_map.mp inside
    exact Attr.length_lt_of_mem_list listed
  | nested type children =>
    have padded : inner.paddedLength ≤ paddedLengths children := paddedLength_le_of_mem inside
    have above : inner.length ≤ inner.paddedLength := le_roundUp4 _
    have whole : Attr.headerLength + paddedLengths children < UInt16.size := fits
    unfold Fits
    omega

/-- The attributes in the value of a fitting tree are the trees inside. -/
theorem list_value (tree : AttrTree) (fits : tree.Fits) :
    Attr.list tree.value = tree.contents.map attr := by
  cases tree with
  | leaf type value =>
    have same : attr ∘ ofAttr = id := rfl
    simp [AttrTree.value, contents, same]
  | nested type children =>
    have read := list_encodeAll children [] fun child inside => fits_of_mem_contents fits inside
    simpa [AttrTree.value, contents, Attr.list_nil] using read

end Conntrack.Wire.AttrTree
