import Conntrack.Proofs.AttrRoundTrip
import Mathlib.Algebra.Ring.Nat

/-!
# Packing is exact

Packing computes the size of an attribute, writes its header and value, and
then fills the buffer up to that size. The sizes and the writer are recursions
of their own, and both agree at every node of a tree: what a node has written
never passes the size it fills up to (`size_write_le`), so nothing is cut off,
and what it fills is its padding. Each node is packed into a buffer that begins
with the one at the start, and what it makes stays at the front of what its
parents make (`Packs.prefixes`). Nothing is asked of the lengths: one that
passes sixteen bits is written modulo their capacity (`pack_exact`).
-/

namespace Conntrack.Wire.AttrTree

/-- The buffer with header and value behind it, before it is filled up. -/
def write : AttrTree → Array UInt8 → Array UInt8
  | .leaf type value, buffer => buffer ++ header (Attr.headerLength + value.length) type ++ value
  | .nested type children, buffer =>
    packAll children
      (buffer ++ header (Attr.headerLength + paddedLengths children) (Attr.nestedType type))

theorem pack_eq_resize (tree : AttrTree) (buffer : Array UInt8) :
    tree.pack buffer = resize (tree.write buffer) (buffer.size + tree.paddedLength) := by
  cases tree <;> rfl

theorem toList_write (tree : AttrTree) (buffer : Array UInt8) : (tree.write buffer).toList =
    buffer.toList ++ (header tree.length tree.wireType ++ tree.value) := by
  cases tree with
  | leaf type value =>
    rw [write, Array.toList_appendList, Array.toList_appendList, List.append_assoc]
    rfl
  | nested type children =>
    rw [write, toList_packAll, Array.toList_appendList, List.append_assoc]
    rfl

/-- Filling up to the size of a node cuts nothing off. -/
theorem size_write_le (tree : AttrTree) (buffer : Array UInt8) :
    (tree.write buffer).size ≤ buffer.size + tree.paddedLength := by
  have above : tree.length ≤ tree.paddedLength := le_roundUp4 _
  have written := congrArg List.length (tree.toList_write buffer)
  simp only [Array.length_toList, List.length_append, length_header, length_value] at written
  unfold length at above
  omega

theorem write_isPrefix_pack (tree : AttrTree) (buffer : Array UInt8) :
    (tree.write buffer).toList <+: (tree.pack buffer).toList := by
  rw [pack_eq_resize, toList_resize _ _ (tree.size_write_le buffer)]
  exact List.prefix_append _ _

theorem packAll_append (front back : List AttrTree) (buffer : Array UInt8) :
    packAll (front ++ back) buffer = packAll back (packAll front buffer) := by
  induction front generalizing buffer with
  | nil => rfl
  | cons tree front ih => rw [List.cons_append, packAll, packAll, ih]

theorem isPrefix_packAll (trees : List AttrTree) (buffer : Array UInt8) :
    buffer.toList <+: (packAll trees buffer).toList := by
  rw [toList_packAll]
  exact List.prefix_append _ _

/-- Packing a tree into a buffer packs `node` into `start` on the way: the tree
itself, or a node of one of its children, which is packed behind the header and
the children in front of it. -/
inductive Packs : AttrTree → Array UInt8 → AttrTree → Array UInt8 → Prop
  | self (tree : AttrTree) (buffer : Array UInt8) : Packs tree buffer tree buffer
  | child {type : UInt16} {before later : List AttrTree} {child node : AttrTree}
      {buffer start : Array UInt8}
      (inside : Packs child
        (packAll before (buffer ++
          header (Attr.headerLength + paddedLengths (before ++ child :: later))
            (Attr.nestedType type)))
        node start) :
      Packs (.nested type (before ++ child :: later)) buffer node start

/-- A node is packed behind what was in the buffer, and what it makes is kept. -/
theorem Packs.prefixes {tree node : AttrTree} {buffer start : Array UInt8}
    (packs : Packs tree buffer node start) :
    buffer.toList <+: start.toList ∧ (node.pack start).toList <+: (tree.pack buffer).toList := by
  induction packs with
  | self tree buffer => exact ⟨List.prefix_rfl, List.prefix_rfl⟩
  | @child type before later child node buffer start inside ih =>
    obtain ⟨front, kept⟩ := ih
    let headed := buffer ++ header (Attr.headerLength + paddedLengths (before ++ child :: later))
      (Attr.nestedType type)
    have header : buffer.toList <+: headed.toList := by
      rw [Array.toList_appendList]
      exact List.prefix_append _ _
    have siblings : (child.pack (packAll before headed)).toList <+:
        ((nested type (before ++ child :: later)).write buffer).toList := by
      rw [write, packAll_append, packAll]
      exact isPrefix_packAll later _
    constructor
    · exact (header.trans (isPrefix_packAll before headed)).trans front
    · exact (kept.trans siblings).trans (write_isPrefix_pack _ buffer)

/-- The four bytes of a header: the length modulo the capacity of its field, and the type. -/
theorem header_eq_littleEndian (length : Nat) (type : UInt16) :
    header length type = littleEndian 2 (length % 2 ^ 16) ++ littleEndian 2 type.toNat := by
  rw [header, hostWord16, hostWord16, UInt16.toNat_ofNat']

/-- The bytes that a node makes behind the buffer it is packed into. -/
theorem toList_pack_eq_parts (node : AttrTree) (start : Array UInt8) : (node.pack start).toList =
    start.toList ++ (littleEndian 2 (node.length % 2 ^ 16) ++ littleEndian 2 node.wireType.toNat ++
      node.value ++ List.replicate (node.paddedLength - node.length) 0) := by
  have length : Attr.headerLength + node.value.length = node.length :=
    congrArg (Attr.headerLength + ·) node.length_value
  rw [toList_pack, encode_eq_frame, frame, length, header_eq_littleEndian]
  rfl

/-- Packing leaves the buffer as it is and appends what it makes of an empty one:
as many bytes as the padded length says, a multiple of four that exceeds the
length by three at most. Whenever a node of the tree is packed on the way, filling
up its buffer cuts nothing off; its header holds the length modulo the capacity of
sixteen bits, its value has as many bytes as it declares, and its padding is zeros. -/
theorem pack_exact (tree : AttrTree) (buffer : Array UInt8) :
    (tree.pack buffer).toList = buffer.toList ++ (tree.pack #[]).toList ∧
    (tree.pack #[]).size = tree.paddedLength ∧ 4 ∣ tree.paddedLength ∧
    tree.length ≤ tree.paddedLength ∧ tree.paddedLength ≤ tree.length + 3 ∧
    ∀ node start, Packs tree buffer node start →
      node.pack start = resize (node.write start) (start.size + node.paddedLength) ∧
      (node.write start).size ≤ start.size + node.paddedLength ∧
      buffer.toList <+: start.toList ∧ node.value.length = node.valueLength ∧
      ∃ behind, (tree.pack buffer).toList =
        start.toList ++
          (littleEndian 2 (node.length % 2 ^ 16) ++ littleEndian 2 node.wireType.toNat ++
            node.value ++ List.replicate (node.paddedLength - node.length) 0) ++ behind := by
  have empty : (tree.pack #[]).toList = tree.encode := tree.toList_pack #[]
  have below : tree.paddedLength < tree.length + 4 := roundUp4_lt _
  refine ⟨?_, ?_, four_dvd_roundUp4 _, le_roundUp4 _, Nat.le_of_lt_succ below, ?_⟩
  · rw [empty]
    exact tree.toList_pack buffer
  · rw [← length_encode, ← empty]
    rfl
  · intro node start packs
    obtain ⟨front, behind, kept⟩ := packs.prefixes
    refine ⟨node.pack_eq_resize start, node.size_write_le start, front, node.length_value,
      behind, ?_⟩
    rw [← kept, toList_pack_eq_parts]

/-! A leaf that is too large for its length field, behind an empty attribute and
inside another one, packed behind three bytes. -/

def oversizedLeaf : AttrTree := .leaf 3 (List.replicate 70001 7)

def oversized : AttrTree := .nested 1 [.nested 2 [], oversizedLeaf]

theorem length_oversizedLeaf : oversizedLeaf.length = 70005 := by
  have value : oversizedLeaf.valueLength = 70001 := List.length_replicate
  rw [length, value]
  rfl

theorem pack_exact_oversized : ∃ start behind, Packs oversized #[9, 9, 9] oversizedLeaf start ∧
    (oversizedLeaf.write start).size ≤ start.size + oversizedLeaf.paddedLength ∧
    (oversized.pack #[9, 9, 9]).toList = start.toList ++
      ([117, 17] ++ [3, 0] ++ List.replicate 70001 7 ++ [0, 0, 0]) ++ behind := by
  obtain ⟨-, -, -, -, -, nodes⟩ := pack_exact oversized #[9, 9, 9]
  have packs : Packs oversized #[9, 9, 9] oversizedLeaf _ :=
    @Packs.child 1 [.nested 2 []] [] oversizedLeaf _ _ _ (.self _ _)
  obtain ⟨-, fits, -, -, behind, made⟩ := nodes _ _ packs
  refine ⟨_, behind, packs, fits, ?_⟩
  rw [paddedLength, length_oversizedLeaf] at made
  exact made

end Conntrack.Wire.AttrTree
