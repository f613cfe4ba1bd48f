import Conntrack.Proofs.OnePass
import Conntrack.Proofs.RecordFields
import Mathlib.Logic.Relation

/-!
# The parts of a record do not depend on each other

Two messages whose attributes are well framed say the same as a part if the
first attribute of the part's type is the same in both, or absent in both.
Everything else may differ: the headers, the order, the other attributes and
their values, and what stands behind the messages. The edits that keep the first
attribute of a type are swaps of neighbours of different types, and whatever is
done to attributes of other types (`Edit`); none of them touches the part, and
none makes a message undecodable (`part_told_alike`).
-/

namespace Conntrack.Wire.AttrTree

/-- One edit that concerns no attribute of the type, or moves it past another type. -/
inductive Edit (type : UInt16) : List AttrTree → List AttrTree → Prop
  | swap (front back : List AttrTree) {one other : AttrTree}
      (distinct : one.wireType ≠ other.wireType) :
      Edit type (front ++ one :: other :: back) (front ++ other :: one :: back)
  | insert (front back : List AttrTree) {tree : AttrTree} (other : tree.wireType ≠ type) :
      Edit type (front ++ back) (front ++ tree :: back)
  | revalue (front back : List AttrTree) {old new : AttrTree} (other : old.wireType ≠ type)
      (same : new.wireType = old.wireType) :
      Edit type (front ++ old :: back) (front ++ new :: back)

/-- The first tree of a raw type. -/
def first? (type : UInt16) (trees : List AttrTree) : Option AttrTree :=
  trees.find? fun tree => tree.wireType = type

theorem Edit.first?_eq {type : UInt16} {one two : List AttrTree} (edit : Edit type one two) :
    first? type one = first? type two := by
  cases edit with
  | @swap front back one other distinct =>
    by_cases typed : one.wireType = type
    · have passed : other.wireType ≠ type := fun same => distinct (typed.trans same.symm)
      simp [first?, List.find?_append, typed, passed]
    · simp [first?, List.find?_append, List.find?_cons, typed]
  | insert front back other => simp [first?, List.find?_append, other]
  | @revalue front back old new other same =>
    have passed : new.wireType ≠ type := same ▸ other
    simp [first?, List.find?_append, other, passed]

/-- Edits, and edits undone: an insertion undone is a deletion. -/
theorem first?_eq_of_edits {type : UInt16} {one two : List AttrTree}
    (edits : Relation.EqvGen (Edit type) one two) : first? type one = first? type two := by
  induction edits with
  | rel one two edit => exact edit.first?_eq
  | refl trees => rfl
  | symm one two _ ih => exact ih.symm
  | trans one two three _ _ ih₁ ih₂ => exact ih₁.trans ih₂

/-- Fitting trees with the same bytes are read as the same attribute. -/
theorem attr_eq_of_encode_eq {one two : AttrTree} (fits : one.Fits) (fits' : two.Fits)
    (same : one.encode = two.encode) : one.attr = two.attr := by
  have read := one.read?_encode [] fits
  rw [same, two.read?_encode [] fits'] at read
  simp only [Option.some.injEq, Prod.mk.injEq, and_true] at read
  exact read.symm

theorem map_attr_of_map_encode {type : UInt16} {one two : List AttrTree}
    (fit : ∀ tree ∈ one, tree.Fits) (fit' : ∀ tree ∈ two, tree.Fits)
    (same : (first? type one).map encode = (first? type two).map encode) :
    (first? type one).map attr = (first? type two).map attr := by
  cases found : first? type one with
  | none =>
    rw [found] at same
    rw [Option.map_eq_none_iff.mp same.symm]
  | some tree =>
    rw [found, Option.map_some] at same
    obtain ⟨other, found', bytes⟩ := Option.map_eq_some_iff.mp same.symm
    have fits := fit tree (List.mem_of_find?_eq_some found)
    have fits' := fit' other (List.mem_of_find?_eq_some found')
    rw [found', Option.map_some, Option.map_some, attr_eq_of_encode_eq fits fits' bytes.symm]

end Conntrack.Wire.AttrTree

namespace Conntrack.Connection

open Wire Message

/-- A message with well-framed attributes, whose header declares exactly their length. -/
structure Framed where
  header : Header
  family : FamilyHeader
  attributes : List AttrTree
  fit : ∀ tree ∈ attributes, tree.Fits
  declared : header.length.toNat = Record.headersLength + AttrTree.paddedLengths attributes

namespace Framed

/-- What follows the message header. -/
def bytes (message : Framed) : Bytes :=
  (AttrTree.packAll message.attributes message.family.encode.toArray).toList

/-- The record that the attributes of the message tell. -/
def record (message : Framed) : Record :=
  Record.ofListed message.header message.family (message.attributes.map AttrTree.attr)

/-- A well-framed message is always decoded. -/
theorem decode?_bytes (message : Framed) (rest : Bytes) :
    Record.decode? message.header (message.bytes ++ rest) = (some message.record, rest) := by
  have listed := AttrTree.list_encodeAll message.attributes [] message.fit
  rw [Attr.list_nil, List.append_nil, List.append_nil] at listed
  rw [bytes, AttrTree.toList_packAll, List.append_assoc,
    Record.decode?_encodeAll message.family rest message.declared, Record.ofBody_eq_ofListed,
    listed]
  rfl

theorem told_record (message : Framed) (part : Part) : part.told message.record =
    part.reading ((AttrTree.first? part.type message.attributes).map AttrTree.attr) := by
  rw [record, Part.told_ofListed, firstOf, List.find?_map]
  rfl

end Framed

/-- Two well-framed messages are decoded, and say the same as a part if the first
attribute of its type is the same in both or absent in both; so they do if the
attributes of one are those of the other up to edits that concern other types. -/
theorem part_told_alike (one two : Framed) (rest rest' : Bytes) :
    ∃ first second, Record.decode? one.header (one.bytes ++ rest) = (some first, rest) ∧
      Record.decode? two.header (two.bytes ++ rest') = (some second, rest') ∧
      ∀ part : Part,
        ((AttrTree.first? part.type one.attributes).map AttrTree.encode =
            (AttrTree.first? part.type two.attributes).map AttrTree.encode →
          part.told first = part.told second) ∧
        (Relation.EqvGen (AttrTree.Edit part.type) one.attributes two.attributes →
          part.told first = part.told second) := by
  refine ⟨one.record, two.record, one.decode?_bytes rest, two.decode?_bytes rest', ?_⟩
  intro part
  rw [one.told_record, two.told_record]
  constructor
  · intro same
    rw [AttrTree.map_attr_of_map_encode one.fit two.fit same]
  · intro edits
    rw [AttrTree.first?_eq_of_edits edits]

/-! A status and a timeout, and the same timeout behind an attribute of a type
that means nothing and in front of a status of the wrong width. -/

def plain : Framed where
  header := ⟨36, conntrackType 0, 0, 0, 0⟩
  family := ⟨inetFamily, familyVersion, 0⟩
  attributes := [.word32 3 5, .word32 7 120]
  fit := by simp [AttrTree.Fits, AttrTree.word32, AttrTree.length, AttrTree.valueLength,
    networkWord32, Attr.headerLength, UInt16.size]
  declared := rfl

def disturbed : Framed where
  header := ⟨40, conntrackType 2, 0, 7, 0⟩
  family := ⟨inet6Family, familyVersion, 1⟩
  attributes := [.leaf 9 [], .word32 7 120, .leaf 3 [1]]
  fit := by simp [AttrTree.Fits, AttrTree.word32, AttrTree.length, AttrTree.valueLength,
    networkWord32, Attr.headerLength, UInt16.size]
  declared := rfl

theorem edits_disturbed : Relation.EqvGen (AttrTree.Edit Part.timeout.type)
    plain.attributes disturbed.attributes := by
  apply Relation.EqvGen.trans _ [.word32 7 120, .word32 3 5]
  · exact .rel _ _ (.swap [] [] (by decide))
  apply Relation.EqvGen.trans _ [.word32 7 120, .leaf 3 [1]]
  · exact .rel _ _ (.revalue [.word32 7 120] [] (by decide) (by decide))
  · exact .rel _ _ (.insert [] [.word32 7 120, .leaf 3 [1]] (by decide))

theorem part_told_alike_disturbed :
    (AttrTree.first? Part.timeout.type plain.attributes).map AttrTree.encode =
      (AttrTree.first? Part.timeout.type disturbed.attributes).map AttrTree.encode ∧
    Relation.EqvGen (AttrTree.Edit Part.timeout.type) plain.attributes disturbed.attributes ∧
    ∃ first second, Record.decode? plain.header (plain.bytes ++ []) = (some first, []) ∧
      Record.decode? disturbed.header (disturbed.bytes ++ [1, 2, 3]) = (some second, [1, 2, 3]) ∧
      Part.timeout.told first = Part.timeout.told second := by
  obtain ⟨first, second, decoded, decoded', alike⟩ :=
    part_told_alike plain disturbed [] [1, 2, 3]
  exact ⟨rfl, edits_disturbed, first, second, decoded, decoded',
    (alike .timeout).2 edits_disturbed⟩

end Conntrack.Connection
