import Conntrack.Proofs.AttrRoundTrip
import Conntrack.Proofs.RecordWindow

/-!
# Records out of attribute trees

The record that a run of trees tells is read off the trees themselves: each
field comes from the first tree of its wire type in its own scope, and nothing
is scanned. Decoding the bytes of a body gives this record
(`Record.ofBody_eq_ofTrees`), whichever trees the body is the list of.
-/

namespace Conntrack.Connection

open Wire Message

namespace Field

/-- The first tree of the field's wire type. -/
def first? (field : Field) (trees : List AttrTree) : Option AttrTree :=
  trees.find? fun tree => tree.wireType = field.wireType

/-- The 32-bit value of the field, zero if it is absent or of another width. -/
def word32Of (field : Field) (trees : List AttrTree) : UInt32 :=
  match field.first? trees with
  | some tree => if tree.value.length = 4 then UInt32.ofNat (ofBigEndian tree.value) else 0
  | none => 0

/-- The address that the field's value is, if it is one. -/
def addressOf? (field : Field) (trees : List AttrTree) : Option Address := do
  let tree ← field.first? trees
  Address.ofBytes? tree.value

theorem find?_of_list {bytes : Bytes} {trees : List AttrTree} (field : Field)
    (read : Attr.list bytes = trees.map AttrTree.attr) :
    field.find? bytes = (field.first? trees).map AttrTree.attr := by
  rw [find?, Attr.find?_fst, read, first?, List.find?_map]
  rfl

theorem address_of_list {bytes : Bytes} {trees : List AttrTree} (field : Field)
    (read : Attr.list bytes = trees.map AttrTree.attr) :
    (field.find? bytes).bind Connection.addressOf? = field.addressOf? trees := by
  rw [find?_of_list field read, addressOf?]
  cases field.first? trees <;> rfl

theorem fits_of_first? {field : Field} {trees : List AttrTree} {tree : AttrTree}
    (fit : ∀ tree ∈ trees, tree.Fits) (found : field.first? trees = some tree) : tree.Fits :=
  fit tree (List.mem_of_find?_eq_some found)

end Field

namespace AddressPair

/-- Both addresses out of the trees of an address part. -/
def ofAddressTrees? (trees : List AttrTree) : Option AddressPair := do
  let source ← Field.sourceAddress.addressOf? trees
  let destination ← Field.destinationAddress.addressOf? trees
  some ⟨source, destination⟩

/-- Both addresses out of a tuple, from the first address part inside. -/
def ofTree? (tuple : AttrTree) : Option AddressPair := do
  let addresses ← Field.addresses.first? tuple.contents
  ofAddressTrees? addresses.contents

theorem ofAddresses?_of_list {bytes : Bytes} {trees : List AttrTree}
    (read : Attr.list bytes = trees.map AttrTree.attr) :
    ofAddresses? bytes = ofAddressTrees? trees := by
  have source := Field.address_of_list Field.sourceAddress read
  have destination := Field.address_of_list Field.destinationAddress read
  rw [ofAddressTrees?, ← source, ← destination]
  simp only [ofAddresses?, Option.bind_eq_bind, Option.bind_assoc]

theorem ofTuple?_value (tuple : AttrTree) (fits : tuple.Fits) :
    ofTuple? tuple.value = ofTree? tuple := by
  have inside := Field.find?_of_list Field.addresses (tuple.list_value fits)
  rw [ofTuple?, ofTree?, inside]
  cases found : Field.addresses.first? tuple.contents with
  | none => rfl
  | some addresses =>
    have small : addresses.Fits := by
      apply Field.fits_of_first? _ found
      intro tree inside
      exact AttrTree.fits_of_mem_contents fits inside
    exact ofAddresses?_of_list (addresses.list_value small)

end AddressPair

namespace Record

/-- The record that a run of trees tells. -/
def ofTrees (header : Header) (family : FamilyHeader) (trees : List AttrTree) : Record where
  header := header
  family := family
  forward := (Field.forwardTuple.first? trees).bind AddressPair.ofTree?
  reply := (Field.replyTuple.first? trees).bind AddressPair.ofTree?
  status := Field.status.word32Of trees
  timeout := Field.timeout.word32Of trees

theorem word32_of_list {body : Bytes} {trees : List AttrTree} (field : Field)
    (read : Attr.list body = trees.map AttrTree.attr) :
    word32 field body = field.word32Of trees := by
  rw [word32, Field.find?_of_list field read, Field.word32Of]
  cases field.first? trees with
  | none => rfl
  | some tree =>
    simp only [Option.map_some, Option.bind_some, Attr.word32Value?, AttrTree.attr]
    split <;> rfl

theorem tuple?_of_list {body : Bytes} {trees : List AttrTree} (field : Field)
    (read : Attr.list body = trees.map AttrTree.attr) (fit : ∀ tree ∈ trees, tree.Fits) :
    tuple? field body = (field.first? trees).bind AddressPair.ofTree? := by
  rw [tuple?, Field.find?_of_list field read]
  cases found : field.first? trees with
  | none => rfl
  | some tree => exact AddressPair.ofTuple?_value tree (Field.fits_of_first? fit found)

/-- A message whose header declares exactly the length of its trees is decoded,
whatever stands behind it. -/
theorem decode?_encodeAll {header : Header} {trees : List AttrTree} (family : FamilyHeader)
    (rest : Bytes)
    (declared : header.length.toNat = headersLength + AttrTree.paddedLengths trees) :
    decode? header (family.encode ++ (AttrTree.encodeAll trees ++ rest)) =
      (some (ofBody header family (AttrTree.encodeAll trees)), rest) := by
  have body : bodyLength header = (AttrTree.encodeAll trees).length := by
    rw [bodyLength, declared, Nat.add_sub_cancel_left, AttrTree.length_encodeAll]
  have padded : (AttrTree.encodeAll trees).length = roundUp4 (bodyLength header) := by
    rw [body, AttrTree.length_encodeAll,
      roundUp4_of_dvd (AttrTree.four_dvd_paddedLengths trees)]
  rw [decode?_encode_append family _ rest padded, body, List.take_length]

/-- A body tells what the trees tell that it is the list of. -/
theorem ofBody_eq_ofTrees (header : Header) (family : FamilyHeader) {body : Bytes}
    {trees : List AttrTree} (read : Attr.list body = trees.map AttrTree.attr)
    (fit : ∀ tree ∈ trees, tree.Fits) :
    ofBody header family body = ofTrees header family trees := by
  simp only [ofBody, ofTrees, tuple?_of_list _ read fit, word32_of_list _ read]

end Record

end Conntrack.Connection
