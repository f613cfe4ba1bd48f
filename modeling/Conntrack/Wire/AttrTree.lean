import Conntrack.Wire.Attr

/-!
# Attribute trees

A tree is an attribute to be written: a leaf with its bytes, or a nested
attribute with its children. There are three recursions over it. `valueLength`
(with `length` and `paddedLength`) computes sizes without writing anything;
`pack` appends the attribute to a buffer, puts those sizes into the headers and
pads up to them; `encode` is the plain byte string of the attribute. Nothing
limits the lengths, but the length field on the wire keeps only their low
sixteen bits.

The three agree: `pack` appends exactly `encode` (`toList_pack`), which is
`paddedLength` bytes long (`length_encode`). An attribute whose length fits its
field is read back with its value (`read?_frame`).
-/

namespace Conntrack.Wire

inductive AttrTree where
  | leaf (type : UInt16) (value : Bytes)
  | nested (type : UInt16) (children : List AttrTree)

namespace AttrTree

def byte (type : UInt16) (value : UInt8) : AttrTree := .leaf type [value]

def word16 (type : UInt16) (value : UInt16) : AttrTree := .leaf type (networkWord16 value)

def word32 (type : UInt16) (value : UInt32) : AttrTree := .leaf type (networkWord32 value)

/-- The type as written: nested attributes carry the nested flag. -/
def wireType : AttrTree → UInt16
  | .leaf type _ => type
  | .nested type _ => Attr.nestedType type

mutual

/-- The bytes between header and padding; children count with their padding. -/
def valueLength : AttrTree → Nat
  | .leaf _ value => value.length
  | .nested _ children => paddedLengths children

/-- The bytes a run of attributes takes up. -/
def paddedLengths : List AttrTree → Nat
  | [] => 0
  | tree :: trees => roundUp4 (Attr.headerLength + tree.valueLength) + paddedLengths trees

end

/-- The declared length: header and value without padding. -/
def length (tree : AttrTree) : Nat := Attr.headerLength + tree.valueLength

/-- The bytes the attribute takes up, padding included. -/
def paddedLength (tree : AttrTree) : Nat := roundUp4 tree.length

/-- The four header bytes: the low sixteen bits of the length, and the type. -/
def header (length : Nat) (type : UInt16) : Bytes :=
  hostWord16 (UInt16.ofNat length) ++ hostWord16 type

/-- The buffer cut or filled with zeros to a size. -/
def resize (buffer : Array UInt8) (size : Nat) : Array UInt8 :=
  if size ≤ buffer.size then buffer.take size
  else buffer ++ Array.replicate (size - buffer.size) 0

mutual

/-- Append the attribute and its padding to a buffer. The padding goes by the
attribute's own start, whatever stands before it. -/
def pack : AttrTree → Array UInt8 → Array UInt8
  | .leaf type value, buffer =>
    resize (buffer ++ header (Attr.headerLength + value.length) type ++ value)
      (buffer.size + roundUp4 (Attr.headerLength + value.length))
  | .nested type children, buffer =>
    let length := Attr.headerLength + paddedLengths children
    resize (packAll children (buffer ++ header length (Attr.nestedType type)))
      (buffer.size + roundUp4 length)

def packAll : List AttrTree → Array UInt8 → Array UInt8
  | [], buffer => buffer
  | tree :: trees, buffer => packAll trees (tree.pack buffer)

end

/-- Header, value and as many zeros as the value lacks to a multiple of four. -/
def frame (type : UInt16) (value : Bytes) : Bytes :=
  let length := Attr.headerLength + value.length
  header length type ++ value ++ List.replicate (roundUp4 length - length) 0

mutual

/-- The bytes of the attribute. -/
def encode : AttrTree → Bytes
  | .leaf type value => frame type value
  | .nested type children => frame (Attr.nestedType type) (encodeAll children)

def encodeAll : List AttrTree → Bytes
  | [] => []
  | tree :: trees => tree.encode ++ encodeAll trees

end

@[simp] theorem length_header (length : Nat) (type : UInt16) :
    (header length type).length = Attr.headerLength := by
  simp [header, hostWord16, Attr.headerLength]

@[simp] theorem length_frame (type : UInt16) (value : Bytes) :
    (frame type value).length = roundUp4 (Attr.headerLength + value.length) := by
  have above := le_roundUp4 (Attr.headerLength + value.length)
  simp only [frame, List.length_append, length_header, List.length_replicate]
  omega

mutual

theorem length_encode (tree : AttrTree) : tree.encode.length = tree.paddedLength := by
  cases tree with
  | leaf type value => exact length_frame type value
  | nested type children =>
    rw [encode, length_frame, length_encodeAll children]
    rfl

theorem length_encodeAll (trees : List AttrTree) :
    (encodeAll trees).length = paddedLengths trees := by
  cases trees with
  | nil => rfl
  | cons tree trees =>
    rw [encodeAll, List.length_append, length_encode tree, length_encodeAll trees]
    rfl

end

theorem toList_resize (buffer : Array UInt8) (size : Nat) (grows : buffer.size ≤ size) :
    (resize buffer size).toList = buffer.toList ++ List.replicate (size - buffer.size) 0 := by
  unfold resize
  split
  · have same : size = buffer.size := by omega
    simp [same]
  · simp

/-- Filling a buffer up to the padded length of what was appended completes a frame. -/
theorem toList_resize_frame (buffer : Array UInt8) (type : UInt16) (value : Bytes) (length : Nat)
    (agree : length = Attr.headerLength + value.length) (packed : Array UInt8)
    (appended : packed.toList = buffer.toList ++ header length type ++ value) :
    (resize packed (buffer.size + roundUp4 length)).toList = buffer.toList ++ frame type value := by
  have above := le_roundUp4 length
  have size : packed.size = buffer.size + length := by
    have lengths := congrArg List.length appended
    simp only [Array.length_toList, List.length_append, length_header] at lengths
    omega
  rw [toList_resize _ _ (by omega), appended, size, frame, ← agree]
  simp only [List.append_assoc]
  rw [Nat.add_sub_add_left]

mutual

/-- Packing appends the bytes of the attribute, whatever stands in the buffer. -/
theorem toList_pack (tree : AttrTree) (buffer : Array UInt8) :
    (tree.pack buffer).toList = buffer.toList ++ tree.encode := by
  cases tree with
  | leaf type value =>
    rw [pack, encode]
    exact toList_resize_frame buffer type value _ rfl _ (by simp)
  | nested type children =>
    rw [pack, encode]
    refine toList_resize_frame buffer _ (encodeAll children) _ ?_ _ ?_
    · rw [length_encodeAll]
    · rw [toList_packAll children]
      simp

theorem toList_packAll (trees : List AttrTree) (buffer : Array UInt8) :
    (packAll trees buffer).toList = buffer.toList ++ encodeAll trees := by
  cases trees with
  | nil => simp [packAll, encodeAll]
  | cons tree trees =>
    rw [packAll, encodeAll, toList_packAll trees, toList_pack tree, List.append_assoc]

end

theorem header?_header (length : Nat) (type : UInt16) (rest : Bytes)
    (large : Attr.headerLength ≤ length) (fits : length < UInt16.size) :
    Attr.header? (header length type ++ rest) = some (length, type) := by
  have kept : (UInt16.ofNat length).toNat = length := by
    rw [UInt16.toNat_ofNat']
    exact Nat.mod_eq_of_lt fits
  simp only [Attr.header?, header, List.append_assoc, hostWord16?_append, Option.bind_eq_bind,
    Option.bind_some, kept]
  exact if_neg (by omega)

/-- A written attribute is read back, and what follows it is left. -/
theorem read?_frame (type : UInt16) (value rest : Bytes)
    (fits : Attr.headerLength + value.length < UInt16.size) :
    Attr.read? (frame type value ++ rest) = some (⟨type, value⟩, rest) := by
  let length := Attr.headerLength + value.length
  let padding : Bytes := List.replicate (roundUp4 length - length) 0
  have spelled : frame type value ++ rest = header length type ++ value ++ (padding ++ rest) := by
    rw [← List.append_assoc]
    rfl
  have declared : Attr.header? (frame type value ++ rest) = some (length, type) := by
    rw [spelled, List.append_assoc]
    exact header?_header length type _ (Nat.le_add_right _ _) fits
  have whole : take? length (frame type value ++ rest)
      = some (header length type ++ value, padding ++ rest) := by
    have taken := take?_append (header length type ++ value) (padding ++ rest)
    rwa [List.length_append, length_header, ← spelled] at taken
  have payload : (header length type ++ value).drop Attr.headerLength = value := by
    rw [← length_header length type]
    exact List.drop_left
  have behind : (frame type value ++ rest).drop (roundUp4 length) = rest := by
    rw [← length_frame type value]
    exact List.drop_left
  simp only [Attr.read?, declared, whole, payload, behind, Option.bind_eq_bind, Option.bind_some]

end AttrTree

end Conntrack.Wire
