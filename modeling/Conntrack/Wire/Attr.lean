import Conntrack.Wire.Bytes

/-!
# Attributes

An attribute is a length, a type and a value, padded with zeros to a multiple
of four bytes. The length covers its own four-byte header and the value but not
the padding; the top two bits of the type are flags. A nested attribute carries
attributes as its value.

There are two ways through a run of attributes. `Attr.read?` takes one
attribute, and accepts a last one whose padding is missing; `Attr.list` repeats
it. `Attr.find?` looks for the first attribute of a type, and steps only over
attributes whose padding is present. Both stop for good at the first header
that does not fit or that declares fewer than four bytes.
-/

namespace Conntrack.Wire

structure Attr where
  /-- The type with its flag bits, as on the wire. -/
  type : UInt16
  payload : Bytes
  deriving DecidableEq, Repr

namespace Attr

def headerLength : Nat := 4

/-- Set on the type of an attribute that holds attributes. -/
def nestedFlag : UInt16 := 0x8000

/-- Set on the type of an attribute whose value is in network order. -/
def networkOrderFlag : UInt16 := 0x4000

def typeMask : UInt16 := ~~~(nestedFlag ||| networkOrderFlag)

def nestedType (type : UInt16) : UInt16 := type ||| nestedFlag

/-- The declared length and the type; refused if the length is below the header's own. -/
def header? (bytes : Bytes) : Option (Nat × UInt16) := do
  let (length, rest) ← hostWord16? bytes
  let (type, _) ← hostWord16? rest
  if length.toNat < headerLength then none else some (length.toNat, type)

/-- One attribute and what follows its padding, or the end of the bytes if the
padding is cut off. -/
def read? : Reader Attr := fun bytes => do
  let (length, type) ← header? bytes
  let (whole, _) ← take? length bytes
  some (⟨type, whole.drop headerLength⟩, bytes.drop (roundUp4 length))

theorem length_of_header? {bytes : Bytes} {length : Nat} {type : UInt16}
    (read : header? bytes = some (length, type)) :
    headerLength ≤ length ∧ headerLength ≤ bytes.length := by
  simp only [header?, Option.bind_eq_bind, Option.bind_eq_some_iff] at read
  obtain ⟨⟨low, rest⟩, first, ⟨high, after⟩, second, kept⟩ := read
  have front := hostWord16?_eq_some first
  have back := hostWord16?_eq_some second
  dsimp only at front back kept
  split at kept
  · cases kept
  · simp only [Option.some.injEq, Prod.mk.injEq] at kept
    obtain ⟨rfl, -⟩ := kept
    refine ⟨by omega, ?_⟩
    rw [front, back]
    simp only [hostWord16, List.length_append, length_littleEndian, headerLength]
    omega

/-- An attribute read leaves fewer bytes, so repeated reading ends. -/
theorem read?_shrinks {bytes rest : Bytes} {attr : Attr}
    (read : read? bytes = some (attr, rest)) : rest.length < bytes.length := by
  simp only [read?, Option.bind_eq_bind, Option.bind_eq_some_iff] at read
  obtain ⟨⟨length, type⟩, header, ⟨whole, _⟩, -, kept⟩ := read
  simp only [Option.some.injEq, Prod.mk.injEq] at kept
  obtain ⟨-, rfl⟩ := kept
  obtain ⟨declared, present⟩ := length_of_header? header
  have above := le_roundUp4 length
  unfold headerLength at *
  rw [List.length_drop]
  omega

/-- A value is shorter than the bytes it was read from. -/
theorem payload_shrinks {bytes rest : Bytes} {attr : Attr}
    (read : read? bytes = some (attr, rest)) : attr.payload.length < bytes.length := by
  simp only [read?, Option.bind_eq_bind, Option.bind_eq_some_iff] at read
  obtain ⟨⟨length, type⟩, header, ⟨whole, behind⟩, taken, kept⟩ := read
  simp only [Option.some.injEq, Prod.mk.injEq] at kept
  obtain ⟨rfl, -⟩ := kept
  have declared := (length_of_header? header).1
  have joined := length_of_take? taken
  have width := (take?_eq_some taken).2
  unfold headerLength at *
  simp only [List.length_drop]
  omega

/-- Stepping over an attribute leaves fewer bytes, so a scan ends. -/
theorem skip_shrinks {bytes skipped rest : Bytes} {length : Nat} {type : UInt16}
    (read : header? bytes = some (length, type))
    (taken : take? (roundUp4 length) bytes = some (skipped, rest)) :
    rest.length < bytes.length := by
  have declared := (length_of_header? read).1
  have above := le_roundUp4 length
  have split := length_of_take? taken
  unfold headerLength at *
  omega

/-- The attributes from the front up to the first that cannot be read. -/
def list (bytes : Bytes) : List Attr :=
  match read : read? bytes with
  | none => []
  | some (attr, rest) =>
    have := read?_shrinks read
    attr :: list rest
termination_by bytes.length

/-- The first attribute of a raw type, and where the scan stopped: behind the
attribute on a match, else at the bytes that ended the scan. A match whose value
is cut off is not skipped. -/
def find? (type : UInt16) (bytes : Bytes) : Option Attr × Bytes :=
  match header : header? bytes with
  | none => (none, bytes)
  | some (length, found) =>
    if found = type then
      match read? bytes with
      | none => (none, bytes)
      | some (attr, rest) => (some attr, rest)
    else
      match skipped : take? (roundUp4 length) bytes with
      | none => (none, bytes)
      | some (_, rest) =>
        have := skip_shrinks header skipped
        find? type rest
termination_by bytes.length

/-- The type without its flag bits. -/
def kind (attr : Attr) : UInt16 := attr.type &&& typeMask

def isNested (attr : Attr) : Bool := attr.type &&& nestedFlag != 0

/-- The declared length: header and value without padding. -/
def length (attr : Attr) : Nat := headerLength + attr.payload.length

/-- The bytes the attribute takes up, padding included. -/
def paddedLength (attr : Attr) : Nat := roundUp4 attr.length

def children (attr : Attr) : List Attr := list attr.payload

/-! Values: each accessor wants exactly its own width. -/

def byteValue? (attr : Attr) : Option UInt8 :=
  match attr.payload with
  | [byte] => some byte
  | _ => none

def word16Value? (attr : Attr) : Option UInt16 :=
  if attr.payload.length = 2 then some (UInt16.ofNat (ofBigEndian attr.payload)) else none

def word32Value? (attr : Attr) : Option UInt32 :=
  if attr.payload.length = 4 then some (UInt32.ofNat (ofBigEndian attr.payload)) else none

end Attr

end Conntrack.Wire
