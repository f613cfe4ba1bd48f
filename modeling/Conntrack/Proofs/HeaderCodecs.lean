import Conntrack.Proofs.CursorReads
import Conntrack.Proofs.WalkPositions

/-!
# Headers are written and read exactly

A codec of a fixed width is exact if its two directions undo each other at every
cursor: a written value is read back between any bytes, and what was read is
written as the very bytes that were taken (`ExactCodec`). Two inverse functions
on byte strings that fit the width make such a codec (`ExactCodec.of_inverse`).
Message header and family header have one each, in which every field has bytes
of its own: the words of the first are in host order, the resource id of the
second is in network order (`exact_headers`).
-/

namespace Conntrack.Wire

/-- Writing and reading in a fixed width, each undoing the other at any cursor. -/
structure ExactCodec {α : Type} (size : Nat) (encode : α → Bytes) (reader : Reader α) : Prop where
  /-- A value that was written behind some bytes is read back there, up to the bytes
  that were written next. -/
  read_back : ∀ (value : α) (front behind : Bytes) (cursor : Cursor),
    cursor.data = front ++ encode value ++ behind → cursor.position = front.length →
      ∃ after, cursor.read? reader = some (value, after) ∧ after.data = cursor.data ∧
        after.position = front.length + size ∧ after.rest = behind
  /-- A value that was read is written as the bytes that were taken. -/
  write_back : ∀ (value : α) (cursor after : Cursor), cursor.read? reader = some (value, after) →
    encode value = cursor.rest.take size ∧ after.data = cursor.data ∧
      after.position = cursor.position + size
  /-- Any bytes spell a value, if only they are enough. -/
  read_iff : ∀ cursor : Cursor, (cursor.read? reader).isSome ↔ size ≤ cursor.remaining
  /-- Different bytes spell different values. -/
  injective : ∀ (value : α) (cursor cursor' after after' : Cursor),
    cursor.read? reader = some (value, after) → cursor'.read? reader = some (value, after') →
      cursor.rest.take size = cursor'.rest.take size

section

variable {α : Type} {size : Nat} {encode : α → Bytes} {reader : Reader α}

/-- What a reader took off a cursor, if it takes nothing but what is written. -/
theorem Cursor.taken_of_read {cursor after : Cursor} {value : α}
    (encode_of_read : ∀ {bytes rest value}, reader bytes = some (value, rest) →
      bytes = encode value ++ rest)
    (read : cursor.read? reader = some (value, after)) :
    cursor.rest = encode value ++ after.rest ∧ after.data = cursor.data ∧
      after.position = cursor.position + (encode value).length := by
  obtain ⟨⟨found, rest⟩, taken, same⟩ := Option.map_eq_some_iff.mp read
  cases same
  have split := encode_of_read taken
  refine ⟨?_, rfl, cursor.position_stopAt split⟩
  rw [cursor.rest_stopAt split]
  exact split

theorem ExactCodec.of_inverse (length_encode : ∀ value, (encode value).length = size)
    (read_encode : ∀ value rest, reader (encode value ++ rest) = some (value, rest))
    (encode_of_read : ∀ {bytes rest value}, reader bytes = some (value, rest) →
      bytes = encode value ++ rest)
    (readable : ∀ {bytes : Bytes}, size ≤ bytes.length → (reader bytes).isSome) :
    ExactCodec size encode reader where
  read_back := by
    intro value front behind cursor written here
    have rest : cursor.rest = encode value ++ behind := by
      rw [Cursor.rest, written, here, List.append_assoc, List.drop_left]
    have read : reader cursor.rest = some (value, behind) := by
      rw [rest]
      exact read_encode value behind
    refine ⟨_, Cursor.read?_of_some read, rfl, ?_, cursor.rest_stopAt rest⟩
    rw [cursor.position_stopAt rest, here, length_encode]
  write_back := by
    intro value cursor after read
    obtain ⟨split, same, moved⟩ := Cursor.taken_of_read encode_of_read read
    rw [length_encode] at moved
    refine ⟨?_, same, moved⟩
    rw [split, ← length_encode value, List.take_left]
  read_iff := by
    intro cursor
    rw [Cursor.read?, Option.isSome_map, ← cursor.length_rest]
    refine ⟨fun readable => ?_, fun enough => readable enough⟩
    obtain ⟨⟨value, rest⟩, read⟩ := Option.isSome_iff_exists.mp readable
    rw [encode_of_read read, List.length_append, length_encode]
    exact Nat.le_add_right size _
  injective := by
    intro value cursor cursor' after after' read read'
    obtain ⟨split, -, -⟩ := Cursor.taken_of_read encode_of_read read
    obtain ⟨split', -, -⟩ := Cursor.taken_of_read encode_of_read read'
    rw [split, split', ← length_encode value, List.take_left, List.take_left]

end

end Conntrack.Wire

namespace Conntrack.Message

open Wire

/-- The words of a message header, each in bytes of its own and in host order. -/
structure Header.Layout (header : Header) (bytes : Bytes) : Prop where
  length : ofLittleEndian (bytes.take 4) = header.length.toNat
  type : ofLittleEndian ((bytes.drop 4).take 2) = header.type.toNat
  flags : ofLittleEndian ((bytes.drop 6).take 2) = header.flags.toNat
  sequence : ofLittleEndian ((bytes.drop 8).take 4) = header.sequence.toNat
  sender : ofLittleEndian ((bytes.drop 12).take 4) = header.sender.toNat

theorem Header.layout_encode (header : Header) : header.Layout header.encode where
  length := ofLittleEndian_littleEndian 4 _ header.length.toNat_lt
  type := ofLittleEndian_littleEndian 2 _ header.type.toNat_lt
  flags := ofLittleEndian_littleEndian 2 _ header.flags.toNat_lt
  sequence := ofLittleEndian_littleEndian 4 _ header.sequence.toNat_lt
  sender := ofLittleEndian_littleEndian 4 _ header.sender.toNat_lt

/-- The bytes of a family header, its resource id in network order. -/
structure FamilyHeader.Layout (header : FamilyHeader) (bytes : Bytes) : Prop where
  family : bytes.take 1 = [header.family]
  version : (bytes.drop 1).take 1 = [header.version]
  resource : ofBigEndian ((bytes.drop 2).take 2) = header.resource.toNat

theorem FamilyHeader.layout_encode (header : FamilyHeader) : header.Layout header.encode where
  family := rfl
  version := rfl
  resource := ofBigEndian_bigEndian 2 _ header.resource.toNat_lt

/-- Every header is read back from what was written, between any bytes, and all
bytes that are read are written again. So a header has exactly one spelling and
any bytes of its width spell exactly one header, with each field in its own
bytes. -/
theorem exact_headers :
    ExactCodec Header.size Header.encode Header.read? ∧
      ExactCodec FamilyHeader.size FamilyHeader.encode FamilyHeader.read? ∧
      Header.size = 16 ∧ FamilyHeader.size = 4 ∧
      (∀ header : Header, header.Layout header.encode) ∧
      ∀ header : FamilyHeader, header.Layout header.encode := by
  have message : ExactCodec Header.size Header.encode Header.read? := by
    refine .of_inverse Header.length_encode Header.read?_encode Header.encode_of_read? ?_
    intro bytes enough
    rw [Header.read?_of_le enough]
    rfl
  have family : ExactCodec FamilyHeader.size FamilyHeader.encode FamilyHeader.read? := by
    refine .of_inverse FamilyHeader.length_encode FamilyHeader.read?_encode
      FamilyHeader.encode_of_read? ?_
    intro bytes enough
    rw [Option.isSome_iff_ne_none, Ne, FamilyHeader.read?_eq_none_iff]
    exact Nat.not_lt.mpr enough
  exact ⟨message, family, rfl, rfl, Header.layout_encode, FamilyHeader.layout_encode⟩

end Conntrack.Message
