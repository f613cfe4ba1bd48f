import Conntrack.Connection.TimeoutUpdate
import Conntrack.Proofs.SentDatagram

/-!
# Requests for a new timeout are read back

The request is one message among those that can be sent (`TimeoutUpdate.sent`),
so the walk finds its record, and a scan finds the transport part that the
record leaves out. Together these tell all six fields of an update, and no two
updates share a request.
-/

namespace Conntrack.Wire

theorem networkWord16_injective {one two : UInt16} (same : networkWord16 one = networkWord16 two) :
    one = two := by
  have first := networkWord16?_append one []
  rw [same, networkWord16?_append two []] at first
  simp only [Option.some.injEq, Prod.mk.injEq, and_true] at first
  exact first.symm

theorem ofBigEndian_networkWord32 (value : UInt32) :
    UInt32.ofNat (ofBigEndian (networkWord32 value)) = value := by
  have fits : value.toNat < capacity 4 := value.toNat_lt
  rw [networkWord32, ofBigEndian_bigEndian 4 value.toNat fits, UInt32.ofNat_toNat]

end Conntrack.Wire

namespace Conntrack.Connection.TimeoutUpdate

open Wire Message Datagram

/-- The family header of every request. -/
def family : FamilyHeader := ⟨inetFamily, familyVersion, 0⟩

theorem valueLength_tuple (update : TimeoutUpdate) : update.tuple.valueLength = 48 := by
  simp [tuple, addressLeaf, Address.bytes, AttrTree.byte, AttrTree.word16, AttrTree.valueLength,
    AttrTree.paddedLengths, networkWord16, Attr.headerLength, roundUp4]

theorem valueLength_timeout (update : TimeoutUpdate) :
    (AttrTree.word32 Field.timeout.code update.timeout).valueLength = 4 := by
  simp [AttrTree.word32, AttrTree.valueLength, networkWord32]

theorem paddedLengths_trees (update : TimeoutUpdate) : AttrTree.paddedLengths update.trees = 60 := by
  simp [trees, AttrTree.paddedLengths, valueLength_tuple, valueLength_timeout, Attr.headerLength,
    roundUp4]

theorem payload_trees (update : TimeoutUpdate) :
    (Content.tracked Event.newOperation family update.trees).payload =
      family.encode ++ AttrTree.encodeAll update.trees :=
  AttrTree.toList_packAll _ _

theorem fits_trees (update : TimeoutUpdate) : ∀ tree ∈ update.trees, tree.Fits := by
  intro tree member
  have bound := AttrTree.paddedLength_le_of_mem member
  have above : tree.length ≤ tree.paddedLength := le_roundUp4 _
  rw [paddedLengths_trees] at bound
  calc tree.length
    _ ≤ tree.paddedLength := above
    _ ≤ 60 := bound
    _ < UInt16.size := by decide

/-- The request as a message among others. -/
def sent (update : TimeoutUpdate) : Sent where
  content := .tracked Event.newOperation family update.trees
  flags := requestFlag ||| acknowledgeFlag ||| replaceFlag
  sequence := 1
  sender := 0
  wellFormed := update.fits_trees
  fits := by
    rw [payload_trees, List.length_append, FamilyHeader.length_encode, AttrTree.length_encodeAll,
      paddedLengths_trees]
    decide

theorem header_sent (update : TimeoutUpdate) : update.sent.header = update.header := by
  have length : update.sent.length = Record.headersLength + AttrTree.paddedLengths update.trees := by
    rw [Sent.length, sent, payload_trees, List.length_append, FamilyHeader.length_encode,
      AttrTree.length_encodeAll, Record.headersLength, Nat.add_assoc]
  rw [Sent.header, length]
  rfl

theorem encode_eq_append (update : TimeoutUpdate) : update.encode =
    update.header.encode ++ (family.encode ++ AttrTree.encodeAll update.trees) := by
  simp only [encode, AttrTree.toList_packAll, List.append_assoc]
  rfl

@[simp] theorem length_encode (update : TimeoutUpdate) : update.encode.length = 80 := by
  rw [encode_eq_append, List.length_append, List.length_append, Header.length_encode,
    FamilyHeader.length_encode, AttrTree.length_encodeAll, paddedLengths_trees]
  rfl

theorem header_eq (update : TimeoutUpdate) : update.header = ⟨80,
    conntrackType Event.newOperation, requestFlag ||| acknowledgeFlag ||| replaceFlag, 1, 0⟩ := by
  rw [header, paddedLengths_trees]
  rfl

/-- The request is what its message is on the wire. -/
theorem encode_sent (update : TimeoutUpdate) : encodeAll [update.sent] = update.encode := by
  have length : update.sent.length = 80 := by
    rw [← Sent.toNat_length, header_sent, header_eq]
    rfl
  have spelled : update.sent.encode = update.encode := by
    rw [Sent.encode, length, header_sent, encode_eq_append]
    change _ ++ (Content.tracked _ _ _).payload ++ _ = _
    rw [payload_trees]
    simp [roundUp4]
  simp [encodeAll, spelled]

/-- The record that a request tells. -/
def record (update : TimeoutUpdate) : Record where
  header := ⟨80, conntrackType Event.newOperation,
    requestFlag ||| acknowledgeFlag ||| replaceFlag, 1, 0⟩
  family := ⟨inetFamily, familyVersion, 0⟩
  forward := some ⟨update.source, update.destination⟩
  reply := none
  status := 0
  timeout := update.timeout

theorem ofTrees_trees (update : TimeoutUpdate) :
    Record.ofTrees update.header family update.trees = update.record := by
  have timeout : Field.timeout.word32Of update.trees = update.timeout := by
    have found : Field.timeout.first? update.trees
        = some (.word32 Field.timeout.code update.timeout) := rfl
    have width : (networkWord32 update.timeout).length = 4 := by simp [networkWord32]
    simp only [Field.word32Of, found, AttrTree.word32, AttrTree.value, width, if_true,
      ofBigEndian_networkWord32]
  have forward : (Field.forwardTuple.first? update.trees).bind AddressPair.ofTree?
      = some ⟨update.source, update.destination⟩ := rfl
  have reply : (Field.replyTuple.first? update.trees).bind AddressPair.ofTree? = none := rfl
  have status : Field.status.word32Of update.trees = 0 := rfl
  rw [Record.ofTrees, timeout, forward, reply, status, header_eq]
  rfl

theorem entries_encode (update : TimeoutUpdate) :
    entries update.encode = .ok [.tracked .new update.record] := by
  rw [← encode_sent, entries_of_sent, ← ofTrees_trees, ← header_sent]
  rfl

/-- The attributes in the transport part of the forward direction, as a scan
behind the headers of a request finds them. -/
def transportAttrs (request : Bytes) : Option (List Attr) := do
  let tuple ← Field.forwardTuple.find? (request.drop Record.headersLength)
  let transport ← Field.transport.find? tuple.payload
  some transport.children

theorem transportAttrs_encode (update : TimeoutUpdate) : transportAttrs update.encode = some [
    ⟨Field.protocol.wireType, [update.protocol]⟩,
    ⟨Field.sourcePort.wireType, networkWord16 update.sourcePort⟩,
    ⟨Field.destinationPort.wireType, networkWord16 update.destinationPort⟩] := by
  have body : update.encode.drop Record.headersLength = AttrTree.encodeAll update.trees := by
    rw [encode_eq_append, ← List.append_assoc]
    apply List.drop_left'
    rw [List.length_append, Header.length_encode, FamilyHeader.length_encode]
    rfl
  have listed := AttrTree.list_encodeAll update.trees [] update.fits_trees
  rw [Attr.list_nil, List.append_nil, List.append_nil] at listed
  have tupleFits : update.tuple.Fits := update.fits_trees _ List.mem_cons_self
  let transport : AttrTree := .nested Field.transport.code [
    .byte Field.protocol.code update.protocol,
    .word16 Field.sourcePort.code update.sourcePort,
    .word16 Field.destinationPort.code update.destinationPort]
  have transportFits : transport.Fits :=
    AttrTree.fits_of_mem_contents tupleFits (List.mem_cons_of_mem _ List.mem_cons_self)
  have tuple : Field.forwardTuple.find? (AttrTree.encodeAll update.trees)
      = some update.tuple.attr := Field.find?_of_list Field.forwardTuple listed
  have inside : Field.transport.find? update.tuple.value = some transport.attr :=
    Field.find?_of_list Field.transport (update.tuple.list_value tupleFits)
  have children : transport.attr.children = transport.contents.map AttrTree.attr :=
    transport.list_value transportFits
  rw [transportAttrs, body, tuple]
  change (Field.transport.find? update.tuple.value).bind _ = _
  rw [inside]
  exact congrArg some children

theorem encode_injective {one two : TimeoutUpdate} (same : one.encode = two.encode) : one = two := by
  have records := one.entries_encode
  have transports := one.transportAttrs_encode
  rw [same, two.entries_encode] at records
  rw [same, two.transportAttrs_encode] at transports
  simp only [record, Except.ok.injEq, List.cons.injEq, Entry.tracked.injEq, Record.mk.injEq,
    Option.some.injEq, AddressPair.mk.injEq, true_and, and_true] at records
  simp only [Option.some.injEq, List.cons.injEq, Attr.mk.injEq, true_and, and_true] at transports
  obtain ⟨⟨source, destination⟩, timeout⟩ := records
  obtain ⟨protocol, sourceBytes, destinationBytes⟩ := transports
  have sourcePort := networkWord16_injective sourceBytes
  have destinationPort := networkWord16_injective destinationBytes
  cases one
  cases two
  simp_all only

/-- What a request tells: one record of a new connection with the addresses and
the timeout, and a transport part with the protocol and the ports. No other
update has the same request. -/
theorem request_read_back (update : TimeoutUpdate) :
    (Header.read? update.encode).map (·.1.length.toNat) = some update.encode.length ∧
    entries update.encode = .ok [.tracked .new update.record] ∧
    transportAttrs update.encode = some [
      ⟨Field.protocol.wireType, [update.protocol]⟩,
      ⟨Field.sourcePort.wireType, networkWord16 update.sourcePort⟩,
      ⟨Field.destinationPort.wireType, networkWord16 update.destinationPort⟩] ∧
    ∀ other : TimeoutUpdate, other.encode = update.encode ↔ other = update := by
  refine ⟨?_, update.entries_encode, update.transportAttrs_encode, ?_⟩
  · rw [length_encode, encode_eq_append, Header.read?_encode, header_eq]
    rfl
  · intro other
    constructor
    · exact encode_injective
    · rintro rfl
      rfl

end Conntrack.Connection.TimeoutUpdate
