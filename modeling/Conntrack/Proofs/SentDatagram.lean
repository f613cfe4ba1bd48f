import Conntrack.Proofs.RecordFields
import Conntrack.Proofs.WalkPositions

/-!
# The walk undoes the encoding of a datagram

A datagram is sent as a list of messages, each behind a header that declares its
unpadded length, and each padded to a multiple of four bytes. The walk over the
encoded list gives what each message says, in order, up to the first message
that stops it (`heard`); what stands behind that message does not matter
(`entries_encodeAll`).
-/

namespace Conntrack.Message

open Wire

theorem toNat_conntrackType (operation : UInt8) :
    (conntrackType operation).toNat = 256 + operation.toNat := by
  have small : operation.toNat < 2 ^ 8 := operation.toNat_lt
  have joined := Nat.two_pow_add_eq_or_of_lt small 1
  simp only [conntrackType, UInt16.toNat_or, UInt16.toNat_shiftLeft, UInt8.toNat_toUInt16]
  exact joined.symm

theorem purpose_conntrackType {header : Header} {operation : UInt8}
    (typed : header.type = conntrackType operation) : header.purpose = .conntrack operation := by
  have value := toNat_conntrackType operation
  have small : operation.toNat < 256 := operation.toNat_lt
  have other : ∀ type : UInt16, type.toNat < 256 → header.type ≠ type := by
    rintro type low rfl
    rw [typed, value] at low
    omega
  have subsystem : header.subsystem = conntrackSubsystem := by
    apply UInt8.toNat_inj.mp
    rw [Header.subsystem, typed, UInt16.toNat_toUInt8, UInt16.toNat_shiftRight, value]
    change (256 + operation.toNat) >>> 8 % 2 ^ 8 = 1
    omega
  have operated : header.operation = operation := by
    apply UInt8.toNat_inj.mp
    rw [Header.operation, typed, UInt16.toNat_toUInt8, value]
    omega
  rw [Header.purpose, if_neg (other doneType (by decide)), if_neg (other errorType (by decide)),
    if_neg (other noopType (by decide)), if_neg (other overrunType (by decide)),
    if_pos subsystem, operated]

end Conntrack.Message

namespace Conntrack.Datagram

open Wire Message Connection

/-- What a message is sent to say. -/
inductive Content where
  | tracked (operation : UInt8) (family : FamilyHeader) (attributes : List AttrTree)
  /-- A message that says nothing to the walk, by its type. -/
  | skipped (type : UInt16) (payload : Bytes)
  /-- The outcome of a request, with the request or whatever else is echoed. -/
  | outcome (code : Int32) (echo : Bytes)
  | done (payload : Bytes)

namespace Content

def type : Content → UInt16
  | .tracked operation _ _ => conntrackType operation
  | .skipped type _ => type
  | .outcome _ _ => errorType
  | .done _ => doneType

/-- What follows the message header. -/
def payload : Content → Bytes
  | .tracked _ family attributes => (AttrTree.packAll attributes family.encode.toArray).toList
  | .skipped _ payload => payload
  | .outcome code echo => hostWord32 code.toUInt32 ++ echo
  | .done payload => payload

/-- Attributes have lengths that fit their fields. The types that are skipped
are all but those of outcomes, end markers and connections; the two of empty
control messages are among them. -/
def WellFormed : Content → Prop
  | .tracked _ _ attributes => ∀ tree ∈ attributes, tree.Fits
  | .skipped type _ =>
    type ≠ errorType ∧ type ≠ doneType ∧ (type >>> 8).toUInt8 ≠ conntrackSubsystem
  | .outcome _ _ => True
  | .done _ => True

instance : (content : Content) → Decidable content.WellFormed
  | .tracked _ _ attributes => inferInstanceAs (Decidable (∀ tree ∈ attributes, tree.Fits))
  | .skipped type _ => inferInstanceAs (Decidable
      (type ≠ errorType ∧ type ≠ doneType ∧ (type >>> 8).toUInt8 ≠ conntrackSubsystem))
  | .outcome _ _ => .isTrue trivial
  | .done _ => .isTrue trivial

end Content

/-- A message as it is sent. -/
structure Sent where
  content : Content
  flags : UInt16
  sequence : UInt32
  sender : UInt32
  wellFormed : content.WellFormed
  fits : Header.size + content.payload.length < UInt32.size

namespace Sent

/-- The declared length, without padding. -/
def length (sent : Sent) : Nat := Header.size + sent.content.payload.length

def header (sent : Sent) : Header where
  length := UInt32.ofNat sent.length
  type := sent.content.type
  flags := sent.flags
  sequence := sent.sequence
  sender := sent.sender

/-- The message on the wire, padded with zeros. -/
def encode (sent : Sent) : Bytes :=
  sent.header.encode ++ sent.content.payload ++
    List.replicate (roundUp4 sent.length - sent.length) 0

/-- What the message says. -/
def report? (sent : Sent) : Option Entry :=
  match sent.content with
  | .tracked operation family attributes =>
    some (.tracked (Event.ofOperation operation) (Record.ofTrees sent.header family attributes))
  | .skipped _ _ => none
  | .outcome code _ => some (.outcome (-code))
  | .done _ => some .done

/-- Whether nothing behind the message is heard. -/
def stops (sent : Sent) : Bool :=
  match sent.content with
  | .tracked _ _ _ => false
  | .skipped _ _ => false
  | .outcome code _ => code != 0
  | .done _ => true

end Sent

def encodeAll (messages : List Sent) : Bytes := messages.flatMap Sent.encode

/-- What the messages say, up to the first that stops the walk. -/
def heard : List Sent → List Entry
  | [] => []
  | sent :: messages => sent.report?.toList ++ if sent.stops then [] else heard messages

namespace Sent

theorem toNat_length (sent : Sent) : sent.header.length.toNat = sent.length := by
  have fits : sent.length < UInt32.size := sent.fits
  rw [header, UInt32.toNat_ofNat']
  exact Nat.mod_eq_of_lt fits

theorem span_header (sent : Sent) : span sent.header = roundUp4 sent.length := by
  rw [span, toNat_length]

@[simp] theorem length_encode (sent : Sent) : sent.encode.length = span sent.header := by
  have above := le_roundUp4 sent.length
  rw [span_header]
  simp only [encode, List.length_append, Header.length_encode, List.length_replicate]
  unfold Sent.length at *
  omega

theorem take_encode_append (sent : Sent) (rest : Bytes) :
    (sent.encode ++ rest).take Header.size = sent.header.encode := by
  rw [encode, List.append_assoc, List.append_assoc]
  exact List.take_left' (Header.length_encode _)

theorem drop_encode_append (sent : Sent) (rest : Bytes) :
    (sent.encode ++ rest).drop (span sent.header) = rest :=
  List.drop_left' sent.length_encode

/-- What stands behind the payload of a message. -/
def after (sent : Sent) (rest : Bytes) : Bytes :=
  List.replicate (roundUp4 sent.length - sent.length) 0 ++ rest

theorem encode_append (sent : Sent) (rest : Bytes) : sent.encode ++ rest =
    sent.header.encode ++ (sent.content.payload ++ sent.after rest) := by
  simp only [encode, after, List.append_assoc]

theorem drop_size_encode (sent : Sent) (rest : Bytes) :
    (sent.encode ++ rest).drop Header.size = sent.content.payload ++ sent.after rest := by
  rw [encode_append]
  exact List.drop_left' (Header.length_encode _)

theorem outcomeCode_encode {sent : Sent} {code : Int32} {echo : Bytes} (rest : Bytes)
    (said : sent.content = .outcome code echo) :
    outcomeCode ((sent.encode ++ rest).take sent.header.length.toNat) = .ok (-code) := by
  have whole : (sent.encode ++ rest).take sent.header.length.toNat =
      sent.header.encode ++ sent.content.payload := by
    rw [encode_append, ← List.append_assoc, toNat_length]
    apply List.take_left'
    rw [List.length_append, Header.length_encode]
    rfl
  have payload : (sent.header.encode ++ sent.content.payload).drop Header.size =
      hostWord32 code.toUInt32 ++ echo := by
    rw [said]
    exact List.drop_left' (Header.length_encode _)
  simp only [outcomeCode, whole, payload, hostWord32?_append, Int32.toInt32_toUInt32]

theorem decode?_encode {sent : Sent} {operation : UInt8} {family : FamilyHeader}
    {attributes : List AttrTree} (rest : Bytes)
    (said : sent.content = .tracked operation family attributes) :
    (Record.decode? sent.header ((sent.encode ++ rest).drop Header.size)).1 =
      some (Record.ofTrees sent.header family attributes) := by
  have fit : ∀ tree ∈ attributes, tree.Fits := by
    have wellFormed := sent.wellFormed
    rwa [said] at wellFormed
  have payload : sent.content.payload = family.encode ++ AttrTree.encodeAll attributes := by
    rw [said, Content.payload, AttrTree.toList_packAll]
  have declared : sent.header.length.toNat
      = Record.headersLength + AttrTree.paddedLengths attributes := by
    rw [toNat_length, length, payload, List.length_append, FamilyHeader.length_encode,
      AttrTree.length_encodeAll, Record.headersLength, Nat.add_assoc]
  have listed := AttrTree.list_encodeAll attributes [] fit
  rw [Attr.list_nil, List.append_nil, List.append_nil] at listed
  rw [drop_size_encode, payload, List.append_assoc, Record.decode?_encodeAll family _ declared,
    Record.ofBody_eq_ofTrees sent.header family listed fit]

theorem step_of_skipped {header : Header} (bytes : Bytes) (notError : header.type ≠ errorType)
    (notDone : header.type ≠ doneType) (notTracked : header.subsystem ≠ conntrackSubsystem) :
    step header bytes = .ok .skip := by
  have purpose : header.purpose = .noop ∨ header.purpose = .overrun ∨ header.purpose = .foreign := by
    rw [Header.purpose, if_neg notDone, if_neg notError, if_neg notTracked]
    split
    · exact .inl rfl
    · split
      · exact .inr (.inl rfl)
      · exact .inr (.inr rfl)
  rcases purpose with purpose | purpose | purpose <;> simp only [step, purpose]

/-- An outcome is left as an entry, and only an acknowledgement lets the walk go on. -/
theorem exists_step_of_outcome {header : Header} {bytes : Bytes} {code : Int32}
    (purpose : header.purpose = .error)
    (told : outcomeCode (bytes.take header.length.toNat) = .ok (-code)) :
    ∃ outcome, step header bytes = .ok outcome ∧ outcome.entries = [.outcome (-code)] ∧
      outcome.goesOn = !(code != 0) := by
  by_cases zero : code = 0
  · refine ⟨.entry (.outcome (-code)), ?_, rfl, by rw [zero]; rfl⟩
    simp only [step, purpose, told, negated_eq_zero_iff, if_pos zero]
  · refine ⟨.last (.outcome (-code)), ?_, rfl, by simp [Step.goesOn, zero]⟩
    simp only [step, purpose, told, negated_eq_zero_iff, if_neg zero]

/-- A message does to the walk what it says, whatever stands behind it. -/
theorem step_encode_append (sent : Sent) (rest : Bytes) :
    ∃ outcome, step sent.header (sent.encode ++ rest) = .ok outcome ∧
      outcome.entries = sent.report?.toList ∧ outcome.goesOn = !sent.stops := by
  have wellFormed := sent.wellFormed
  have type : sent.header.type = sent.content.type := rfl
  simp only [report?, stops]
  cases said : sent.content with
  | tracked operation family attributes =>
    rw [said] at type
    have purpose := purpose_conntrackType type
    refine ⟨.entry (.tracked (Event.ofOperation operation)
      (Record.ofTrees sent.header family attributes)), ?_, rfl, rfl⟩
    simp only [step, purpose, decode?_encode rest said]
  | skipped skippedType payload =>
    rw [said] at type wellFormed
    obtain ⟨notError, notDone, notTracked⟩ := wellFormed
    refine ⟨.skip, step_of_skipped _ ?_ ?_ ?_, rfl, rfl⟩
    · rwa [type]
    · rwa [type]
    · rwa [Header.subsystem, type]
  | outcome code echo =>
    have purpose : sent.header.purpose = .error := by
      rw [Header.purpose, type, said]
      rfl
    exact exists_step_of_outcome purpose (outcomeCode_encode rest said)
  | done payload =>
    have purpose : sent.header.purpose = .done := by
      rw [Header.purpose, type, said]
      rfl
    refine ⟨.last .done, ?_, rfl, rfl⟩
    simp only [step, purpose]

end Sent

theorem length_encodeAll_cons (sent : Sent) (messages : List Sent) :
    (encodeAll (sent :: messages)).length = span sent.header + (encodeAll messages).length := by
  simp [encodeAll]

/-- The walk over encoded messages that other bytes follow. -/
theorem walk_encodeAll (messages : List Sent) (rest : Bytes) {size offset : Nat}
    (inside : offset + (encodeAll messages).length ≤ size) :
    walk size offset (encodeAll messages ++ rest) =
      if messages.any Sent.stops then .ok (heard messages)
      else (walk size (offset + (encodeAll messages).length) rest).map (heard messages ++ ·) := by
  induction messages generalizing offset with
  | nil => exact (map_nil_append _).symm
  | cons sent messages ih =>
    rw [length_encodeAll_cons] at inside
    have spelled : encodeAll (sent :: messages) ++ rest =
        sent.encode ++ (encodeAll messages ++ rest) := by
      simp [encodeAll]
    have padded : sent.length ≤ span sent.header := sent.span_header ▸ le_roundUp4 _
    have good : lengthFault? sent.header offset size = none := by
      rw [lengthFault?_eq_none, sent.toNat_length]
      exact ⟨Nat.le_add_right _ _, by omega⟩
    obtain ⟨outcome, stepped, said, goesOn⟩ := sent.step_encode_append (encodeAll messages ++ rest)
    rw [spelled, walk_of_step (sent.take_encode_append _) good stepped, sent.drop_encode_append,
      said, goesOn, ih (by omega), length_encodeAll_cons, heard, List.any_cons]
    cases stopped : sent.stops with
    | true => simp
    | false =>
      by_cases later : messages.any Sent.stops
      · simp [later, Except.map]
      · simp [later, map_append_map, Nat.add_assoc]

theorem entries_of_sent (messages : List Sent) :
    entries (encodeAll messages) = .ok (heard messages) := by
  have whole := walk_encodeAll messages [] (Nat.le_of_eq (Nat.zero_add _))
  rw [List.append_nil] at whole
  rw [entries, whole, walk_nil]
  simp [Except.map]

/-- The walk over a datagram gives what its messages say, in order, up to the
first that stops it; behind that one there may be any bytes. -/
theorem entries_encodeAll (messages : List Sent) :
    entries (encodeAll messages) = .ok (heard messages) ∧
      ∀ tail, messages.any Sent.stops →
        entries (encodeAll messages ++ tail) = .ok (heard messages) := by
  constructor
  · exact entries_of_sent messages
  · intro tail stopped
    have inside : 0 + (encodeAll messages).length ≤ (encodeAll messages ++ tail).length := by
      rw [List.length_append]
      omega
    rw [entries, walk_encodeAll messages tail inside, if_pos stopped]

/-! A deleted connection, an empty message, an acknowledgement and a refusal. -/

def Sent.deleted : Sent where
  content := .tracked Event.deleteOperation ⟨inetFamily, familyVersion, 0⟩
    [.nested Field.forwardTuple.code [.nested Field.addresses.code [
      addressLeaf Field.sourceAddress.code ⟨10, 0, 0, 1⟩,
      addressLeaf Field.destinationAddress.code ⟨10, 0, 0, 2⟩]],
    .word32 Field.status.code Status.assured]
  flags := 0
  sequence := 0
  sender := 0
  wellFormed := by decide
  fits := by decide

def Sent.idle : Sent := ⟨.skipped noopType [], 0, 0, 0, by decide, by decide⟩

def Sent.answer (code : Int32) : Sent where
  content := .outcome code []
  flags := 0
  sequence := 1
  sender := 0
  wellFormed := trivial
  fits := by
    have coded : (Content.outcome code []).payload.length = 4 := by
      simp [Content.payload, hostWord32]
    rw [coded]
    decide

theorem entries_encodeAll_deleted :
    heard [.deleted, .idle, .answer 0, .answer (-2)] = [
        .tracked .delete ⟨Sent.deleted.header, ⟨inetFamily, familyVersion, 0⟩,
          some ⟨⟨10, 0, 0, 1⟩, ⟨10, 0, 0, 2⟩⟩, none, Status.assured, 0⟩,
        .outcome 0, .outcome 2] ∧
      entries (encodeAll [.deleted, .idle, .answer 0, .answer (-2)] ++ [255]) =
        .ok (heard [.deleted, .idle, .answer 0, .answer (-2)]) :=
  ⟨rfl, (entries_encodeAll _).2 [255] rfl⟩

end Conntrack.Datagram
