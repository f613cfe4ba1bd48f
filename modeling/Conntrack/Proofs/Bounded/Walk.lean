import Conntrack.Proofs.Bounded.Records
import Conntrack.Proofs.WalkPositions

/-!
# Walking a datagram with checked steps

The walk counts its messages like the search its attributes, and keeps the
entries so far. On bytes that stand in memory no step of it fails, whatever the
bytes are (`walk_of`); with the steps on attributes and records it makes up the
main result (`runs_without_fault`): no sum or alignment leaves the word, no
difference goes below zero, no index or range is out of bounds and no loop goes
on for ever, and the outcome is that of the same steps on unbounded numbers.
-/

namespace Conntrack.Bounded

open Wire Message Connection

def messageHeader (place : Place) : Run (Option Header × Place) := do
  match ← place.take? Header.size with
  | (none, place) => .ok (none, place)
  | (some raw, behind) => do
    let length := UInt32.ofNat (ofLittleEndian (← bytesAt raw 0 4))
    let type := UInt16.ofNat (ofLittleEndian (← bytesAt raw 4 2))
    let flags := UInt16.ofNat (ofLittleEndian (← bytesAt raw 6 2))
    let sequence := UInt32.ofNat (ofLittleEndian (← bytesAt raw 8 4))
    let sender := UInt32.ofNat (ofLittleEndian (← bytesAt raw 12 4))
    .ok (some ⟨length, type, flags, sequence, sender⟩, behind)

/-- The bad length of a message at an offset, if it is bad. -/
def lengthFault (header : Header) (offset size : Nat) : Run (Option Datagram.Fault) :=
  let length := header.length.toNat
  if length < Header.size then .ok (some (.lengthBelowHeader length))
  else do
    let stop ← add offset length
    .ok (if size < stop then some (.lengthBeyondEnd length offset size) else none)

def outcomeCode (message : Bytes) : Run (Except Datagram.Fault Int32) :=
  match slice? message Header.size (Header.size + 4) with
  | none => .ok (.error (.codeMissing message.length))
  | some raw => do
    let code := UInt32.ofNat (ofLittleEndian (← bytesAt raw 0 4))
    .ok (.ok (-code.toInt32))

/-- What the message at an offset does to the walk; `behind` is the place behind its header. -/
def step (rounds : Nat) (header : Header) (offset : Nat) (behind : Place) :
    Run (Except Datagram.Fault Datagram.Step) :=
  match header.purpose with
  | .done => .ok (.ok (.last .done))
  | .error => do
    let stop ← add offset header.length.toNat
    let message ← slice behind.data offset stop
    match ← outcomeCode message with
    | .error fault => .ok (.error fault)
    | .ok code => .ok (.ok (if code = 0 then .entry (.outcome code) else .last (.outcome code)))
  | .conntrack operation => do
    match ← decode rounds header behind with
    | (none, _) => .ok (.ok .skip)
    | (some record, _) => .ok (.ok (.entry (.tracked (Event.ofOperation operation) record)))
  | .noop | .overrun | .foreign => .ok (.ok .skip)

/-- The entries `before` and those of the messages from a place on, which are
fewer than the given number. -/
def walk (rounds : Nat) : (messages : Nat) → List Datagram.Entry → Place →
    Run (Except Datagram.Fault (List Datagram.Entry))
  | 0, _, _ => .error .endless
  | messages + 1, before, place => do
    match ← messageHeader place with
    | (none, _) => .ok (.ok before)
    | (some header, behind) => do
      let offset ← sub behind.position Header.size
      match ← lengthFault header offset behind.data.length with
      | some fault => .ok (.error fault)
      | none =>
        match ← step rounds header offset behind with
        | .error fault => .ok (.error fault)
        | .ok outcome =>
          if outcome.goesOn then do
            let span ← align header.length.toNat
            let next ← add offset span
            walk rounds messages (before ++ outcome.entries) (behind.moveTo next)
          else .ok (.ok (before ++ outcome.entries))

theorem messageHeader_of {cursor : Cursor} (short : cursor.data.length ≤ longest) :
    messageHeader (.of cursor) = .ok (Place.ofRead cursor (cursor.read? Header.read?)) := by
  rw [messageHeader, Place.take?_of short, ok_bind, Cursor.take?]
  by_cases present : Header.size ≤ cursor.rest.length
  · have word := fun (first count : Nat) (inside : first + count ≤ Header.size) =>
      bytesAt_take inside present
    rw [Cursor.read?_of_some (take?_of_le present),
      Cursor.read?_of_some (Header.read?_of_le present)]
    simp only [Place.ofRead, word 0 4 (by decide), word 4 2 (by decide), word 6 2 (by decide),
      word 8 4 (by decide), word 12 4 (by decide), ok_bind, List.drop_zero]
  · have missing := Nat.not_le.mp present
    rw [Cursor.read?_of_none (take?_eq_none.mpr missing),
      Cursor.read?_of_none (Header.read?_of_short missing)]
    rfl

theorem lengthFault_of (header : Header) {offset : Nat} (size : Nat) (within : offset ≤ longest) :
    lengthFault header offset size = .ok (Datagram.lengthFault? header offset size) := by
  have wide := header.length.toNat_lt
  have fits : offset + header.length.toNat < wordSize := by
    unfold longest at within
    unfold wordSize UInt64.size at *
    omega
  simp only [lengthFault, Datagram.lengthFault?, add_of_lt fits, ok_bind]
  split <;> rfl

theorem outcomeCode_of (message : Bytes) :
    outcomeCode message = .ok (Datagram.outcomeCode message) := by
  rw [outcomeCode, slice?_eq_take? (.inr (by decide)), Datagram.outcomeCode]
  rcases message.drop Header.size with
    _ | ⟨first, _ | ⟨second, _ | ⟨third, _ | ⟨fourth, rest⟩⟩⟩⟩ <;> rfl

section

variable {cursor : Cursor} {rounds : Nat}

theorem step_of {header : Header} (short : cursor.data.length ≤ longest)
    (enough : cursor.remaining < 4 * rounds)
    (good : Datagram.lengthFault? header cursor.position cursor.data.length = none) :
    step rounds header cursor.position (.of (cursor.stopAt (cursor.rest.drop Header.size))) =
      .ok (Datagram.step header cursor.rest) := by
  let behind := cursor.stopAt (cursor.rest.drop Header.size)
  have shorter : behind.data.length ≤ longest := short
  have fewer : behind.remaining < 4 * rounds := by
    rw [cursor.remaining_stopAt_drop]
    omega
  obtain ⟨-, fits⟩ := Datagram.lengthFault?_eq_none.mp good
  rw [step, Datagram.step]
  cases header.purpose with
  | done => rfl
  | noop => rfl
  | overrun => rfl
  | foreign => rfl
  | error =>
    have inside : cursor.position + header.length.toNat < wordSize := by
      unfold longest at short
      unfold wordSize UInt64.size at *
      omega
    have message : slice cursor.data cursor.position (cursor.position + header.length.toNat) =
        .ok (cursor.rest.take header.length.toNat) := by
      rw [slice_of_le (Nat.le_add_right _ _) fits, Nat.add_sub_cancel_left]
      rfl
    dsimp only
    rw [add_of_lt inside, ok_bind]
    change (slice cursor.data _ _ >>= _) = _
    rw [message, ok_bind, outcomeCode_of, ok_bind]
    cases Datagram.outcomeCode (cursor.rest.take header.length.toNat) <;> rfl
  | conntrack operation =>
    dsimp only
    rw [decode_of header shorter fewer, ok_bind, Cursor.scan, cursor.rest_stopAt_drop]
    cases decoded : Record.decode? header (cursor.rest.drop Header.size) with
    | mk found rest => cases found <;> rfl

/-- The offset of what stands behind a message; it does not matter at the end of the bytes. -/
theorem walk_stopAt (cursor : Cursor) (span : Nat) :
    Datagram.walk cursor.data.length (cursor.stopAt (cursor.rest.drop span)).position
        (cursor.rest.drop span) =
      Datagram.walk cursor.data.length (cursor.position + span) (cursor.rest.drop span) := by
  -- the cursor is kept inside the bytes, the offset of the walk is not
  rw [cursor.stopAt_drop]
  by_cases inside : cursor.position + span ≤ cursor.data.length
  · have moved : (cursor.moveTo (cursor.position + span)).position = cursor.position + span :=
      Nat.min_eq_left inside
    rw [moved]
  · have nothing : cursor.rest.drop span = [] := by
      apply List.drop_of_length_le
      rw [cursor.length_rest, Cursor.remaining]
      omega
    rw [nothing, Datagram.walk_nil, Datagram.walk_nil]

/-- The header that was read stands where the walk takes the message to start. -/
theorem offset_of_read {header : Header} {rest : Bytes}
    (read : Header.read? cursor.rest = some (header, rest)) :
    rest = cursor.rest.drop Header.size ∧
      sub (cursor.stopAt rest).position Header.size = .ok cursor.position := by
  have split := Header.encode_of_read? read
  constructor
  · rw [split, ← header.length_encode, List.drop_left]
  · rw [cursor.position_stopAt split, header.length_encode, sub_of_le (Nat.le_add_left _ _),
      Nat.add_sub_cancel]

/-- A message takes a header's length of the remaining bytes at least. -/
theorem remaining_behind {header : Header} {rest : Bytes} {offset size : Nat}
    (read : Header.read? cursor.rest = some (header, rest))
    (good : Datagram.lengthFault? header offset size = none) :
    (cursor.stopAt (cursor.rest.drop (Datagram.span header))).remaining + Header.size ≤
      cursor.remaining := by
  have long := Datagram.size_le_of_lengthFault? good
  have above := le_roundUp4 header.length.toNat
  have whole := congrArg List.length (Header.encode_of_read? read)
  rw [cursor.length_rest, List.length_append, header.length_encode] at whole
  rw [cursor.remaining_stopAt_drop, Datagram.span]
  omega

/-- One message of the walk, at the place of a cursor. -/
theorem walk_succ {before : List Datagram.Entry} (messages : Nat)
    (short : cursor.data.length ≤ longest) (enough : cursor.remaining < 4 * rounds) :
    walk rounds (messages + 1) before (.of cursor) = match Header.read? cursor.rest with
      | none => .ok (.ok before)
      | some (header, _) =>
        match Datagram.lengthFault? header cursor.position cursor.data.length with
        | some fault => .ok (.error fault)
        | none =>
          match Datagram.step header cursor.rest with
          | .error fault => .ok (.error fault)
          | .ok outcome =>
            if outcome.goesOn then walk rounds messages (before ++ outcome.entries)
              (.of (cursor.stopAt (cursor.rest.drop (Datagram.span header))))
            else .ok (.ok (before ++ outcome.entries)) := by
  rw [walk, messageHeader_of short, ok_bind, Cursor.read?]
  cases read : Header.read? cursor.rest with
  | none => rfl
  | some outcome =>
    obtain ⟨header, rest⟩ := outcome
    obtain ⟨left, offset⟩ := offset_of_read read
    have within : cursor.position ≤ longest := Nat.le_trans cursor.position_le short
    have length : lengthFault header cursor.position (Place.of (cursor.stopAt rest)).data.length =
        .ok (Datagram.lengthFault? header cursor.position cursor.data.length) :=
      lengthFault_of header _ within
    dsimp only [Option.map_some, Place.ofRead, Place.position_of]
    rw [offset, ok_bind, length, ok_bind]
    cases good : Datagram.lengthFault? header cursor.position cursor.data.length with
    | some fault => rfl
    | none =>
      dsimp only
      rw [left, step_of short enough good, ok_bind]
      cases Datagram.step header cursor.rest with
      | error fault => rfl
      | ok outcome =>
        dsimp only
        by_cases goesOn : outcome.goesOn
        · obtain ⟨aligned, small⟩ := align_of_declared header.length.toNat_lt
          rw [if_pos goesOn, if_pos goesOn, aligned, ok_bind, Place.add_position short small,
            ok_bind, Place.moveTo_of, cursor.stopAt_drop (Datagram.span header)]
          rfl
        · rw [if_neg goesOn, if_neg goesOn]

/-- The walk runs through, and leaves what it leaves on unbounded numbers. -/
theorem walk_of {messages : Nat} (before : List Datagram.Entry)
    (short : cursor.data.length ≤ longest) (enough : cursor.remaining < 4 * rounds)
    (met : cursor.remaining < 4 * messages) :
    walk rounds messages before (.of cursor) = .ok
      ((Datagram.walk cursor.data.length cursor.position cursor.rest).map (before ++ ·)) := by
  -- the bytes that remain bound the messages that can still be met
  induction messages generalizing cursor before with
  | zero => omega
  | succ messages ih =>
    rw [walk_succ messages short enough]
    cases read : Header.read? cursor.rest with
    | none =>
      rw [Datagram.walk_of_refused read]
      simp [Except.map]
    | some outcome =>
      obtain ⟨header, rest⟩ := outcome
      have front : cursor.rest.take Header.size = header.encode := by
        rw [Header.encode_of_read? read, ← header.length_encode, List.take_left]
      rw [Datagram.walk_of_front front]
      dsimp only
      cases good : Datagram.lengthFault? header cursor.position cursor.data.length with
      | some fault => rfl
      | none =>
        cases Datagram.step header cursor.rest with
        | error fault => rfl
        | ok outcome =>
          dsimp only
          by_cases goesOn : outcome.goesOn
          · let behind := cursor.stopAt (cursor.rest.drop (Datagram.span header))
            have passed : behind.remaining + Header.size ≤ cursor.remaining :=
              remaining_behind read good
            unfold Header.size at passed
            have shorter : behind.data.length ≤ longest := short
            have fewer : behind.remaining < 4 * rounds := by omega
            have last : behind.remaining < 4 * messages := by omega
            rw [if_pos goesOn, if_pos goesOn, ih (before ++ outcome.entries) shorter fewer last,
              Datagram.map_append_map, cursor.rest_stopAt_drop]
            change Except.ok ((Datagram.walk cursor.data.length behind.position _).map _) = _
            rw [walk_stopAt]
          · rw [if_neg goesOn, if_neg goesOn]
            rfl

/-- Reading, finding and decoding at any cursor and walking the whole datagram
run through without a fault, and give what they give on unbounded numbers: for
all bytes that stand in memory, every raw type and every message header,
whatever length it declares. Every loop ends within a quarter of the bytes and
one round more. -/
theorem runs_without_fault (cursor : Cursor) (header : Header) (type : UInt16) {rounds : Nat}
    (short : cursor.data.length ≤ longest) (enough : cursor.data.length < 4 * rounds) :
    read (.of cursor) = .ok (Place.ofRead cursor (cursor.read? Attr.read?)) ∧
    find type rounds (.of cursor) = .ok (Place.ofScan (cursor.scan (Attr.find? type))) ∧
    addressPair rounds (.of cursor) = .ok (AddressPair.ofAddresses? cursor.rest) ∧
    tuple rounds (.of cursor) = .ok (AddressPair.ofTuple? cursor.rest) ∧
    decode rounds header (.of cursor) =
      .ok (Place.ofScan (cursor.scan (Record.decode? header))) ∧
    walk rounds rounds [] (.start cursor.data) = .ok (Datagram.entries cursor.data) := by
  have remains : cursor.remaining < 4 * rounds := Nat.lt_of_le_of_lt (Nat.sub_le _ _) enough
  refine ⟨read_of short, find_of type short remains, addressPair_of short remains,
    tuple_of short remains, decode_of header short remains, ?_⟩
  have front : (Cursor.start cursor.data).remaining < 4 * rounds := enough
  have walked := walk_of [] (show (Cursor.start cursor.data).data.length ≤ longest from short)
    front front
  rwa [Datagram.map_nil_append] at walked

end

/-! A message whose only attribute declares far more bytes than there are, and a
header that declares as many as it can. -/

def ragged : Cursor :=
  (Cursor.start (Header.encode ⟨28, conntrackType 0, 0, 0, 0⟩ ++
    FamilyHeader.encode ⟨inetFamily, familyVersion, 0⟩ ++
    [255, 255, 7, 0, 0, 0, 0, 120] ++ [9, 9, 9])).moveTo 20

def boundless : Header := ⟨0xFFFFFFFF, conntrackType 0, 0, 0, 0⟩

def raggedRecord : Record :=
  ⟨⟨28, conntrackType 0, 0, 0, 0⟩, ⟨inetFamily, familyVersion, 0⟩, none, none, 0, 0⟩

theorem entries_ragged :
    Datagram.entries ragged.data = .ok [.tracked (Event.ofOperation 0) raggedRecord] := by
  cbv

theorem find_ragged : ragged.scan (Attr.find? 7) = (none, ragged) := by
  cbv

theorem runs_without_fault_ragged :
    ragged.data.length ≤ longest ∧ ragged.data.length < 4 * 8 ∧
    find 7 8 (.of ragged) = .ok (none, .of ragged) ∧
    decode 8 boundless (.of ragged) = .ok (none, .of (ragged.moveTo 24)) ∧
    walk 8 8 [] (.start ragged.data) =
      .ok (.ok [.tracked (Event.ofOperation 0) raggedRecord]) := by
  have short : ragged.data.length ≤ longest := by decide
  have enough : ragged.data.length < 4 * 8 := by decide
  obtain ⟨-, found, -, -, decoded, walked⟩ := runs_without_fault ragged boundless 7 short enough
  rw [find_ragged] at found
  rw [entries_ragged] at walked
  exact ⟨short, enough, found, decoded, walked⟩

end Conntrack.Bounded
