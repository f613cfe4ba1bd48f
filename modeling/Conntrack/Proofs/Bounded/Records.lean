import Conntrack.Proofs.Bounded.Attributes

/-!
# Decoding a record with checked steps

The header of a message may declare any length of 32 bits, whatever stands
behind it; the bytes decide only whether the declared body is there. Decoding
checks that before it looks for anything, then searches the body and the values
found in it. None of its steps fails, and it decodes the record that
`Record.decode?` decodes (`decode_of`).
-/

namespace Conntrack.Bounded

open Wire Message Connection

def familyHeader (place : Place) : Run (Option FamilyHeader × Place) := do
  match ← place.take? FamilyHeader.size with
  | (none, place) => .ok (none, place)
  | (some raw, behind) => do
    let family ← byteAt raw 0
    let version ← byteAt raw 1
    let resource := UInt16.ofNat (ofBigEndian (← bytesAt raw 2 2))
    .ok (some ⟨family, version, resource⟩, behind)

/-- What a step says about the value of a field, if the field is there. -/
def inside {α : Type} (field : Field) (rounds : Nat) (base : Place)
    (step : Place → Run (Option α)) : Run (Option α) := do
  match ← findFrom field rounds base with
  | none => .ok none
  | some found => step (.start found.payload)

def addressPair (rounds : Nat) (base : Place) : Run (Option AddressPair) := do
  match (← findFrom .sourceAddress rounds base).bind addressOf? with
  | none => .ok none
  | some source =>
    match (← findFrom .destinationAddress rounds base).bind addressOf? with
    | none => .ok none
    | some destination => .ok (some ⟨source, destination⟩)

def tuple (rounds : Nat) (base : Place) : Run (Option AddressPair) :=
  inside .addresses rounds base (addressPair rounds)

def word32 (field : Field) (rounds : Nat) (base : Place) : Run UInt32 := do
  let found ← findFrom field rounds base
  .ok ((found.bind Attr.word32Value?).getD 0)

/-- The record that a body tells; each search starts at the front of it. -/
def recordIn (rounds : Nat) (header : Header) (family : FamilyHeader) (body : Place) :
    Run Record := do
  let status ← word32 .status rounds body
  let timeout ← word32 .timeout rounds body
  let forward ← inside .forwardTuple rounds body (tuple rounds)
  let reply ← inside .replyTuple rounds body (tuple rounds)
  .ok ⟨header, family, forward, reply, status, timeout⟩

/-- Decode the body behind a family header, if it is there with its padding. What
remains is asked for again where a refusal is logged. -/
def decodeBody (rounds : Nat) (header : Header) (family : FamilyHeader) (base : Place) :
    Run (Option Record × Place) := do
  let padded ← align (Record.bodyLength header)
  let remaining ← base.remaining
  if remaining < padded then do
    let _ ← base.remaining
    .ok (none, base)
  else do
    let body ← base.window (Record.bodyLength header)
    let record ← recordIn rounds header family body
    let behind ← add base.position padded
    .ok (some record, base.moveTo behind)

/-- Decode what follows a message header. -/
def decode (rounds : Nat) (header : Header) (place : Place) : Run (Option Record × Place) := do
  match ← familyHeader place with
  | (none, place) => do
    let _ ← place.remaining
    .ok (none, place)
  | (some family, base) => decodeBody rounds header family base

theorem familyHeader_of {cursor : Cursor} (short : cursor.data.length ≤ longest) :
    familyHeader (.of cursor) = .ok (Place.ofRead cursor (cursor.read? FamilyHeader.read?)) := by
  rw [familyHeader, Place.take?_of short, ok_bind, Cursor.take?, Cursor.read?, Cursor.read?]
  rcases cursor.rest with _ | ⟨first, _ | ⟨second, _ | ⟨third, _ | ⟨fourth, rest⟩⟩⟩⟩ <;> rfl

section

variable {cursor : Cursor} {rounds : Nat}

/-- The value of a field is shorter than the bytes around it, so what suffices
for those suffices for the value. -/
theorem inside_of {α : Type} (field : Field) {step : Place → Run (Option α)}
    {value : Bytes → Option α} (short : cursor.data.length ≤ longest)
    (enough : cursor.remaining < 4 * rounds)
    (runs : ∀ within : Cursor, within.data.length ≤ longest → within.remaining < 4 * rounds →
      step (.of within) = .ok (value within.rest)) :
    inside field rounds (.of cursor) step =
      .ok ((field.find? cursor.rest).bind fun found => value found.payload) := by
  rw [inside, findFrom_of field short enough, ok_bind]
  cases found : field.find? cursor.rest with
  | none => rfl
  | some attr =>
    rw [Field.find?, Attr.find?_fst] at found
    have smaller := Attr.payload_lt_of_mem_list (List.mem_of_find?_eq_some found)
    have bound := cursor.position_add_remaining
    rw [cursor.length_rest] at smaller
    apply runs (Cursor.start attr.payload)
    · change attr.payload.length ≤ longest
      omega
    · change attr.payload.length < 4 * rounds
      omega

theorem addressPair_of (short : cursor.data.length ≤ longest)
    (enough : cursor.remaining < 4 * rounds) :
    addressPair rounds (.of cursor) = .ok (AddressPair.ofAddresses? cursor.rest) := by
  have joined : AddressPair.ofAddresses? cursor.rest =
      ((Field.sourceAddress.find? cursor.rest).bind addressOf?).bind fun source =>
        ((Field.destinationAddress.find? cursor.rest).bind addressOf?).bind fun destination =>
          some ⟨source, destination⟩ := by
    simp only [AddressPair.ofAddresses?, Option.bind_eq_bind, Option.bind_assoc]
  rw [addressPair, findFrom_of .sourceAddress short enough,
    findFrom_of .destinationAddress short enough, joined]
  simp only [ok_bind]
  cases (Field.sourceAddress.find? cursor.rest).bind addressOf? with
  | none => rfl
  | some source =>
    cases (Field.destinationAddress.find? cursor.rest).bind addressOf? with
    | none => rfl
    | some destination => rfl

theorem tuple_of (short : cursor.data.length ≤ longest)
    (enough : cursor.remaining < 4 * rounds) :
    tuple rounds (.of cursor) = .ok (AddressPair.ofTuple? cursor.rest) :=
  inside_of .addresses short enough fun _ short enough => addressPair_of short enough

theorem word32_of (field : Field) (short : cursor.data.length ≤ longest)
    (enough : cursor.remaining < 4 * rounds) :
    word32 field rounds (.of cursor) = .ok (Record.word32 field cursor.rest) := by
  rw [word32, findFrom_of field short enough]
  rfl

theorem recordIn_of (header : Header) (family : FamilyHeader)
    (short : cursor.data.length ≤ longest) (enough : cursor.remaining < 4 * rounds) :
    recordIn rounds header family (.of cursor) =
      .ok (Record.ofBody header family cursor.rest) := by
  have direction := fun field : Field =>
    inside_of field short enough fun _ short enough => tuple_of short enough
  rw [recordIn, word32_of .status short enough, word32_of .timeout short enough,
    direction .forwardTuple, direction .replyTuple]
  rfl

theorem decodeBody_of (header : Header) (family : FamilyHeader)
    (short : cursor.data.length ≤ longest) (enough : cursor.remaining < 4 * rounds) :
    decodeBody rounds header family (.of cursor) =
      match take? (roundUp4 (Record.bodyLength header)) cursor.rest with
      | none => .ok (none, .of cursor)
      | some (padded, after) => .ok (some (Record.ofBody header family
          (padded.take (Record.bodyLength header))), .of (cursor.stopAt after)) := by
  have declared : Record.bodyLength header < UInt32.size :=
    Nat.lt_of_le_of_lt (Nat.sub_le _ _) header.length.toNat_lt
  obtain ⟨aligned, small⟩ := align_of_declared declared
  rw [decodeBody, aligned, ok_bind, Place.remaining_of, ok_bind, ← cursor.length_rest]
  by_cases cut : cursor.rest.length < roundUp4 (Record.bodyLength header)
  · rw [if_pos cut, take?_eq_none.mpr cut]
    rfl
  · have taken := take?_of_le (Nat.not_lt.mp cut)
    have body : (cursor.window (Record.bodyLength header)).rest =
        (cursor.rest.take (roundUp4 (Record.bodyLength header))).take
          (Record.bodyLength header) := by
      rw [List.take_take, Nat.min_eq_left (le_roundUp4 _)]
      rfl
    have bound := cursor.position_add_remaining
    have length := cursor.length_window_le (Record.bodyLength header)
    have remains := cursor.remaining_window_le (Record.bodyLength header)
    rw [if_neg cut, taken, Place.window_of cursor short, ok_bind,
      recordIn_of header family (by omega) (by omega), ok_bind, Place.position_of,
      Place.add_position short small, ok_bind, body]
    dsimp only
    rw [cursor.stopAt_drop, Place.moveTo_of]

/-- Decoding runs through, and decodes what it decodes on unbounded numbers. -/
theorem decode_of (header : Header) (short : cursor.data.length ≤ longest)
    (enough : cursor.remaining < 4 * rounds) :
    decode rounds header (.of cursor) =
      .ok (Place.ofScan (cursor.scan (Record.decode? header))) := by
  rw [decode, familyHeader_of short, ok_bind, Cursor.scan, Record.decode?]
  cases read : FamilyHeader.read? cursor.rest with
  | none =>
    rw [Cursor.read?_of_none read]
    simp only [Place.ofRead, Place.remaining_of, ok_bind, Cursor.stopAt_rest]
    rfl
  | some outcome =>
    obtain ⟨family, rest⟩ := outcome
    have split := FamilyHeader.encode_of_read? read
    have left := cursor.rest_stopAt split
    let base := cursor.stopAt rest
    have shorter : base.data.length ≤ longest := short
    have fewer : base.remaining < 4 * rounds := by
      rw [← Cursor.length_rest, left]
      have lengths := congrArg List.length split
      rw [cursor.length_rest, List.length_append] at lengths
      omega
    have decoded := decodeBody_of header family shorter fewer
    rw [left] at decoded
    rw [Cursor.read?_of_some read]
    dsimp only [Place.ofRead]
    rw [decoded]
    cases take? (roundUp4 (Record.bodyLength header)) rest <;> rfl

end

end Conntrack.Bounded
