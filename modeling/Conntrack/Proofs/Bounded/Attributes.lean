import Conntrack.Proofs.Bounded.Place
import Conntrack.Connection.Record

/-!
# Reading and finding attributes with checked steps

An attribute is read from a place, and found by stepping from attribute to
attribute; the rounds of the search are counted, and it is a fault to need more
of them than it was given. Every round passes a whole header at least, so a
quarter of the remaining bytes and one round more always suffice
(`find_of`). The widths come from the bytes and may be any number of sixteen
bits.
-/

namespace Conntrack.Bounded

open Wire Connection

/-- The declared length and the type in front of a place. -/
def attrHeader (place : Place) : Run (Option (Nat × UInt16)) :=
  match place.peek? Attr.headerLength with
  | none => .ok none
  | some raw => do
    let length := UInt16.ofNat (ofLittleEndian (← bytesAt raw 0 2))
    let type := UInt16.ofNat (ofLittleEndian (← bytesAt raw 2 2))
    .ok (if length.toNat < Attr.headerLength then none else some (length.toNat, type))

def read (place : Place) : Run (Option Attr × Place) := do
  match ← attrHeader place with
  | none => .ok (none, place)
  | some (length, type) =>
    match (place.peek? length).bind (from? · Attr.headerLength) with
    | none => .ok (none, place)
    | some payload => do
      let span ← align length
      let behind ← add place.position span
      .ok (some ⟨type, payload⟩, place.moveTo behind)

/-- The first attribute of a raw type, in no more than the given rounds. -/
def find (type : UInt16) : (rounds : Nat) → Place → Run (Option Attr × Place)
  | 0, _ => .error .endless
  | rounds + 1, place => do
    let remaining ← place.remaining
    if remaining = 0 then .ok (none, place)
    else match ← attrHeader place with
      | none => .ok (none, place)
      | some (length, found) =>
        if found = type then read place
        else do
          let span ← align length
          let remaining ← place.remaining
          if remaining < span then .ok (none, place)
          else do
            let behind ← add place.position span
            find type rounds (place.moveTo behind)

/-- The first attribute of a field from a place on, which stays where it is. -/
def findFrom (field : Field) (rounds : Nat) (base : Place) : Run (Option Attr) := do
  let (found, _) ← find field.wireType rounds base
  .ok found

theorem attrHeader_of {cursor : Cursor} (short : cursor.data.length ≤ longest) :
    attrHeader (.of cursor) = .ok (Attr.header? cursor.rest) := by
  rw [attrHeader, Place.peek?_of short, Cursor.peek?]
  rcases cursor.rest with _ | ⟨first, _ | ⟨second, _ | ⟨third, _ | ⟨fourth, rest⟩⟩⟩⟩ <;> rfl

theorem align_attr {bytes : Bytes} {length : Nat} {type : UInt16}
    (header : Attr.header? bytes = some (length, type)) :
    align length = .ok (roundUp4 length) ∧ roundUp4 length ≤ longest := by
  apply align_of_declared
  exact Nat.lt_trans (Attr.header?_length_lt header) (by decide)

theorem read_of {cursor : Cursor} (short : cursor.data.length ≤ longest) :
    read (.of cursor) = .ok (Place.ofRead cursor (cursor.read? Attr.read?)) := by
  rw [read, attrHeader_of short, ok_bind]
  cases header : Attr.header? cursor.rest with
  | none =>
    rw [Cursor.read?_of_none (Attr.read?_of_header?_none header)]
    rfl
  | some declared =>
    obtain ⟨length, type⟩ := declared
    obtain ⟨aligned, small⟩ := align_attr header
    have covers := (Attr.length_of_header? header).1
    have whole := Attr.read?_of_header? header
    by_cases present : length ≤ cursor.rest.length
    · rw [if_pos present] at whole
      have peeked : cursor.peek? length = some (cursor.rest.take length) := by
        rw [Cursor.peek?, take?_of_le present]
        rfl
      have value : from? (cursor.rest.take length) Attr.headerLength =
          some ((cursor.rest.take length).drop Attr.headerLength) := by
        rw [from?, List.length_take, Nat.min_eq_left present, if_pos covers]
      simp only [Place.peek?_of short, peeked, Option.bind_some, value, aligned, ok_bind,
        Place.position_of, Place.add_position short small]
      rw [Cursor.read?_of_some whole, Cursor.stopAt_drop]
      rfl
    · rw [if_neg present] at whole
      have refused : cursor.peek? length = none := by
        rw [Cursor.peek?, take?_eq_none.mpr (Nat.not_le.mp present)]
        rfl
      simp only [Place.peek?_of short, refused, Option.bind_none]
      rw [Cursor.read?_of_none whole]
      rfl

/-- One round of the search, at the place of a cursor. -/
theorem find_succ {cursor : Cursor} (type : UInt16) (rounds : Nat)
    (short : cursor.data.length ≤ longest) :
    find type (rounds + 1) (.of cursor) = match Attr.header? cursor.rest with
      | none => .ok (none, .of cursor)
      | some (length, found) =>
        if found = type then read (.of cursor)
        else if cursor.rest.length < roundUp4 length then .ok (none, .of cursor)
        else find type rounds (.of (cursor.stopAt (cursor.rest.drop (roundUp4 length)))) := by
  rw [find, Place.remaining_of, ok_bind, attrHeader_of short, ok_bind, cursor.length_rest]
  cases header : Attr.header? cursor.rest with
  | none => split <;> rfl
  | some declared =>
    obtain ⟨length, found⟩ := declared
    obtain ⟨aligned, small⟩ := align_attr header
    have present := (Attr.length_of_header? header).2
    have more : cursor.remaining ≠ 0 := by
      rw [cursor.length_rest, Attr.headerLength] at present
      omega
    simp only [if_neg more, aligned, ok_bind, Place.position_of, Place.add_position short small,
      Place.moveTo_of, cursor.stopAt_drop]

/-- The search runs through, and finds what the scan finds. -/
theorem find_of {cursor : Cursor} (type : UInt16) {rounds : Nat}
    (short : cursor.data.length ≤ longest) (enough : cursor.remaining < 4 * rounds) :
    find type rounds (.of cursor) = .ok (Place.ofScan (cursor.scan (Attr.find? type))) := by
  -- the bytes that remain bound the rounds that can still be needed
  induction rounds generalizing cursor with
  | zero => omega
  | succ rounds ih =>
    rw [find_succ type rounds short, Cursor.scan]
    cases header : Attr.header? cursor.rest with
    | none =>
      rw [Attr.find?_of_header?_none type header]
      simp only [Cursor.stopAt_rest]
      rfl
    | some declared =>
      obtain ⟨length, found⟩ := declared
      rw [Attr.find?_of_header? header]
      dsimp only
      by_cases matched : found = type
      · rw [if_pos matched, if_pos matched, read_of short, Cursor.read?]
        cases Attr.read? cursor.rest with
        | none =>
          simp only [Cursor.stopAt_rest]
          rfl
        | some outcome => rfl
      · rw [if_neg matched, if_neg matched]
        by_cases cut : cursor.rest.length < roundUp4 length
        · rw [if_pos cut, if_pos cut]
          simp only [Cursor.stopAt_rest]
          rfl
        · rw [if_neg cut, if_neg cut]
          have covers := (Attr.length_of_header? header).1
          have above := le_roundUp4 length
          unfold Attr.headerLength at covers
          let behind := cursor.stopAt (cursor.rest.drop (roundUp4 length))
          have shorter : behind.data.length ≤ longest := short
          have fewer : behind.remaining < 4 * rounds := by
            rw [cursor.length_rest] at cut
            rw [cursor.remaining_stopAt_drop]
            omega
          rw [ih shorter fewer, Cursor.scan, cursor.rest_stopAt_drop]
          rfl

/-- The search for a field runs through, and finds the field. -/
theorem findFrom_of {cursor : Cursor} (field : Field) {rounds : Nat}
    (short : cursor.data.length ≤ longest) (enough : cursor.remaining < 4 * rounds) :
    findFrom field rounds (.of cursor) = .ok (field.find? cursor.rest) := by
  rw [findFrom, find_of field.wireType short enough]
  rfl

end Conntrack.Bounded
