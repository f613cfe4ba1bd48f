import Conntrack.Proofs.Bounded.Word
import Conntrack.Proofs.CursorReads

/-!
# Checked steps on a read position

A place is a position in a byte string like a cursor, but nothing keeps the
position inside the bytes: what the steps on a place rely on is checked at each
of them. At the place of a cursor (`Place.of`) none of the checks fails, and the
steps are those of the cursor, whatever count they are given. The bytes only
have to be few enough to stand in memory.
-/

namespace Conntrack.Bounded

open Wire

structure Place where
  data : Bytes
  position : Nat
  deriving DecidableEq, Repr

namespace Place

def start (data : Bytes) : Place := ⟨data, 0⟩

def moveTo (place : Place) (position : Nat) : Place :=
  ⟨place.data, min position place.data.length⟩

def remaining (place : Place) : Run Nat := sub place.data.length place.position

def peek? (place : Place) (count : Nat) : Option Bytes := do
  let stop ← sum? place.position count
  slice? place.data place.position stop

/-- The next `count` bytes and the place behind them; the place stays if they are not there. -/
def take? (place : Place) (count : Nat) : Run (Option Bytes × Place) :=
  match place.peek? count with
  | none => .ok (none, place)
  | some bytes => do
    let position ← add place.position count
    .ok (some bytes, ⟨place.data, position⟩)

def window (place : Place) (count : Nat) : Run Place := do
  let stop := min (saturatingSum place.position count) place.data.length
  let bytes ← slice place.data place.position stop
  .ok (start bytes)

/-- The place where a cursor stands. -/
def of (cursor : Cursor) : Place := ⟨cursor.data, cursor.position⟩

/-- The outcome of a read at a cursor: a refused one leaves the place. -/
def ofRead {α : Type} (cursor : Cursor) : Option (α × Cursor) → Option α × Place
  | none => (none, of cursor)
  | some (value, behind) => (some value, of behind)

/-- The outcome of a scan. -/
def ofScan {α : Type} (outcome : α × Cursor) : α × Place := (outcome.1, of outcome.2)

@[simp] theorem position_of (cursor : Cursor) : (of cursor).position = cursor.position := rfl

theorem moveTo_of (cursor : Cursor) (position : Nat) :
    (of cursor).moveTo position = of (cursor.moveTo position) := rfl

theorem remaining_of (cursor : Cursor) : (of cursor).remaining = .ok cursor.remaining :=
  sub_of_le cursor.position_le

/-- A position behind the end is not kept from happening, but found out. -/
example : (Place.mk [7] 2).remaining = .error .belowZero := rfl

variable {cursor : Cursor}

/-- A position in the bytes is at most half of what a word can count. -/
theorem add_position (short : cursor.data.length ≤ longest) {count : Nat}
    (small : count ≤ longest) : add cursor.position count = .ok (cursor.position + count) := by
  have bound := cursor.position_le
  apply add_of_lt
  unfold longest at short small
  unfold wordSize UInt64.size at *
  omega

theorem peek?_of (short : cursor.data.length ≤ longest) (count : Nat) :
    (of cursor).peek? count = cursor.peek? count := by
  have bound := cursor.position_le
  by_cases inside : cursor.position + count < wordSize
  · rw [peek?, sum?, of, if_pos inside]
    exact slice?_eq_take? (.inl bound)
  · have refused : Wire.take? count cursor.rest = none := by
      rw [take?_eq_none, cursor.length_rest, Cursor.remaining]
      unfold longest at short
      unfold wordSize UInt64.size at short inside
      omega
    rw [peek?, sum?, of, if_neg inside, Cursor.peek?, refused]
    rfl

theorem take?_of (short : cursor.data.length ≤ longest) (count : Nat) :
    (of cursor).take? count = .ok (ofRead cursor (cursor.take? count)) := by
  rw [take?, peek?_of short, Cursor.peek?, Cursor.take?]
  cases taken : Wire.take? count cursor.rest with
  | none =>
    rw [Cursor.read?_of_none taken]
    rfl
  | some outcome =>
    obtain ⟨front, rest⟩ := outcome
    obtain ⟨split, width⟩ := take?_eq_some taken
    have bound := cursor.position_le
    have left : cursor.rest.length = cursor.data.length - cursor.position := cursor.length_rest
    have lengths := length_of_take? taken
    have moved := cursor.position_stopAt split
    have small : count ≤ longest := by omega
    dsimp only [position_of, Option.map_some]
    rw [add_position short small, ok_bind, Cursor.read?_of_some taken, ofRead, of, of, moved, width]
    rfl

theorem window_of (cursor : Cursor) (short : cursor.data.length ≤ longest) (count : Nat) :
    (of cursor).window count = .ok (of (cursor.window count)) := by
  have bound := cursor.position_le
  have left : cursor.rest.length = cursor.data.length - cursor.position := cursor.length_rest
  -- the sum is cut off far behind the end of the bytes, and so is the window
  let stop := min (saturatingSum cursor.position count) cursor.data.length
  have above : cursor.position ≤ stop := by
    unfold longest at short
    simp only [stop, saturatingSum]
    unfold wordSize UInt64.size at *
    omega
  have width : stop - cursor.position = min count cursor.rest.length := by
    unfold longest at short
    simp only [stop, saturatingSum]
    unfold wordSize UInt64.size at *
    omega
  have sliced := slice_of_le above (Nat.min_le_right _ cursor.data.length)
  rw [width] at sliced
  change (slice cursor.data cursor.position stop >>= _) = _
  rw [sliced, ok_bind]
  change Except.ok (start (cursor.rest.take _)) = _
  rw [List.take_eq_take_min.symm]
  rfl

end Place

end Conntrack.Bounded
