import Conntrack.Wire.Attr

/-!
# Read positions

A cursor is a position in a byte string. The position never passes the end, so
what remains is always the length minus the position
(`Cursor.length_rest`). Readers run on what remains: one that refuses leaves
the cursor where it was.
-/

namespace Conntrack.Wire

structure Cursor where
  data : Bytes
  position : Nat
  position_le : position ≤ data.length

namespace Cursor

/-- At the front of the data. -/
def start (data : Bytes) : Cursor := ⟨data, 0, Nat.zero_le _⟩

/-- At the given position, or at the end if that is nearer. -/
def moveTo (cursor : Cursor) (position : Nat) : Cursor :=
  ⟨cursor.data, min position cursor.data.length, Nat.min_le_right _ _⟩

def remaining (cursor : Cursor) : Nat := cursor.data.length - cursor.position

/-- The bytes from the position to the end. -/
def rest (cursor : Cursor) : Bytes := cursor.data.drop cursor.position

/-- The next `count` bytes, if that many remain. -/
def peek? (cursor : Cursor) (count : Nat) : Option Bytes :=
  (Wire.take? count cursor.rest).map (·.1)

/-- Where a reader stopped that left `rest` unread. -/
def stopAt (cursor : Cursor) (rest : Bytes) : Cursor :=
  cursor.moveTo (cursor.data.length - rest.length)

/-- What a reader takes off the remaining bytes, and the cursor behind it. -/
def read? {α : Type} (reader : Reader α) (cursor : Cursor) : Option (α × Cursor) :=
  (reader cursor.rest).map fun (value, rest) => (value, cursor.stopAt rest)

/-- The outcome of a scan that always says where it stopped. -/
def scan {α : Type} (scanner : Bytes → α × Bytes) (cursor : Cursor) : α × Cursor :=
  let (value, rest) := scanner cursor.rest
  (value, cursor.stopAt rest)

def take? (cursor : Cursor) (count : Nat) : Option (Bytes × Cursor) :=
  cursor.read? (Wire.take? count)

/-- A new cursor over the next `count` bytes, or over all that remain if they are fewer. -/
def window (cursor : Cursor) (count : Nat) : Cursor := start (cursor.rest.take count)

theorem length_rest (cursor : Cursor) : cursor.rest.length = cursor.remaining := by
  simp [rest, remaining]

theorem position_add_remaining (cursor : Cursor) :
    cursor.position + cursor.remaining = cursor.data.length := by
  have bound := cursor.position_le
  unfold remaining
  omega

/-- A reader that leaves a tail of what remained moves the cursor to that tail. -/
theorem rest_stopAt (cursor : Cursor) {taken rest : Bytes}
    (split : cursor.rest = taken ++ rest) : (cursor.stopAt rest).rest = rest := by
  have whole : cursor.data = cursor.data.take cursor.position ++ taken ++ rest := by
    rw [List.append_assoc, ← split]
    exact (List.take_append_drop _ _).symm
  have front : cursor.data.length - rest.length
      = (cursor.data.take cursor.position ++ taken).length := by
    have lengths := congrArg List.length whole
    rw [List.length_append] at lengths
    omega
  have inside : cursor.data.length - rest.length ≤ cursor.data.length := Nat.sub_le _ _
  show (cursor.data.drop (min (cursor.data.length - rest.length) cursor.data.length)) = rest
  rw [Nat.min_eq_left inside, front]
  exact (congrArg (List.drop _) whole).trans List.drop_left

end Cursor

end Conntrack.Wire
