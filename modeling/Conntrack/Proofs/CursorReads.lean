import Conntrack.Proofs.AttrScan
import Conntrack.Wire.Cursor

/-!
# Reading attribute after attribute

A reader at a cursor takes what it takes off the remaining bytes, and the cursor
moves by as many bytes as were taken (`Cursor.position_stopAt`). Attributes read
one after the other until a read is refused (`Cursor.Lists`) are the list of the
bytes that remained at the start (`Cursor.exists_lists`).
-/

namespace Conntrack.Wire

theorem take?_of_le {count : Nat} {bytes : Bytes} (present : count ≤ bytes.length) :
    take? count bytes = some (bytes.take count, bytes.drop count) := by
  simp [take?, present]

/-- An attribute and its padding are taken off the front. -/
theorem Attr.append_of_read? {bytes rest : Bytes} {attr : Attr}
    (read : Attr.read? bytes = some (attr, rest)) : ∃ taken, bytes = taken ++ rest := by
  have header := Attr.length_of_read? read
  rw [Attr.read?_of_header? header] at read
  split at read
  · simp only [Option.some.injEq, Prod.mk.injEq] at read
    obtain ⟨-, rfl⟩ := read
    exact ⟨_, (List.take_append_drop _ bytes).symm⟩
  · cases read

namespace Cursor

variable {α : Type} {reader : Reader α} {cursor : Cursor}

@[simp] theorem rest_start (data : Bytes) : (start data).rest = data := rfl

theorem read?_of_some {value : α} {rest : Bytes}
    (read : reader cursor.rest = some (value, rest)) :
    cursor.read? reader = some (value, cursor.stopAt rest) := by
  simp [Cursor.read?, read]

theorem read?_of_none (refused : reader cursor.rest = none) : cursor.read? reader = none := by
  simp [Cursor.read?, refused]

/-- Where a reader stops that drops `count` bytes, or all if they are fewer. -/
theorem stopAt_drop (cursor : Cursor) (count : Nat) :
    cursor.stopAt (cursor.rest.drop count) = cursor.moveTo (cursor.position + count) := by
  have bound := cursor.position_le
  have left : (cursor.rest.drop count).length = cursor.remaining - count := by
    rw [List.length_drop, length_rest]
  simp only [stopAt, moveTo, left, remaining, mk.injEq, true_and]
  omega

theorem stopAt_rest (cursor : Cursor) : cursor.stopAt cursor.rest = cursor := by
  have here := cursor.stopAt_drop 0
  rw [List.drop_zero, Nat.add_zero] at here
  rw [here, moveTo]
  congr 1
  exact Nat.min_eq_left cursor.position_le

theorem rest_stopAt_drop (cursor : Cursor) (count : Nat) :
    (cursor.stopAt (cursor.rest.drop count)).rest = cursor.rest.drop count :=
  cursor.rest_stopAt (List.take_append_drop count cursor.rest).symm

theorem remaining_stopAt_drop (cursor : Cursor) (count : Nat) :
    (cursor.stopAt (cursor.rest.drop count)).remaining = cursor.remaining - count := by
  rw [← length_rest, rest_stopAt_drop, List.length_drop, length_rest]

theorem length_window_le (cursor : Cursor) (count : Nat) :
    (cursor.window count).data.length ≤ cursor.remaining := by
  rw [← length_rest]
  exact List.length_take_le' count cursor.rest

theorem remaining_window_le (cursor : Cursor) (count : Nat) :
    (cursor.window count).remaining ≤ cursor.remaining :=
  Nat.le_trans (Nat.sub_le _ _) (cursor.length_window_le count)

/-- A cursor moves by exactly the bytes that were taken. -/
theorem position_stopAt (cursor : Cursor) {taken rest : Bytes}
    (split : cursor.rest = taken ++ rest) :
    (cursor.stopAt rest).position = cursor.position + taken.length := by
  have bound := cursor.position_le
  have lengths := congrArg List.length split
  rw [length_rest, remaining, List.length_append] at lengths
  change min (cursor.data.length - rest.length) cursor.data.length = _
  omega

/-- Reading at `cursor` gives `attrs` one after the other, and the next read, at
`last`, is refused. -/
inductive Lists : Cursor → List Attr → Cursor → Prop
  | stop {cursor : Cursor} (refused : cursor.read? Attr.read? = none) : Lists cursor [] cursor
  | next {cursor behind last : Cursor} {attr : Attr} {attrs : List Attr}
      (read : cursor.read? Attr.read? = some (attr, behind)) (more : Lists behind attrs last) :
      Lists cursor (attr :: attrs) last

/-- Reading ends at every cursor, and gives the list of what remains there. -/
theorem exists_lists (cursor : Cursor) : ∃ last, Lists cursor (Attr.list cursor.rest) last := by
  cases found : Attr.read? cursor.rest with
  | none =>
    rw [Attr.list_of_read?_none found]
    exact ⟨cursor, .stop (read?_of_none found)⟩
  | some outcome =>
    obtain ⟨attr, rest⟩ := outcome
    obtain ⟨taken, split⟩ := Attr.append_of_read? found
    have left := rest_stopAt cursor split
    have shorter := Attr.read?_shrinks found
    obtain ⟨last, more⟩ := exists_lists (cursor.stopAt rest)
    rw [left] at more
    rw [Attr.list_of_read?_some found]
    exact ⟨last, .next (read?_of_some found) more⟩
termination_by cursor.rest.length
decreasing_by rwa [left]

end Cursor

end Conntrack.Wire
