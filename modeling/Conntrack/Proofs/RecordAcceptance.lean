import Conntrack.Proofs.CursorReads
import Conntrack.Proofs.RecordWindow

/-!
# Which messages are decoded

Whether a message is decoded depends on the length that its header declares and
on the number of bytes at hand, and on nothing else: the family header has to be
there, and behind it the declared body with its padding. Where decoding stops is
settled by the same two numbers (`decode?_of_whole`, `decode?_of_cut`). So a
message that declares its own length is refused as long as one byte of it is
missing, whatever its attributes hold (`decoded_iff_present`).
-/

namespace Conntrack.Connection.Record

open Wire Message

variable {header : Header} {cursor : Cursor}

theorem scan_of_whole (present : windowLength header ≤ cursor.remaining) :
    ∃ record, cursor.scan (decode? header) =
        (some record, cursor.moveTo (cursor.position + windowLength header)) ∧
      record.header = header ∧ record.family.encode = cursor.rest.take FamilyHeader.size := by
  rw [← cursor.length_rest] at present
  obtain ⟨record, decoded, told⟩ := decode?_of_whole present
  refine ⟨record, ?_, told⟩
  rw [← cursor.stopAt_drop, Cursor.scan, decoded]

theorem scan_of_cut (missing : cursor.remaining < windowLength header) :
    cursor.scan (decode? header) =
      (none, cursor.moveTo (cursor.position + refusedAt cursor.remaining)) := by
  rw [← cursor.length_rest] at missing
  rw [← cursor.stopAt_drop, Cursor.scan, decode?_of_cut missing, cursor.length_rest]

theorem isSome_scan_iff :
    (cursor.scan (decode? header)).1.isSome ↔ windowLength header ≤ cursor.remaining := by
  constructor
  · intro decoded
    apply Nat.le_of_not_lt
    intro missing
    rw [scan_of_cut missing] at decoded
    cases decoded
  · intro present
    obtain ⟨record, decoded, -⟩ := scan_of_whole present
    rw [decoded]
    rfl

theorem position_moveTo {count : Nat} (inside : count ≤ cursor.remaining) :
    (cursor.moveTo (cursor.position + count)).position = cursor.position + count := by
  have whole := cursor.position_add_remaining
  exact Nat.min_eq_left (by omega)

theorem refusedAt_le (available : Nat) : refusedAt available ≤ available := by
  rw [refusedAt]
  split <;> omega

/-- A message that declares its own length is decoded exactly if all of it is there. -/
theorem isSome_scan_take_iff {message : Bytes} {start : Cursor}
    (read : (Cursor.start message).read? Header.read? = some (header, start))
    (own : header.length.toNat = message.length) (aligned : 4 ∣ message.length)
    (least : headersLength ≤ message.length) {count : Nat} (headed : Header.size ≤ count) :
    ∃ behind, (Cursor.start (message.take count)).read? Header.read? = some (header, behind) ∧
      ((behind.scan (decode? header)).1.isSome ↔ message.length ≤ count) := by
  obtain ⟨⟨found, rest⟩, readable, same⟩ := Option.map_eq_some_iff.mp read
  obtain rfl : found = header := congrArg Prod.fst same
  obtain rfl : message = found.encode ++ rest := Header.encode_of_read? readable
  have cut : (found.encode ++ rest).take count =
      found.encode ++ rest.take (count - Header.size) := by
    have front : found.encode.take count = found.encode :=
      List.take_of_length_le (found.length_encode ▸ headed)
    rw [List.take_append, front, found.length_encode]
  have here : (Cursor.start ((found.encode ++ rest).take count)).rest =
      found.encode ++ rest.take (count - Header.size) := cut
  refine ⟨_, Cursor.read?_of_some (by rw [here]; exact Header.read?_encode _ _), ?_⟩
  rw [isSome_scan_iff, ← Cursor.length_rest, Cursor.rest_stopAt _ here, List.length_take]
  rw [List.length_append, found.length_encode] at own aligned least
  have words : 4 ∣ rest.length := (Nat.dvd_add_right ⟨4, rfl⟩).mp aligned
  -- behind the header the window is the whole rest of the message
  have window : windowLength found = rest.length :=
    windowLength_of_aligned own words (Nat.le_of_add_le_add_left least)
  rw [window, List.length_append, found.length_encode]
  omega

/-- A message is decoded at a cursor exactly if its family header and its padded
body remain there. Then the record has the header and the family header that
stand there, and the cursor ends right behind the body; else it ends in front of
what is missing. No other byte of the message has a say, so one that declares its
own length is refused from every proper prefix that still holds its header. -/
theorem decoded_iff_present (header : Header) (cursor : Cursor) :
    ∃ need, (4 ∣ need ∧ header.length.toNat - 20 ≤ need ∧ need < header.length.toNat - 20 + 4) ∧
      ((cursor.scan (decode? header)).1.isSome ↔ 4 + need ≤ cursor.remaining) ∧
      (∀ record behind, cursor.scan (decode? header) = (some record, behind) →
        record.header = header ∧ record.family.encode = cursor.rest.take 4 ∧
          behind.data = cursor.data ∧ behind.position = cursor.position + 4 + need) ∧
      (∀ behind, cursor.scan (decode? header) = (none, behind) →
        behind.data = cursor.data ∧ behind.position =
          if cursor.remaining < 4 then cursor.position else cursor.position + 4) ∧
      ∀ message start, (Cursor.start message).read? Header.read? = some (header, start) →
        header.length.toNat = message.length → 4 ∣ message.length → 20 ≤ message.length →
        ∀ count, 16 ≤ count →
          ∃ behind, (Cursor.start (message.take count)).read? Header.read? = some (header, behind) ∧
            ((behind.scan (decode? header)).1.isSome ↔ message.length ≤ count) := by
  have extent : (cursor.scan (decode? header)).1.isSome ↔ windowLength header ≤ cursor.remaining :=
    isSome_scan_iff
  refine ⟨roundUp4 (bodyLength header),
    ⟨four_dvd_roundUp4 _, le_roundUp4 _, roundUp4_lt _⟩, extent, ?_, ?_, ?_⟩
  · intro record behind decoded
    have present := extent.mp (by rw [decoded]; rfl)
    obtain ⟨other, decoded', told, family⟩ := scan_of_whole present
    cases decoded.symm.trans decoded'
    exact ⟨told, family, rfl, (position_moveTo present).trans (Nat.add_assoc _ _ _).symm⟩
  · intro behind refused
    have missing : cursor.remaining < windowLength header := by
      apply Nat.lt_of_not_le
      intro present
      have decoded := extent.mpr present
      rw [refused] at decoded
      cases decoded
    cases refused.symm.trans (scan_of_cut missing)
    refine ⟨rfl, ?_⟩
    rw [position_moveTo (refusedAt_le _), refusedAt]
    exact apply_ite (cursor.position + ·) _ _ _
  · intro message start read own aligned least count headed
    exact isSome_scan_take_iff read own aligned least headed

/-- A message of a family header and one attribute that declares more bytes than there are. -/
def garbled : Bytes :=
  [24, 0, 0, 0, 2, 1, 0, 0, 0, 0, 0, 0, 0, 0, 0, 0, 2, 0, 0, 0, 255, 255, 7, 0]

def garbledHeader : Header := ⟨24, 258, 0, 0, 0⟩

theorem decoded_iff_present_garbled :
    (∃ start, (Cursor.start garbled).read? Header.read? = some (garbledHeader, start)) ∧
      ∀ count, 16 ≤ count →
        ∃ behind, (Cursor.start (garbled.take count)).read? Header.read? =
            some (garbledHeader, behind) ∧
          ((behind.scan (decode? garbledHeader)).1.isSome ↔ 24 ≤ count) := by
  have read : (Cursor.start garbled).read? Header.read? =
      some (garbledHeader, (Cursor.start garbled).stopAt (garbled.drop 16)) := rfl
  refine ⟨⟨_, read⟩, ?_⟩
  obtain ⟨-, -, -, -, -, own⟩ := decoded_iff_present garbledHeader (Cursor.start garbled)
  exact own garbled _ read rfl (by decide) (by decide)

end Conntrack.Connection.Record
