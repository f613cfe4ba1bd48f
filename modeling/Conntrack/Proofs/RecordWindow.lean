import Conntrack.Connection.Record

/-!
# What decoding a record looks at

Decoding wants the family header and the padded body, and looks at nothing
behind them: a shorter string is refused (`Record.decode?_of_cut`), any other is
decoded (`Record.decode?_of_whole`), and a longer one gives what its first bytes
give (`Record.decode?_take`). Padding counts towards the bytes that are wanted
although no field is read from it.
-/

namespace Conntrack.Message.FamilyHeader

open Wire

/-- Any four bytes spell a family header. -/
theorem exists_encode_append {bytes : Bytes} (present : size ≤ bytes.length) :
    ∃ family rest, bytes = encode family ++ rest := by
  match bytes, present with
  | number :: version :: high :: low :: rest, _ =>
    have read : networkWord16? (high :: low :: rest)
        = some (UInt16.ofNat (ofBigEndian [high, low]), rest) := rfl
    refine ⟨⟨number, version, UInt16.ofNat (ofBigEndian [high, low])⟩, rest, ?_⟩
    rw [encode, List.cons_append, List.cons_append, ← networkWord16?_eq_some read]

theorem read?_eq_none_iff {bytes : Bytes} : read? bytes = none ↔ bytes.length < size := by
  constructor
  · intro refused
    apply Nat.lt_of_not_le
    intro enough
    obtain ⟨family, rest, rfl⟩ := exists_encode_append enough
    rw [read?_encode] at refused
    cases refused
  · intro short
    cases read : read? bytes with
    | none => rfl
    | some outcome =>
      have split := congrArg List.length (encode_of_read? read)
      rw [List.length_append, length_encode] at split
      omega

end Conntrack.Message.FamilyHeader

namespace Conntrack.Connection.Record

open Wire Message

/-- The bytes of the family header and the padded body. -/
def windowLength (header : Header) : Nat := FamilyHeader.size + roundUp4 (bodyLength header)

/-- Whole words behind a message header are all in the window of a message that declares them. -/
theorem windowLength_of_aligned {header : Header} {count : Nat}
    (own : header.length.toNat = Header.size + count) (aligned : 4 ∣ count)
    (least : FamilyHeader.size ≤ count) : windowLength header = count := by
  have body : bodyLength header = count - FamilyHeader.size := by
    rw [bodyLength, own, headersLength]
    omega
  have whole : 4 ∣ count - FamilyHeader.size := by
    unfold FamilyHeader.size
    omega
  rw [windowLength, body, roundUp4_of_dvd whole]
  omega

theorem decode?_encode_append {header : Header} (family : FamilyHeader) (padded after : Bytes)
    (size : padded.length = roundUp4 (bodyLength header)) :
    decode? header (family.encode ++ (padded ++ after))
      = (some (ofBody header family (padded.take (bodyLength header))), after) := by
  have taken := take?_append padded after
  rw [size] at taken
  simp only [decode?, FamilyHeader.read?_encode, taken]

theorem exists_window {header : Header} {bytes : Bytes} (present : windowLength header ≤ bytes.length) :
    ∃ family padded after, bytes = FamilyHeader.encode family ++ (padded ++ after) ∧
      padded.length = roundUp4 (bodyLength header) := by
  unfold windowLength at present
  obtain ⟨family, rest, rfl⟩ := FamilyHeader.exists_encode_append (Nat.le_of_add_right_le present)
  rw [List.length_append, FamilyHeader.length_encode] at present
  let body := roundUp4 (bodyLength header)
  refine ⟨family, rest.take body, rest.drop body, ?_, List.length_take_of_le (by omega)⟩
  rw [List.take_append_drop]

/-- With all its bytes there a message is decoded, up to its padded end. -/
theorem decode?_of_whole {header : Header} {bytes : Bytes}
    (present : windowLength header ≤ bytes.length) :
    ∃ record, decode? header bytes = (some record, bytes.drop (windowLength header)) ∧
      record.header = header ∧ record.family.encode = bytes.take FamilyHeader.size := by
  obtain ⟨family, padded, after, rfl, size⟩ := exists_window present
  have window : (family.encode ++ padded).length = windowLength header := by
    rw [List.length_append, FamilyHeader.length_encode, size, windowLength]
  have behind : (family.encode ++ (padded ++ after)).drop (windowLength header) = after := by
    rw [← window, ← List.append_assoc, List.drop_left]
  refine ⟨ofBody header family (padded.take (bodyLength header)), ?_, rfl, ?_⟩
  · rw [decode?_encode_append family padded after size, behind]
  · rw [← family.length_encode, List.take_left]
    rfl

/-- How many bytes a refused message is relieved of: a family header that is there. -/
def refusedAt (available : Nat) : Nat :=
  if available < FamilyHeader.size then 0 else FamilyHeader.size

theorem decode?_of_cut {header : Header} {bytes : Bytes}
    (missing : bytes.length < windowLength header) :
    decode? header bytes = (none, bytes.drop (refusedAt bytes.length)) := by
  rw [decode?, refusedAt]
  by_cases short : bytes.length < FamilyHeader.size
  · rw [FamilyHeader.read?_eq_none_iff.mpr short, if_pos short]
    rfl
  · obtain ⟨family, rest, rfl⟩ := FamilyHeader.exists_encode_append (Nat.le_of_not_lt short)
    rw [List.length_append, FamilyHeader.length_encode, windowLength, Nat.add_lt_add_iff_left]
      at missing
    rw [FamilyHeader.read?_encode, if_neg short, ← family.length_encode, List.drop_left]
    dsimp only
    rw [take?_eq_none.mpr missing]

theorem decode?_of_present {header : Header} {bytes : Bytes}
    (present : windowLength header ≤ bytes.length) :
    ∃ record, (decode? header bytes).1 = some record ∧ record.header = header := by
  obtain ⟨record, decoded, told, -⟩ := decode?_of_whole present
  exact ⟨record, congrArg Prod.fst decoded, told⟩

theorem decode?_of_missing {header : Header} {bytes : Bytes}
    (missing : bytes.length < windowLength header) : (decode? header bytes).1 = none := by
  rw [decode?_of_cut missing]

/-- No byte behind the window is looked at. -/
theorem decode?_take (header : Header) (bytes : Bytes) {count : Nat}
    (covers : windowLength header ≤ count) :
    (decode? header (bytes.take count)).1 = (decode? header bytes).1 := by
  by_cases present : windowLength header ≤ bytes.length
  · obtain ⟨family, padded, after, rfl, size⟩ := exists_window present
    have front : (family.encode ++ padded).length ≤ count := by
      rw [List.length_append, FamilyHeader.length_encode, size]
      exact covers
    have cut : (family.encode ++ (padded ++ after)).take count = family.encode ++
        (padded ++ after.take (count - (family.encode ++ padded).length)) := by
      rw [← List.append_assoc, List.take_append, List.take_of_length_le front, List.append_assoc]
    rw [cut, decode?_encode_append family padded _ size, decode?_encode_append family padded _ size]
  · rw [decode?_of_missing, decode?_of_missing (by omega)]
    rw [List.length_take]
    omega

end Conntrack.Connection.Record
