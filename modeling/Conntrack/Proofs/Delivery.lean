import Conntrack.Proofs.WalkPositions

/-!
# Which messages about connections leave an entry

The walk lets a message pass whose declared length ends inside the datagram;
decoding wants the padding behind it as well. The two tests differ for one kind
of message only, the last one of a datagram that ends within its padding. Such
a message passes the walk and leaves nothing (`entry_iff_padding_present`,
`unpadded_last_message_lost`); every other message whose length covers both
headers leaves exactly one entry.
-/

namespace Conntrack.Datagram

open Wire Message Connection

/-- A message about a connection whose length covers both headers leaves exactly
one entry if the datagram holds its padding, and nothing if it does not. -/
theorem entry_iff_padding_present {datagram : Bytes} {all before : List Entry} {offset : Nat}
    {header : Header} {operation : UInt8} (accepted : entries datagram = .ok all)
    (stands : Stands datagram offset before) (met : HeaderAt datagram offset header)
    (tracked : header.purpose = .conntrack operation)
    (covers : Record.headersLength ≤ header.length.toNat) :
    ∃ own, Leaves datagram offset header own ∧
      ((∃ record, record.header = header ∧
          own = [.tracked (Event.ofOperation operation) record]) ↔
        offset + span header ≤ datagram.length) ∧
      (own = [] ↔ datagram.length < offset + span header) := by
  have leaves := leaves_of_conntrack accepted stands met tracked
  have inside := (lengthFault?_eq_none.mp (good_of_stands accepted stands met)).2
  have headers : Record.headersLength = Header.size + FamilyHeader.size := rfl
  have window : Header.size + Record.windowLength header = span header :=
    reach_eq_span (Nat.lt_of_lt_of_le (by decide) covers)
  have remaining : (datagram.drop (offset + Header.size)).length
      = datagram.length - (offset + Header.size) := List.length_drop
  by_cases present : offset + span header ≤ datagram.length
  · have enough : Record.windowLength header ≤ (datagram.drop (offset + Header.size)).length := by
      omega
    obtain ⟨record, decoded, carried⟩ := Record.decode?_of_present enough
    rw [decoded] at leaves
    refine ⟨_, leaves, ?_, ?_⟩
    · constructor
      · intro _
        exact present
      · intro _
        exact ⟨record, carried, rfl⟩
    · simp only [Option.toList_some, List.map_cons, List.map_nil, List.cons_ne_nil, false_iff]
      omega
  · have short : (datagram.drop (offset + Header.size)).length < Record.windowLength header := by
      omega
    rw [Record.decode?_of_missing short] at leaves
    refine ⟨_, leaves, ?_, ?_⟩
    · constructor
      · rintro ⟨record, -, said⟩
        cases said
      · intro enough
        exact absurd enough present
    · simp only [Option.toList_none, List.map_nil, true_iff]
      omega

/-! The last message of a datagram that ends within its padding. -/

/-- A message of 33 bytes: its last attribute has a value of one byte. -/
def unpaddedHeader : Header := ⟨33, conntrackType Event.newOperation, 0, 0, 0⟩

/-- The message alone: a timeout of 120 seconds, and the attribute without its padding. -/
def unpadded : Bytes :=
  unpaddedHeader.encode ++ FamilyHeader.encode ⟨inetFamily, familyVersion, 0⟩ ++
    [8, 0, 7, 0, 0, 0, 0, 120] ++ [5, 0, 9, 0, 1]

theorem headerAt_unpadded : HeaderAt unpadded 0 unpaddedHeader := by decide

theorem entries_unpadded : entries unpadded = .ok [] := by
  have front : unpadded.take Header.size = unpaddedHeader.encode := by decide
  have stepped : step unpaddedHeader unpadded = .ok .skip := rfl
  exact walk_of_last front (by decide) stepped (by decide)

theorem entry_iff_padding_present_unpadded :
    entries unpadded = .ok [] ∧ Stands unpadded 0 [] ∧ HeaderAt unpadded 0 unpaddedHeader ∧
      unpaddedHeader.purpose = .conntrack 0 ∧
      Record.headersLength ≤ unpaddedHeader.length.toNat ∧
      ∃ own, Leaves unpadded 0 unpaddedHeader own ∧
        ((∃ record, record.header = unpaddedHeader ∧
            own = [.tracked (Event.ofOperation 0) record]) ↔
          0 + span unpaddedHeader ≤ unpadded.length) ∧
        (own = [] ↔ unpadded.length < 0 + span unpaddedHeader) :=
  ⟨entries_unpadded, .front, headerAt_unpadded, by decide, by decide,
    entry_iff_padding_present entries_unpadded .front headerAt_unpadded rfl (by decide)⟩

/-- It is not so that every message about a connection that passes the walk and
covers both headers leaves an entry. -/
theorem unpadded_last_message_lost :
    ¬ ∀ (datagram : Bytes) (all before : List Entry) (offset : Nat) (header : Header)
        (operation : UInt8),
      entries datagram = .ok all → Stands datagram offset before →
      HeaderAt datagram offset header → header.purpose = .conntrack operation →
      Record.headersLength ≤ header.length.toNat →
      ∃ record, Leaves datagram offset header [.tracked (Event.ofOperation operation) record] := by
  intro claim
  obtain ⟨record, leaves⟩ :=
    claim unpadded [] [] 0 unpaddedHeader 0 entries_unpadded .front headerAt_unpadded rfl
      (by decide)
  exact not_leaves_cons entries_unpadded leaves

end Conntrack.Datagram
