import Conntrack.Proofs.WalkPositions

/-!
# What a message leaves depends on its own bytes

Decoding is handed the whole rest of the datagram. It looks at the two headers
and the padded body, which is what the message takes up as long as its declared
length goes beyond the message header (`reach_eq_span`). A message that declares
its own header and nothing else still has a family header read for it, out of
the message behind it. So the bytes up to its padded end fix what a message
leaves exactly if it declares more than sixteen bytes (`isolated_iff`).
-/

namespace Conntrack.Datagram

open Wire Message Connection

/-- Two datagrams have the same bytes in front of an offset, and the same of them. -/
def AgreeTo (count : Nat) (first second : Bytes) : Prop := first.take count = second.take count

namespace AgreeTo

variable {first second : Bytes} {count : Nat}

theorem symm (agree : AgreeTo count first second) : AgreeTo count second first := Eq.symm agree

theorem mono {fewer : Nat} (agree : AgreeTo count first second) (le : fewer ≤ count) :
    AgreeTo fewer first second := by
  have cut := congrArg (List.take fewer) agree
  rwa [List.take_take, List.take_take, Nat.min_eq_left le] at cut

theorem drop {offset : Nat} (agree : AgreeTo (offset + count) first second) :
    AgreeTo count (first.drop offset) (second.drop offset) := by
  have behind := congrArg (List.drop offset) agree
  rwa [List.drop_take, List.drop_take, Nat.add_sub_cancel_left] at behind

theorem le_length {bound : Nat} (agree : AgreeTo count first second) (inside : bound ≤ count)
    (le : bound ≤ first.length) : bound ≤ second.length := by
  have lengths := congrArg List.length agree
  rw [List.length_take, List.length_take] at lengths
  omega

end AgreeTo

theorem step_take (header : Header) (bytes : Bytes) {count : Nat} (covers : reach header ≤ count) :
    step header (bytes.take count) = step header bytes := by
  have whole := length_le_reach header
  unfold reach at covers whole
  simp only [step]
  split
  · rfl
  · rw [List.take_take, Nat.min_eq_left (by omega)]
  · rw [List.drop_take, Record.decode?_take _ _ (by omega)]
  · rfl
  · rfl
  · rfl

theorem AgreeTo.step_eq {first second : Bytes} {header : Header} {count : Nat}
    (agree : AgreeTo count first second) (covers : reach header ≤ count) :
    step header first = step header second := by
  rw [← step_take header first covers, agree, step_take header second covers]

theorem AgreeTo.headerAt {first second : Bytes} {header : Header} {offset : Nat}
    (agree : AgreeTo (offset + Header.size) first second) (met : HeaderAt first offset header) :
    HeaderAt second offset header :=
  agree.drop.symm.trans met

theorem size_le_span {header : Header} {offset size : Nat}
    (good : lengthFault? header offset size = none) : Header.size ≤ span header :=
  Nat.le_trans (lengthFault?_eq_none.mp good).1 (le_roundUp4 _)

/-- The walk comes to an offset by the bytes in front of it and the four bytes
behind it, the family header of a message that has none of its own. -/
theorem AgreeTo.stands {first second : Bytes} {before : List Entry} {offset : Nat}
    (agree : AgreeTo (offset + FamilyHeader.size) first second)
    (stands : Stands first offset before) : Stands second offset before := by
  induction stands with
  | front => exact .front
  | @behind offset before header outcome here met good stepped goesOn ih =>
    obtain ⟨covers, inside⟩ := lengthFault?_eq_none.mp good
    have long := size_le_span good
    have padded : header.length.toNat ≤ span header := le_roundUp4 _
    have looked := reach_le_span covers
    have sized : FamilyHeader.size ≤ Header.size := by decide
    have here' := ih (agree.mono (by omega))
    have met' : HeaderAt second offset header := (agree.mono (by omega)).headerAt met
    have good' : lengthFault? header offset second.length = none :=
      lengthFault?_eq_none.mpr ⟨covers, agree.le_length (by omega) inside⟩
    have same : step header (first.drop offset) = step header (second.drop offset) := by
      rw [Nat.add_assoc] at agree
      exact agree.drop.step_eq looked
    apply Stands.behind here' met' good' _ goesOn
    rw [← same]
    exact stepped

/-- Nothing that can stand behind the padded end of the message changes what it leaves. -/
def Isolated (datagram : Bytes) (offset : Nat) (header : Header) (own : List Entry) : Prop :=
  ∀ other others, AgreeTo (offset + span header) datagram other → entries other = .ok others →
    Leaves other offset header own

theorem isolated_of_longer {datagram : Bytes} {all before : List Entry} {offset : Nat}
    {header : Header} {outcome : Step} (accepted : entries datagram = .ok all)
    (stands : Stands datagram offset before) (met : HeaderAt datagram offset header)
    (stepped : step header (datagram.drop offset) = .ok outcome) (goesOn : outcome.goesOn)
    (longer : Header.size < header.length.toNat) :
    Isolated datagram offset header outcome.entries := by
  intro other others agree accepted'
  have long := size_le_span (good_of_stands accepted stands met)
  have sized : FamilyHeader.size ≤ Header.size := by decide
  have stands' : Stands other offset before := (agree.mono (by omega)).stands stands
  have met' : HeaderAt other offset header := (agree.mono (by omega)).headerAt met
  have looked : reach header ≤ span header := Nat.le_of_eq (reach_eq_span longer)
  have same := agree.drop.step_eq looked
  apply leaves_of_step accepted' stands' met' _ goesOn
  rw [← same]
  exact stepped

/-- The datagram cut behind a message header, with other bytes behind the cut. -/
def withTail (datagram : Bytes) (offset : Nat) (tail : Bytes) : Bytes :=
  datagram.take (offset + Header.size) ++ tail

theorem length_withTail {datagram : Bytes} {offset : Nat} (tail : Bytes)
    (inside : offset + Header.size ≤ datagram.length) :
    (withTail datagram offset tail).length = offset + Header.size + tail.length := by
  rw [withTail, List.length_append, List.length_take_of_le inside]

/-- A message that declares nothing but its header leaves what is decoded from
the bytes behind it. -/
theorem leaves_withTail {datagram tail : Bytes} {before : List Entry} {offset : Nat}
    {header : Header} {operation : UInt8} (stands : Stands datagram offset before)
    (met : HeaderAt datagram offset header)
    (good : lengthFault? header offset datagram.length = none)
    (tracked : header.purpose = .conntrack operation)
    (bare : header.length.toNat = Header.size)
    (quiet : walk (withTail datagram offset tail).length (offset + Header.size) tail = .ok []) :
    AgreeTo (offset + span header) datagram (withTail datagram offset tail) ∧
      (∃ all, entries (withTail datagram offset tail) = .ok all) ∧
      Leaves (withTail datagram offset tail) offset header
        ((Record.decode? header tail).1.toList.map (.tracked (Event.ofOperation operation))) := by
  have inside := (lengthFault?_eq_none.mp good).2
  have spanned : span header = Header.size := by
    rw [span, bare]
    rfl
  have front : (datagram.take (offset + Header.size)).length = offset + Header.size :=
    List.length_take_of_le (by omega)
  have agree : AgreeTo (offset + Header.size) datagram (withTail datagram offset tail) := by
    rw [AgreeTo, withTail, List.take_append_of_le_length (by omega), List.take_take, Nat.min_self]
  have behind : (withTail datagram offset tail).drop (offset + Header.size) = tail := by
    rw [withTail]
    exact List.drop_left' front
  have stands' := (agree.mono (Nat.add_le_add_left (by decide) offset)).stands stands
  have met' := agree.headerAt met
  have good' : lengthFault? header offset (withTail datagram offset tail).length = none :=
    lengthFault?_eq_none.mpr
      ⟨Nat.le_of_eq bare.symm, agree.le_length (by omega) inside⟩
  obtain ⟨outcome, stepped, goesOn, said⟩ :=
    step_of_conntrack ((withTail datagram offset tail).drop offset) tracked
  have whole := entries_of_stands (.behind stands' met' good' stepped goesOn)
  rw [spanned, behind, quiet] at whole
  have leaves := leaves_of_conntrack whole stands' met' tracked
  rw [behind] at leaves
  rw [spanned]
  exact ⟨agree, ⟨_, whole⟩, leaves⟩

/-- A message without content, as another one to stand behind. -/
def noop : Header := ⟨16, noopType, 0, 0, 0⟩

theorem walk_noop {size offset : Nat} (inside : offset + Header.size ≤ size) :
    walk size offset noop.encode = .ok [] := by
  have front : noop.encode.take Header.size = noop.encode := by decide
  have good : lengthFault? noop offset size = none :=
    lengthFault?_eq_none.mpr ⟨by decide, inside⟩
  have stepped : step noop noop.encode = .ok .skip := rfl
  exact walk_of_last front good stepped (by decide)

theorem not_isolated_of_bare {datagram : Bytes} {before own : List Entry} {offset : Nat}
    {header : Header} {operation : UInt8} (stands : Stands datagram offset before)
    (met : HeaderAt datagram offset header)
    (good : lengthFault? header offset datagram.length = none)
    (tracked : header.purpose = .conntrack operation)
    (bare : header.length.toNat = Header.size) : ¬ Isolated datagram offset header own := by
  intro isolated
  have window : Record.windowLength header = FamilyHeader.size := by
    rw [Record.windowLength, Record.bodyLength, bare]
    rfl
  -- alone at the end of the datagram the message is dropped
  have quiet : walk (withTail datagram offset []).length (offset + Header.size) [] = .ok [] :=
    walk_nil _ _
  obtain ⟨agree, ⟨_, accepted⟩, alone⟩ := leaves_withTail stands met good tracked bare quiet
  rw [Record.decode?_of_missing (window ▸ by decide)] at alone
  have none_left := leaves_unique (isolated _ _ agree accepted) alone
  -- in front of another message it is not
  have inside := (lengthFault?_eq_none.mp good).2
  rw [bare] at inside
  have room : offset + Header.size + Header.size
      ≤ (withTail datagram offset noop.encode).length :=
    Nat.le_of_eq (length_withTail noop.encode inside).symm
  obtain ⟨agree', ⟨_, accepted'⟩, followed⟩ :=
    leaves_withTail stands met good tracked bare (walk_noop room)
  have present : Record.windowLength header ≤ noop.encode.length := window ▸ by decide
  obtain ⟨record, decoded, -⟩ := Record.decode?_of_present present
  rw [decoded] at followed
  have one_left := leaves_unique (isolated _ _ agree' accepted') followed
  rw [none_left] at one_left
  cases one_left

/-- Whether a message about a connection leaves a record and which one is fixed
by the bytes up to its padded end exactly if it declares more than its header. -/
theorem isolated_iff {datagram : Bytes} {all before : List Entry} {offset : Nat} {header : Header}
    {operation : UInt8} (accepted : entries datagram = .ok all)
    (stands : Stands datagram offset before) (met : HeaderAt datagram offset header)
    (tracked : header.purpose = .conntrack operation) :
    ∃ own, Leaves datagram offset header own ∧
      (own = [] ∨ ∃ record, own = [.tracked (Event.ofOperation operation) record]) ∧
      (Isolated datagram offset header own ↔ Header.size < header.length.toNat) := by
  obtain ⟨outcome, stepped, goesOn, said⟩ := step_of_conntrack (datagram.drop offset) tracked
  refine ⟨outcome.entries, leaves_of_step accepted stands met stepped goesOn, ?_, ?_⟩
  · rw [said]
    cases (Record.decode? header ((datagram.drop offset).drop Header.size)).1 with
    | none => exact .inl rfl
    | some record => exact .inr ⟨record, rfl⟩
  · constructor
    · intro isolated
      have good := good_of_stands accepted stands met
      obtain ⟨covers, inside⟩ := lengthFault?_eq_none.mp good
      rcases Nat.lt_or_ge Header.size header.length.toNat with longer | short
      · exact longer
      · have bare : header.length.toNat = Header.size := Nat.le_antisymm short covers
        exact absurd isolated (not_isolated_of_bare stands met good tracked bare)
    · intro longer
      exact isolated_of_longer accepted stands met stepped goesOn longer

/-! A message that declares its own header only, alone and in front of another. -/

def bareHeader : Header := ⟨16, conntrackType Event.newOperation, 0, 0, 0⟩

def bareAlone : Bytes := bareHeader.encode

def bareFollowed : Bytes := bareHeader.encode ++ noop.encode

/-- What the walk makes of the message in front of another: its family is the
length of the other. -/
def borrowed : Record := Record.ofBody bareHeader ⟨16, 0, 0⟩ []

theorem headerAt_bareFollowed : HeaderAt bareFollowed 0 bareHeader := by decide

theorem entries_bareAlone : entries bareAlone = .ok [] := by
  have front : bareAlone.take Header.size = bareHeader.encode := by decide
  have stepped : step bareHeader bareAlone = .ok .skip := rfl
  exact walk_of_last front (by decide) stepped (by decide)

theorem entries_bareFollowed : entries bareFollowed = .ok [.tracked .new borrowed] := by
  have front : bareFollowed.take Header.size = bareHeader.encode := by decide
  have stepped : step bareHeader bareFollowed = .ok (.entry (.tracked .new borrowed)) := rfl
  have behind : bareFollowed.drop (span bareHeader) = noop.encode := by decide
  rw [entries, walk_of_step front (by decide) stepped, behind, walk_noop (by decide)]
  rfl

theorem isolated_iff_bareFollowed :
    entries bareFollowed = .ok [.tracked .new borrowed] ∧ Stands bareFollowed 0 [] ∧
      HeaderAt bareFollowed 0 bareHeader ∧ bareHeader.purpose = .conntrack 0 ∧
      ∃ own, Leaves bareFollowed 0 bareHeader own ∧
        (own = [] ∨ ∃ record, own = [.tracked (Event.ofOperation 0) record]) ∧
        (Isolated bareFollowed 0 bareHeader own ↔ Header.size < bareHeader.length.toNat) :=
  ⟨entries_bareFollowed, .front, headerAt_bareFollowed, rfl,
    isolated_iff entries_bareFollowed .front headerAt_bareFollowed rfl⟩

/-- It is not so that what a message about a connection leaves is fixed by the
bytes up to its padded end. -/
theorem next_message_read_as_family :
    ¬ ∀ (first second : Bytes) (all others before own : List Entry) (offset : Nat)
        (header : Header) (operation : UInt8),
      entries first = .ok all → entries second = .ok others → Stands first offset before →
      HeaderAt first offset header → header.purpose = .conntrack operation →
      AgreeTo (offset + span header) first second → Leaves first offset header own →
      Leaves second offset header own := by
  intro claim
  have stepped : step bareHeader (bareFollowed.drop 0) = .ok (.entry (.tracked .new borrowed)) := rfl
  have leaves := leaves_of_step entries_bareFollowed .front headerAt_bareFollowed stepped rfl
  have agree : AgreeTo (0 + span bareHeader) bareFollowed bareAlone := by
    unfold AgreeTo
    decide
  exact not_leaves_cons entries_bareAlone
    (claim bareFollowed bareAlone _ _ [] _ 0 bareHeader 0 entries_bareFollowed entries_bareAlone
      .front headerAt_bareFollowed rfl agree leaves)

end Conntrack.Datagram
