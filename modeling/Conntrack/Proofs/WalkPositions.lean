import Conntrack.Datagram
import Conntrack.Proofs.RecordWindow

/-!
# Where the walk over a datagram stands

The walk stands at the front of a datagram, and behind every message that it
meets, finds well formed and does not stop at; `Stands` records the offset and
the entries left on the way there. Standing somewhere says what the whole walk
gives: the entries so far and then those of the walk from there
(`entries_of_stands`). What one message leaves is thereby fixed by what stands
in front of it and behind it in the list of entries (`Leaves`).
-/

namespace Conntrack.Message.Header

open Wire

theorem read?_of_take {bytes : Bytes} {header : Header} (front : bytes.take size = header.encode) :
    read? bytes = some (header, bytes.drop size) := by
  have read := read?_encode header (bytes.drop size)
  rwa [← front, List.take_append_drop] at read

theorem read?_of_le {bytes : Bytes} (present : size ≤ bytes.length) :
    read? bytes = some
      ({ length := UInt32.ofNat (ofLittleEndian (bytes.take 4))
         type := UInt16.ofNat (ofLittleEndian ((bytes.drop 4).take 2))
         flags := UInt16.ofNat (ofLittleEndian ((bytes.drop 6).take 2))
         sequence := UInt32.ofNat (ofLittleEndian ((bytes.drop 8).take 4))
         sender := UInt32.ofNat (ofLittleEndian ((bytes.drop 12).take 4)) }, bytes.drop size) := by
  unfold size at present
  have type : 2 ≤ bytes.length - 4 := by omega
  have flags : 2 ≤ bytes.length - 6 := by omega
  have sequence : 4 ≤ bytes.length - 8 := by omega
  have sender : 4 ≤ bytes.length - 12 := by omega
  have length : 4 ≤ bytes.length := by omega
  simp [read?, hostWord32?, hostWord16?, take?, size, length, type, flags, sequence, sender]

theorem read?_of_short {bytes : Bytes} (short : bytes.length < size) : read? bytes = none := by
  cases read : read? bytes with
  | none => rfl
  | some outcome =>
    have lengths := congrArg List.length (encode_of_read? read)
    rw [List.length_append, length_encode] at lengths
    omega

end Conntrack.Message.Header

namespace Conntrack.Datagram

open Wire Message Connection

def Step.entries : Step → List Entry
  | .skip => []
  | .entry said => [said]
  | .last said => [said]

/-- Whether the walk goes on behind the message. -/
def Step.goesOn : Step → Bool
  | .skip => true
  | .entry _ => true
  | .last _ => false

/-- The bytes a message takes up, padding included. -/
def span (header : Header) : Nat := roundUp4 header.length.toNat

/-- The bytes from the front of a message on that its step looks at. -/
def reach (header : Header) : Nat := Header.size + Record.windowLength header

theorem length_le_reach (header : Header) : header.length.toNat ≤ reach header := by
  unfold reach Record.windowLength Record.bodyLength Record.headersLength roundUp4
    FamilyHeader.size Header.size
  omega

theorem reach_eq_span {header : Header} (longer : Header.size < header.length.toNat) :
    reach header = span header := by
  unfold Header.size at longer
  unfold reach Record.windowLength Record.bodyLength Record.headersLength span roundUp4
    FamilyHeader.size Header.size
  omega

theorem reach_le_span {header : Header} (covers : Header.size ≤ header.length.toNat) :
    reach header ≤ span header + FamilyHeader.size := by
  unfold Header.size at covers
  unfold reach Record.windowLength Record.bodyLength Record.headersLength span roundUp4
    FamilyHeader.size Header.size
  omega

/-- The bytes of `header` stand at `offset`. -/
def HeaderAt (datagram : Bytes) (offset : Nat) (header : Header) : Prop :=
  (datagram.drop offset).take Header.size = header.encode

instance (datagram : Bytes) (offset : Nat) (header : Header) :
    Decidable (HeaderAt datagram offset header) :=
  inferInstanceAs (Decidable (_ = _))

/-- The walk comes to `offset`, having left the entries `before`. -/
inductive Stands (datagram : Bytes) : Nat → List Entry → Prop where
  | front : Stands datagram 0 []
  | behind {offset : Nat} {before : List Entry} {header : Header} {outcome : Step}
      (here : Stands datagram offset before) (met : HeaderAt datagram offset header)
      (good : lengthFault? header offset datagram.length = none)
      (stepped : step header (datagram.drop offset) = .ok outcome)
      (goesOn : outcome.goesOn) :
      Stands datagram (offset + span header) (before ++ outcome.entries)

/-- The message with `header` at `offset` leaves the entries `own` in the
result of the walk, between those of the messages in front of it and those of
the messages behind it. -/
def Leaves (datagram : Bytes) (offset : Nat) (header : Header) (own : List Entry) : Prop :=
  ∃ before behind, Stands datagram offset before ∧ HeaderAt datagram offset header ∧
    walk datagram.length (offset + span header) (datagram.drop (offset + span header))
      = .ok behind ∧
    entries datagram = .ok (before ++ own ++ behind)

theorem lengthFault?_eq_none {header : Header} {offset size : Nat} :
    lengthFault? header offset size = none ↔
      Header.size ≤ header.length.toNat ∧ offset + header.length.toNat ≤ size := by
  simp only [lengthFault?]
  split
  · simp only [reduceCtorEq, false_iff]
    omega
  · split
    · simp only [reduceCtorEq, false_iff]
      omega
    · simp only [true_iff]
      omega

theorem map_nil_append (result : Except Fault (List Entry)) : result.map ([] ++ ·) = result := by
  cases result <;> rfl

theorem map_append_map (front back : List Entry) (result : Except Fault (List Entry)) :
    (result.map (back ++ ·)).map (front ++ ·) = result.map ((front ++ back) ++ ·) := by
  cases result with
  | error fault => rfl
  | ok entries => simp [Except.map]

/-- The walk where a whole header stands: it looks at the declared length, takes
the step, and goes on behind the padding unless the step is the last. -/
theorem walk_of_front {size offset : Nat} {bytes : Bytes} {header : Header}
    (front : bytes.take Header.size = header.encode) :
    walk size offset bytes = match lengthFault? header offset size with
      | some fault => .error fault
      | none => match step header bytes with
        | .error fault => .error fault
        | .ok outcome => if outcome.goesOn then
          (walk size (offset + span header) (bytes.drop (span header))).map (outcome.entries ++ ·)
          else .ok outcome.entries := by
  rw [walk]
  have read := Header.read?_of_take front
  split
  · next refused =>
    rw [read] at refused
    cases refused
  · next other rest found =>
    rw [read] at found
    simp only [Option.some.injEq, Prod.mk.injEq] at found
    rcases found with ⟨rfl, rfl⟩
    split
    · next fault bad => rw [bad]
    · next good =>
      simp only [good]
      cases step header bytes with
      | error fault => rfl
      | ok outcome =>
        cases outcome with
        | skip => exact (map_nil_append _).symm
        | entry entry => rfl
        | last entry => rfl

/-- The walk ends where no header is left. -/
theorem walk_of_refused {size offset : Nat} {bytes : Bytes} (refused : Header.read? bytes = none) :
    walk size offset bytes = .ok [] := by
  rw [walk]
  split
  · rfl
  · next header rest read =>
    rw [read] at refused
    cases refused

/-- One step of the walk, over a message whose length and content are good. -/
theorem walk_of_step {size offset : Nat} {bytes : Bytes} {header : Header} {outcome : Step}
    (front : bytes.take Header.size = header.encode)
    (good : lengthFault? header offset size = none) (stepped : step header bytes = .ok outcome) :
    walk size offset bytes = if outcome.goesOn then
      (walk size (offset + span header) (bytes.drop (span header))).map (outcome.entries ++ ·)
      else .ok outcome.entries := by
  rw [walk_of_front front, good, stepped]

theorem walk_nil (size offset : Nat) : walk size offset [] = .ok [] := walk_of_refused rfl

/-- A message with nothing behind it is the last one, whether it stops the walk or not. -/
theorem walk_of_last {size offset : Nat} {bytes : Bytes} {header : Header} {outcome : Step}
    (front : bytes.take Header.size = header.encode)
    (good : lengthFault? header offset size = none) (stepped : step header bytes = .ok outcome)
    (last : bytes.length ≤ span header) : walk size offset bytes = .ok outcome.entries := by
  rw [walk_of_step front good stepped, List.drop_of_length_le last, walk_nil]
  split
  · simp [Except.map]
  · rfl

/-- The walk from a place where it stands completes the entries left so far. -/
theorem entries_of_stands {datagram : Bytes} {offset : Nat} {before : List Entry}
    (stands : Stands datagram offset before) :
    entries datagram
      = (walk datagram.length offset (datagram.drop offset)).map (before ++ ·) := by
  induction stands with
  | front => exact (map_nil_append _).symm
  | behind here met good stepped goesOn ih =>
    rw [ih, walk_of_step met good stepped, if_pos goesOn, map_append_map, List.drop_drop]

/-- A datagram with a message of bad length in the way of the walk is refused. -/
theorem good_of_stands {datagram : Bytes} {all before : List Entry} {offset : Nat}
    {header : Header} (accepted : entries datagram = .ok all)
    (stands : Stands datagram offset before) (met : HeaderAt datagram offset header) :
    lengthFault? header offset datagram.length = none := by
  rw [entries_of_stands stands, walk_of_front met] at accepted
  cases fault : lengthFault? header offset datagram.length with
  | none => rfl
  | some fault' =>
    rw [fault] at accepted
    cases accepted

/-- A message that the walk goes on behind leaves the entries of its step. -/
theorem leaves_of_step {datagram : Bytes} {all before : List Entry} {offset : Nat}
    {header : Header} {outcome : Step} (accepted : entries datagram = .ok all)
    (stands : Stands datagram offset before) (met : HeaderAt datagram offset header)
    (stepped : step header (datagram.drop offset) = .ok outcome) (goesOn : outcome.goesOn) :
    Leaves datagram offset header outcome.entries := by
  have good := good_of_stands accepted stands met
  have whole := entries_of_stands (.behind stands met good stepped goesOn)
  cases tail : walk datagram.length (offset + span header) (datagram.drop (offset + span header)) with
  | error fault =>
    rw [accepted, tail] at whole
    cases whole
  | ok behind =>
    rw [tail] at whole
    exact ⟨before, behind, stands, met, tail, whole⟩

theorem stands_unique {datagram : Bytes} {all before others : List Entry} {offset : Nat}
    (accepted : entries datagram = .ok all) (stands : Stands datagram offset before)
    (also : Stands datagram offset others) : before = others := by
  have one := entries_of_stands stands
  have two := entries_of_stands also
  rw [accepted] at one two
  cases tail : walk datagram.length offset (datagram.drop offset) with
  | error fault =>
    rw [tail] at one
    cases one
  | ok behind =>
    rw [tail] at one two
    exact List.append_cancel_right (Except.ok.inj (one.symm.trans two))

theorem leaves_unique {datagram : Bytes} {offset : Nat} {header : Header} {own others : List Entry}
    (leaves : Leaves datagram offset header own) (also : Leaves datagram offset header others) :
    own = others := by
  obtain ⟨before, behind, stands, -, tail, whole⟩ := leaves
  obtain ⟨front, back, stands', -, tail', whole'⟩ := also
  obtain rfl := stands_unique whole stands stands'
  rw [tail] at tail'
  obtain rfl := Except.ok.inj tail'
  rw [whole] at whole'
  exact List.append_cancel_left (List.append_cancel_right (Except.ok.inj whole'))

theorem not_leaves_cons {datagram : Bytes} {offset : Nat} {header : Header} {said : Entry}
    {more : List Entry} (empty : entries datagram = .ok []) :
    ¬ Leaves datagram offset header (said :: more) := by
  rintro ⟨before, behind, -, -, -, whole⟩
  rw [empty] at whole
  have lengths := congrArg List.length (Except.ok.inj whole)
  simp only [List.length_append, List.length_cons, List.length_nil] at lengths
  omega

/-- What a message about a connection does to the walk. -/
theorem step_of_conntrack {header : Header} {operation : UInt8} (bytes : Bytes)
    (tracked : header.purpose = .conntrack operation) :
    ∃ outcome, step header bytes = .ok outcome ∧ outcome.goesOn ∧ outcome.entries =
      (Record.decode? header (bytes.drop Header.size)).1.toList.map
        (.tracked (Event.ofOperation operation)) := by
  simp only [step, tracked]
  cases (Record.decode? header (bytes.drop Header.size)).1 with
  | none => exact ⟨_, rfl, rfl, rfl⟩
  | some record => exact ⟨_, rfl, rfl, rfl⟩

/-- A message about a connection leaves its record, or nothing if it cannot be decoded. -/
theorem leaves_of_conntrack {datagram : Bytes} {all before : List Entry} {offset : Nat}
    {header : Header} {operation : UInt8} (accepted : entries datagram = .ok all)
    (stands : Stands datagram offset before) (met : HeaderAt datagram offset header)
    (tracked : header.purpose = .conntrack operation) :
    Leaves datagram offset header
      ((Record.decode? header (datagram.drop (offset + Header.size))).1.toList.map
        (.tracked (Event.ofOperation operation))) := by
  obtain ⟨outcome, stepped, goesOn, said⟩ := step_of_conntrack (datagram.drop offset) tracked
  rw [List.drop_drop] at said
  rw [← said]
  exact leaves_of_step accepted stands met stepped goesOn

end Conntrack.Datagram
