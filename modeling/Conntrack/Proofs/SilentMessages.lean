import Conntrack.Proofs.WalkPositions
import Conntrack.Session.Update

/-!
# Messages that say nothing about a request

An update looks for the first outcome in the reply. Messages about connections
and messages that the walk skips are silent: they leave no outcome and do not stop
the walk. So the outcomes of a datagram are those of its other messages
(`reported_walk_joined`, `foldr_report_filter`), and without its silent messages a
reply says the same (`acknowledged_loud`). Only the text of a bad length further
behind tells the difference, since it names a place in the datagram.
-/

namespace Conntrack

open Wire Message Connection

namespace Datagram

/-- The fault after so many bytes were put in front of the message that it is about. -/
def Fault.movedBy (count : Nat) : Fault → Fault
  | .lengthBelowHeader length => .lengthBelowHeader length
  | .lengthBeyondEnd length offset size => .lengthBeyondEnd length (offset + count) (size + count)
  | .codeMissing length => .codeMissing length

/-! ## The same bytes further behind -/

theorem lengthFault?_moved (header : Header) (offset size count : Nat) :
    lengthFault? header (offset + count) (size + count) =
      (lengthFault? header offset size).map (Fault.movedBy count) := by
  have beyond : size + count < offset + count + header.length.toNat ↔
      size < offset + header.length.toNat := by omega
  simp only [lengthFault?, beyond]
  split
  · rfl
  · split <;> rfl

/-- A message of good length can only be refused for a missing code. -/
theorem movedBy_of_step {header : Header} {bytes : Bytes} {fault : Fault} (count : Nat)
    (refused : step header bytes = .error fault) : fault.movedBy count = fault := by
  simp only [step] at refused
  split at refused
  · cases refused
  · simp only [outcomeCode] at refused
    split at refused
    · next missing =>
      split at missing
      · cases missing
        cases refused
        rfl
      · cases missing
    · cases refused
  · split at refused <;> cases refused
  all_goals cases refused

theorem mapError_map {ε ε' α β : Type} (onError : ε → ε') (onValue : α → β)
    (result : Except ε α) :
    (result.map onValue).mapError onError = (result.mapError onError).map onValue := by
  cases result <;> rfl

/-- Where bytes stand in a datagram shows in the fault of the walk and nowhere else. -/
theorem walk_moved (count size offset : Nat) (bytes : Bytes) :
    walk (size + count) (offset + count) bytes =
      (walk size offset bytes).mapError (Fault.movedBy count) := by
  cases read : Header.read? bytes with
  | none =>
    rw [walk_of_refused read, walk_of_refused read]
    rfl
  | some found =>
    obtain ⟨header, rest⟩ := found
    have front : bytes.take Header.size = header.encode := by
      rw [Header.encode_of_read? read]
      exact List.take_left' (Header.length_encode header)
    rw [walk_of_front front, walk_of_front front, lengthFault?_moved]
    cases good : lengthFault? header offset size with
    | some fault => rfl
    | none =>
      simp only [Option.map_none]
      cases stepped : step header bytes with
      | error fault =>
        exact congrArg Except.error (movedBy_of_step count stepped).symm
      | ok outcome =>
        dsimp only
        split
        · have shorter := skip_shrinks read good
          have behind := walk_moved count size (offset + span header) (bytes.drop (span header))
          rw [Nat.add_right_comm, behind, mapError_map]
        · rfl
termination_by bytes.length
decreasing_by exact shorter

/-! ## Frames -/

/-- A whole message in a datagram, its padding included. -/
structure Frame where
  header : Header
  bytes : Bytes
  front : bytes.take Header.size = header.encode
  covers : Header.size ≤ header.length.toNat
  whole : bytes.length = span header

namespace Frame

/-- The message is about a connection or skipped. -/
def silent (frame : Frame) : Bool :=
  frame.header.purpose != .error && frame.header.purpose != .done

theorem length_le (frame : Frame) : frame.header.length.toNat ≤ frame.bytes.length :=
  frame.whole ▸ le_roundUp4 _

theorem take_append (frame : Frame) (rest : Bytes) :
    (frame.bytes ++ rest).take Header.size = frame.header.encode := by
  rw [List.take_append_of_le_length (Nat.le_trans frame.covers frame.length_le), frame.front]

theorem drop_append (frame : Frame) (rest : Bytes) :
    (frame.bytes ++ rest).drop (span frame.header) = rest :=
  List.drop_left' frame.whole

end Frame

/-- Messages back to back. -/
def joined (frames : List Frame) : Bytes := frames.flatMap Frame.bytes

/-- The outcomes among entries, in order. -/
def codes (entries : List Entry) : List Int32 := entries.filterMap outcome?

/-- The outcomes that a walk finds, in order. -/
def reported (result : Except Fault (List Entry)) : Except Fault (List Int32) := result.map codes

theorem codes_append (front behind : List Entry) :
    codes (front ++ behind) = codes front ++ codes behind :=
  List.filterMap_append

/-- A silent message leaves no outcome and does not stop the walk. -/
theorem step_of_silent {header : Header} (bytes : Bytes) (notError : header.purpose ≠ .error)
    (notDone : header.purpose ≠ .done) :
    ∃ outcome, step header bytes = .ok outcome ∧ outcome.goesOn ∧ codes outcome.entries = [] := by
  cases purpose : header.purpose with
  | error => exact absurd purpose notError
  | done => exact absurd purpose notDone
  | conntrack operation =>
    obtain ⟨outcome, stepped, goesOn, said⟩ := step_of_conntrack bytes purpose
    refine ⟨outcome, stepped, goesOn, ?_⟩
    rw [said]
    cases (Record.decode? header (bytes.drop Header.size)).1 <;> rfl
  | noop => exact ⟨.skip, by rw [step, purpose], rfl, rfl⟩
  | overrun => exact ⟨.skip, by rw [step, purpose], rfl, rfl⟩
  | foreign => exact ⟨.skip, by rw [step, purpose], rfl, rfl⟩

namespace Frame

theorem step_of_silent (frame : Frame) (silent : frame.silent) (bytes : Bytes) :
    ∃ outcome, step frame.header bytes = .ok outcome ∧ outcome.goesOn ∧
      codes outcome.entries = [] := by
  rw [Frame.silent, Bool.and_eq_true, bne_iff_ne, bne_iff_ne] at silent
  exact Datagram.step_of_silent bytes silent.1 silent.2

/-- The step of a message that is not silent looks at its own bytes only. -/
theorem step_of_loud (frame : Frame) (loud : ¬ frame.silent) (rest : Bytes) :
    step frame.header (frame.bytes ++ rest) = step frame.header frame.bytes := by
  have purpose : frame.header.purpose = .error ∨ frame.header.purpose = .done := by
    rw [Frame.silent, Bool.and_eq_true, bne_iff_ne, bne_iff_ne] at loud
    by_cases error : frame.header.purpose = .error
    · exact .inl error
    · exact .inr (Decidable.byContradiction fun notDone => loud ⟨error, notDone⟩)
  rcases purpose with purpose | purpose
  · rw [step, step, purpose, List.take_append_of_le_length frame.length_le]
  · rw [step, step, purpose]

/-- The outcomes from a message on, given those behind it. -/
def report (frame : Frame) (behind : Except Fault (List Int32)) : Except Fault (List Int32) :=
  match step frame.header frame.bytes with
  | .error fault => .error fault
  | .ok outcome =>
    if outcome.goesOn then behind.map (codes outcome.entries ++ ·) else .ok (codes outcome.entries)

theorem report_of_silent {frame : Frame} (silent : frame.silent)
    (behind : Except Fault (List Int32)) : frame.report behind = behind := by
  obtain ⟨outcome, stepped, goesOn, said⟩ := frame.step_of_silent silent frame.bytes
  simp only [report, stepped, goesOn, said]
  cases behind <;> rfl

theorem report_mapError (frame : Frame) (count : Nat) (behind : Except Fault (List Int32)) :
    frame.report (behind.mapError (Fault.movedBy count)) =
      (frame.report behind).mapError (Fault.movedBy count) := by
  simp only [report]
  cases stepped : step frame.header frame.bytes with
  | error fault =>
    exact congrArg Except.error (movedBy_of_step count stepped).symm
  | ok outcome =>
    dsimp only
    split
    · rw [mapError_map]
    · rfl

theorem reported_map (outcome : Step) (result : Except Fault (List Entry)) :
    reported (result.map (outcome.entries ++ ·)) =
      (reported result).map (codes outcome.entries ++ ·) := by
  cases result with
  | error fault => rfl
  | ok entries => exact congrArg Except.ok (codes_append _ _)

/-- The walk over one message, as far as outcomes go. -/
theorem reported_walk (frame : Frame) (rest : Bytes) {size offset : Nat}
    (inside : offset + frame.bytes.length ≤ size) :
    reported (walk size offset (frame.bytes ++ rest)) =
      frame.report (reported (walk size (offset + frame.bytes.length) rest)) := by
  have good : lengthFault? frame.header offset size = none :=
    lengthFault?_eq_none.mpr ⟨frame.covers, by have := frame.length_le; omega⟩
  rw [walk_of_front (frame.take_append rest), good, frame.drop_append, ← frame.whole]
  by_cases silent : frame.silent
  · obtain ⟨outcome, stepped, goesOn, said⟩ := frame.step_of_silent silent (frame.bytes ++ rest)
    rw [report_of_silent silent, stepped]
    simp only [goesOn, if_true, reported_map, said]
    cases reported (walk size (offset + frame.bytes.length) rest) <;> rfl
  · rw [frame.step_of_loud silent, report]
    cases step frame.header frame.bytes with
    | error fault => rfl
    | ok outcome =>
      dsimp only
      split
      · exact reported_map outcome _
      · rfl

end Frame

/-- The walk over messages that other bytes follow, as far as outcomes go. -/
theorem reported_walk_joined (frames : List Frame) (tail : Bytes) {size offset : Nat}
    (inside : offset + (joined frames).length ≤ size) :
    reported (walk size offset (joined frames ++ tail)) =
      frames.foldr Frame.report (reported (walk size (offset + (joined frames).length) tail)) := by
  induction frames generalizing offset with
  | nil => rfl
  | cons frame frames ih =>
    have spelled : joined (frame :: frames) = frame.bytes ++ joined frames := by simp [joined]
    rw [spelled, List.length_append] at inside
    rw [spelled, List.append_assoc, frame.reported_walk _ (by omega), ih (by omega),
      List.length_append, Nat.add_assoc]
    rfl

theorem foldr_report_filter (frames : List Frame) (behind : Except Fault (List Int32)) :
    (frames.filter fun frame => !frame.silent).foldr Frame.report behind =
      frames.foldr Frame.report behind := by
  induction frames with
  | nil => rfl
  | cons frame frames ih =>
    cases silent : frame.silent with
    | true => simp [silent, ih, Frame.report_of_silent silent]
    | false => simp [silent, ih]

theorem foldr_report_mapError (frames : List Frame) (count : Nat)
    (behind : Except Fault (List Int32)) :
    frames.foldr Frame.report (behind.mapError (Fault.movedBy count)) =
      (frames.foldr Frame.report behind).mapError (Fault.movedBy count) := by
  induction frames with
  | nil => rfl
  | cons frame frames ih => rw [List.foldr_cons, ih, Frame.report_mapError, List.foldr_cons]

theorem length_joined_filter (frames : List Frame) :
    (joined frames).length = (joined (frames.filter fun frame => !frame.silent)).length +
      (joined (frames.filter Frame.silent)).length := by
  induction frames with
  | nil => rfl
  | cons frame frames ih =>
    simp only [joined, List.flatMap_cons, List.length_append] at ih ⊢
    cases silent : frame.silent <;> simp [silent, ih] <;> omega

/-- A silent message at the end of a datagram leaves no outcome, with or without its padding. -/
theorem reported_walk_last {frame : Frame} (silent : frame.silent) {count size offset : Nat}
    (covers : frame.header.length.toNat ≤ count)
    (inside : offset + (frame.bytes.take count).length ≤ size) :
    reported (walk size offset (frame.bytes.take count)) = .ok [] := by
  have length := frame.length_le
  rw [List.length_take] at inside
  have good : lengthFault? frame.header offset size = none :=
    lengthFault?_eq_none.mpr ⟨frame.covers, by omega⟩
  have front : (frame.bytes.take count).take Header.size = frame.header.encode := by
    rw [List.take_take, Nat.min_eq_left (Nat.le_trans frame.covers covers), frame.front]
  have last : (frame.bytes.take count).length ≤ span frame.header := by
    rw [← frame.whole]
    exact List.length_take_le' _ _
  obtain ⟨outcome, stepped, -, said⟩ := frame.step_of_silent silent (frame.bytes.take count)
  rw [walk_of_last front good stepped last]
  exact congrArg Except.ok said

end Datagram

open Datagram

/-- The failure after so many bytes were put in front of the message that it is about. -/
def Failure.movedBy (count : Nat) : Failure → Failure
  | .datagram fault => .datagram (fault.movedBy count)
  | failure => failure

/-- What the first outcome in a reply says about the request. -/
def verdict : Option Int32 → Except Failure Unit
  | none => .error .noAcknowledgement
  | some code => if code = 0 then .ok () else .error (.ofCode code)

theorem acknowledged_of_entries {reply : Bytes} {said : List Entry}
    (accepted : entries reply = .ok said) :
    acknowledged reply = verdict (said.findSome? outcome?) := by
  rw [acknowledged, accepted]
  dsimp only
  cases said.findSome? outcome? <;> rfl

theorem acknowledged_of_refused {reply : Bytes} {fault : Fault}
    (refused : entries reply = .error fault) : acknowledged reply = .error (.datagram fault) := by
  rw [acknowledged, refused]

/-- What the outcomes in a reply say about the request. -/
def settle : Except Fault (List Int32) → Except Failure Unit
  | .error fault => .error (.datagram fault)
  | .ok codes => verdict codes.head?

/-- Only the outcomes in a reply matter. -/
theorem acknowledged_eq_settle (reply : Bytes) :
    acknowledged reply = settle (reported (entries reply)) := by
  cases walked : entries reply with
  | error fault => exact acknowledged_of_refused walked
  | ok said =>
    rw [acknowledged_of_entries walked, reported, Except.map, settle, codes, List.head?_filterMap]

theorem movedBy_ofCode (count : Nat) (code : Int32) :
    (Failure.ofCode code).movedBy count = .ofCode code := by
  simp only [Failure.ofCode]
  split
  · rfl
  · split <;> rfl

theorem settle_mapError (count : Nat) (result : Except Fault (List Int32)) :
    settle (result.mapError (Fault.movedBy count)) =
      (settle result).mapError (Failure.movedBy count) := by
  cases result with
  | error fault => rfl
  | ok codes =>
    change verdict codes.head? = (verdict codes.head?).mapError (Failure.movedBy count)
    cases codes.head? with
    | none => rfl
    | some code =>
      rw [verdict]
      split
      · rfl
      · exact congrArg Except.error (movedBy_ofCode count code).symm

/-- Without its silent messages a reply says the same. -/
theorem acknowledged_loud (frames : List Frame) (tail : Bytes) :
    acknowledged (joined frames ++ tail) =
      (acknowledged (joined (frames.filter fun frame => !frame.silent) ++ tail)).mapError
        (Failure.movedBy (joined (frames.filter Frame.silent)).length) := by
  have length := length_joined_filter frames
  have size : (joined frames ++ tail).length =
      (joined (frames.filter fun frame => !frame.silent) ++ tail).length +
        (joined (frames.filter Frame.silent)).length := by
    rw [List.length_append, List.length_append, length]
    omega
  rw [acknowledged_eq_settle, acknowledged_eq_settle, entries, entries, ← settle_mapError,
    reported_walk_joined frames tail (by rw [List.length_append]; omega),
    reported_walk_joined _ tail (by rw [List.length_append]; omega), ← foldr_report_mapError,
    foldr_report_filter, size, length, ← Nat.add_assoc, walk_moved, reported, reported,
    mapError_map]

/-- A silent message at the end of a reply changes nothing, with or without its padding. -/
theorem acknowledged_last (frames : List Frame) {last : Frame} (silent : last.silent) {count : Nat}
    (covers : last.header.length.toNat ≤ count) :
    acknowledged (joined frames ++ last.bytes.take count) = acknowledged (joined frames) := by
  have alone := reported_walk_joined frames [] (Nat.le_of_eq (Nat.zero_add _))
  rw [List.append_nil, walk_nil] at alone
  have inside : 0 + (joined frames).length + (last.bytes.take count).length ≤
      (joined frames ++ last.bytes.take count).length := by
    simp only [List.length_append]
    omega
  rw [acknowledged_eq_settle, acknowledged_eq_settle, entries, entries, alone,
    reported_walk_joined frames _ (by rw [List.length_append]; omega),
    reported_walk_last silent covers inside]
  rfl

end Conntrack
