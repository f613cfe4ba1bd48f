import Conntrack.Proofs.FrameChain

/-!
# Bad frames and bytes put behind a datagram

A datagram is refused exactly if a frame of its chain is bad, and the first bad
frame tells why (`first_bad_frame_decides`). Bytes that are put behind a datagram
do not matter if the walk came to its end at a frame, one that is final or one
whose own bytes make it bad (`entries_append`): the walk never looked behind the
header of that frame except for the bytes that the frame declares. They matter
if the bytes were used up before, and for a frame that declares more than was
left.
-/

namespace Conntrack.Datagram

open Wire Message Connection

/-- The walk came to its end at a frame whose own bytes ended it: a message that
nothing follows, a length below the header's own, or an outcome without its code. -/
def Conclusive : Except Fault (List Entry) → Prop
  | .ok all => ∃ said, all.getLast? = some said ∧ said.Closes
  | .error (.lengthBelowHeader _) => True
  | .error (.lengthBeyondEnd _ _ _) => False
  | .error (.codeMissing _) => True

variable {datagram : Bytes} {offset : Nat} {header : Header}

/-! ## More bytes behind -/

theorem agreeTo_append {count : Nat} (tail : Bytes) (inside : count ≤ datagram.length) :
    AgreeTo count datagram (datagram ++ tail) :=
  (List.take_append_of_le_length inside).symm

/-- A frame that is bad for its own bytes is bad in a longer datagram too. -/
theorem frameFault?_of_le {fault : Fault} {size more : Nat}
    (bad : frameFault? header offset size = some fault) (own : Conclusive (.error fault))
    (le : size ≤ more) : frameFault? header offset more = some fault := by
  simp only [frameFault?] at bad ⊢
  split at bad
  · next low => rwa [if_pos low]
  · next covers =>
    rw [if_neg covers]
    split at bad
    · cases bad
      cases own
    · next inside =>
      have within : ¬ more < offset + header.length.toNat := by omega
      rwa [if_neg within]

/-- The step at an end marker or an outcome looks at the declared bytes only. -/
theorem step_append_of_control {bytes : Bytes} (tail : Bytes)
    (control : header.type = doneType ∨ header.type = errorType)
    (inside : header.length.toNat ≤ bytes.length) :
    step header (bytes ++ tail) = step header bytes := by
  rcases control with typed | typed
  · rw [step, step, Header.purpose_eq_done_iff.mpr typed]
  · rw [step, step, Header.purpose_eq_error_iff.mpr typed, List.take_append_of_le_length inside]

theorem Final.control (final : Final datagram offset header) :
    header.type = doneType ∨ header.type = errorType :=
  final.imp id And.left

theorem checkedStep_append_of_final {said : Entry} (tail : Bytes)
    (met : HeaderAt datagram offset header) (final : Final datagram offset header)
    (answered : checkedStep header offset datagram.length (datagram.drop offset) =
      .ok (.last said)) :
    checkedStep header offset (datagram ++ tail).length ((datagram ++ tail).drop offset) =
      .ok (.last said) := by
  obtain ⟨long, outcome⟩ := checkedStep_eq_ok_iff.mp answered
  have present := size_le_of_headerAt met
  have inside := length_le_drop long
  obtain ⟨covers, within⟩ := lengthFault?_eq_none.mp long
  rw [checkedStep_eq_ok_iff, lengthFault?_eq_none, List.length_append,
    List.drop_append_of_le_length (by omega), step_append_of_control tail final.control inside]
  exact ⟨⟨covers, by omega⟩, outcome⟩

/-- Where the walk meets a header it comes to in a longer datagram as well, by the same entries. -/
theorem Stands.append {before : List Entry} (stands : Stands datagram offset before)
    (met : HeaderAt datagram offset header) (tail : Bytes) :
    Stands (datagram ++ tail) offset before ∧ HeaderAt (datagram ++ tail) offset header := by
  have present := size_le_of_headerAt met
  have sized : FamilyHeader.size ≤ Header.size := by decide
  have agree := agreeTo_append tail present
  exact ⟨(agree.mono (by omega)).stands stands, agree.headerAt met⟩

/-- No bytes behind a datagram change the result of a walk that came to its end at a frame. -/
theorem entries_append (conclusive : Conclusive (entries datagram)) (tail : Bytes) :
    entries (datagram ++ tail) = entries datagram := by
  cases ending datagram with
  | exhausted stands short walked =>
    rw [walked] at conclusive
    obtain ⟨said, last, closes⟩ := conclusive
    exact absurd closes (stands.not_closes said (List.mem_of_getLast? last))
  | refused stands met bad walked =>
    rw [walked] at conclusive ⊢
    obtain ⟨standsAlso, metAlso⟩ := stands.append met tail
    have longer : datagram.length ≤ (datagram ++ tail).length := by
      rw [List.length_append]
      omega
    exact entries_of_bad_frame standsAlso metAlso (frameFault?_of_le bad conclusive longer)
  | stopped stands met final answered walked =>
    obtain ⟨standsAlso, metAlso⟩ := stands.append met tail
    rw [walked, entries_of_stands standsAlso, walk_of_checkedStep metAlso,
      checkedStep_append_of_final tail met final answered]
    rfl

/-! ## The first bad frame -/

/-- The result of the walk is an error exactly if a frame of the chain is bad,
and the first bad one decides which error. A bad frame has its whole header in the
datagram, and one about a connection is bad for its declared length only. Once
the walk has come to its end at a frame, the result stays the same whatever
is put behind the datagram. -/
theorem first_bad_frame_decides (datagram : Bytes) :
    (∀ fault, entries datagram = .error fault ↔
      ∃ index offset header, FrameAt datagram index offset header ∧
        frameFault? header offset datagram.length = some fault ∧
        ∀ earlier < index, ∀ place before, FrameAt datagram earlier place before →
          frameFault? before place datagram.length = none) ∧
    ((∃ fault, entries datagram = .error fault) ↔
      ∃ index offset header, FrameAt datagram index offset header ∧
        frameFault? header offset datagram.length ≠ none) ∧
    (∀ index offset header, FrameAt datagram index offset header →
      frameFault? header offset datagram.length ≠ none →
        offset + 16 ≤ datagram.length ∧ (header.subsystem = conntrackSubsystem →
          header.length.toNat < 16 ∨ datagram.length < offset + header.length.toNat)) ∧
    ∀ tail, Conclusive (entries datagram) → entries (datagram ++ tail) = entries datagram := by
  refine ⟨fun fault => entries_eq_error_iff, ⟨?_, ?_⟩, ?_, fun tail ended => entries_append ended tail⟩
  · rintro ⟨fault, failed⟩
    obtain ⟨index, offset, header, frame, bad, -⟩ := entries_eq_error_iff.mp failed
    exact ⟨index, offset, header, frame, bad ▸ nofun⟩
  · rintro ⟨index, offset, header, frame, bad⟩
    exact frame.refused_of_bad bad
  · intro index offset header frame bad
    refine ⟨size_le_of_headerAt frame.met, fun own => ?_⟩
    apply Decidable.byContradiction
    intro good
    obtain ⟨covers, inside⟩ := not_or.mp good
    have foreign : ¬ (header.type = errorType ∧ header.length.toNat < 20) := by
      rintro ⟨typed, -⟩
      rw [Header.subsystem, typed] at own
      revert own
      decide
    exact bad (by simp [frameFault?, covers, inside, foreign])

/-! An acknowledgement, and an outcome that ends in the middle of its code. -/

def shortHeader : Header := ⟨18, errorType, 0, 1, 0⟩

def shortOutcome : Bytes :=
  Header.encode ⟨20, errorType, 0, 1, 0⟩ ++ [0, 0, 0, 0] ++ shortHeader.encode ++ [254, 255]

theorem frameAt_shortOutcome : FrameAt shortOutcome 1 20 shortHeader := by
  have front : FrameAt shortOutcome 0 0 ⟨20, errorType, 0, 1, 0⟩ := .first (by decide)
  exact .next front (by unfold Final; decide) (by decide)

theorem first_bad_frame_decides_short :
    entries shortOutcome = .error (.codeMissing 18) ∧
      ∀ tail, entries (shortOutcome ++ tail) = .error (.codeMissing 18) := by
  obtain ⟨decides, -, -, behind⟩ := first_bad_frame_decides shortOutcome
  have failed : entries shortOutcome = .error (.codeMissing 18) := by
    refine (decides _).mpr ⟨1, 20, shortHeader, frameAt_shortOutcome, by decide, ?_⟩
    intro earlier lt place before frame
    obtain rfl := Nat.lt_one_iff.mp lt
    cases frame with
    | first met =>
      obtain rfl := headerAt_unique met (show HeaderAt shortOutcome 0 ⟨20, errorType, 0, 1, 0⟩ by decide)
      decide
  rw [failed] at behind
  exact ⟨failed, fun tail => behind tail trivial⟩

end Conntrack.Datagram
