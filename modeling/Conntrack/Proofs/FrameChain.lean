import Conntrack.Proofs.Isolation

/-!
# The chain of frames

A frame is what a header declares. The first one stands at the front of a
datagram and each other one behind the padding of the one before it, as long as
a whole header is left and no earlier frame was an end marker or an outcome
other than zero (`FrameAt`). The chain is read off the headers and the codes of
outcomes alone, and goes on behind bad frames as well.

The walk follows the chain up to the first frame that is bad or final, or to the
end of the bytes (`ending`). What it does at one frame is said once, by `stepped`
for the step at a message and by `passage` for the frame; the frames in front are
those that it has passed (`FrameAt.exists_stands`, `Stands.exists_frame`).
-/

namespace Conntrack.Message

namespace Header

variable {header : Header}

theorem purpose_eq_done_iff : header.purpose = .done ↔ header.type = doneType := by
  grind [purpose]

theorem purpose_eq_error_iff : header.purpose = .error ↔ header.type = errorType := by
  grind [purpose, doneType, errorType]

theorem operation_of_purpose {operation : UInt8} (tracked : header.purpose = .conntrack operation) :
    header.subsystem = conntrackSubsystem ∧ operation = header.operation := by
  grind [purpose]

end Header

end Conntrack.Message

namespace Conntrack.Wire

theorem hostWord32_injective {word other : UInt32} (same : hostWord32 word = hostWord32 other) :
    word = other := by
  have read := hostWord32?_append word []
  rw [same, hostWord32?_append] at read
  exact (congrArg Prod.fst (Option.some.inj read)).symm

end Conntrack.Wire

namespace Conntrack.Connection.Record

open Wire Message

theorem header_of_decode? {header : Header} {bytes : Bytes} {record : Record}
    (decoded : (decode? header bytes).1 = some record) : record.header = header := by
  by_cases present : windowLength header ≤ bytes.length
  · obtain ⟨other, found, told⟩ := decode?_of_present present
    rw [decoded] at found
    rwa [Option.some.inj found]
  · rw [decode?_of_missing (Nat.lt_of_not_le present)] at decoded
    cases decoded

end Conntrack.Connection.Record

namespace Conntrack.Datagram

open Wire Message Connection

/-! ## What a step can be -/

/-- Nothing follows such an entry: an end marker, or an outcome other than an
acknowledgement. -/
inductive Entry.Closes : Entry → Prop
  | done : Closes .done
  | refusal {code : Int32} (refused : code ≠ 0) : Closes (.outcome code)

/-- All that the step at a message can be, if the message has its declared length. -/
inductive Stepped (header : Header) (bytes : Bytes) : Except Fault Step → Prop
  | done (typed : header.type = doneType) : Stepped header bytes (.ok (.last .done))
  | refusal {raw : Int32} (typed : header.type = errorType) (covers : 20 ≤ header.length.toNat)
      (coded : (bytes.drop Header.size).take 4 = hostWord32 raw.toUInt32) (refused : raw ≠ 0) :
      Stepped header bytes (.ok (.last (.outcome (-raw))))
  | acknowledgement (typed : header.type = errorType) (covers : 20 ≤ header.length.toNat)
      (coded : (bytes.drop Header.size).take 4 = hostWord32 0) :
      Stepped header bytes (.ok (.entry (.outcome 0)))
  | codeMissing (typed : header.type = errorType) (short : header.length.toNat < 20) :
      Stepped header bytes (.error (.codeMissing header.length.toNat))
  | skipped (notDone : header.type ≠ doneType) (notError : header.type ≠ errorType) :
      Stepped header bytes (.ok .skip)
  | tracked {record : Record} (notDone : header.type ≠ doneType)
      (notError : header.type ≠ errorType) (own : header.subsystem = conntrackSubsystem)
      (same : record.header = header) :
      Stepped header bytes (.ok (.entry (.tracked (Event.ofOperation header.operation) record)))

theorem outcomeCode_of_whole {bytes : Bytes} {length : Nat} (covers : 20 ≤ length)
    (inside : length ≤ bytes.length) :
    ∃ raw : Int32, (bytes.drop Header.size).take 4 = hostWord32 raw.toUInt32 ∧
      outcomeCode (bytes.take length) = .ok (-raw) := by
  cases read : hostWord32? ((bytes.take length).drop Header.size) with
  | none =>
    have short := take?_eq_none.mp (Option.map_eq_none_iff.mp read)
    rw [List.length_drop, List.length_take_of_le inside, Header.size] at short
    omega
  | some found =>
    obtain ⟨word, rest⟩ := found
    refine ⟨word.toInt32, ?_, by rw [outcomeCode, read]⟩
    have spelled := hostWord32?_eq_some read
    have four : (hostWord32 word).length = 4 := length_littleEndian _ _
    have front : (bytes.drop Header.size).take 4 =
        (((bytes.take length).drop Header.size)).take 4 := by
      rw [List.drop_take, List.take_take, Nat.min_eq_left (by unfold Header.size; omega)]
    rw [front, spelled, UInt32.toUInt32_toInt32]
    exact List.take_left' four

theorem outcomeCode_of_short {bytes : Bytes} {length : Nat} (short : length < 20)
    (inside : length ≤ bytes.length) :
    outcomeCode (bytes.take length) = .error (.codeMissing length) := by
  have missing : ((bytes.take length).drop Header.size).length < 4 := by
    rw [List.length_drop, List.length_take_of_le inside, Header.size]
    omega
  have unread : hostWord32? ((bytes.take length).drop Header.size) = none :=
    Option.map_eq_none_iff.mpr (take?_eq_none.mpr missing)
  rw [outcomeCode, unread, List.length_take_of_le inside]

theorem stepped (header : Header) (bytes : Bytes) (inside : header.length.toNat ≤ bytes.length) :
    Stepped header bytes (step header bytes) := by
  have notDone (other : header.purpose ≠ .done) : header.type ≠ doneType :=
    mt Header.purpose_eq_done_iff.mpr other
  have notError (other : header.purpose ≠ .error) : header.type ≠ errorType :=
    mt Header.purpose_eq_error_iff.mpr other
  unfold step
  cases purpose : header.purpose with
  | done => exact .done (Header.purpose_eq_done_iff.mp purpose)
  | error =>
    have typed := Header.purpose_eq_error_iff.mp purpose
    dsimp only
    by_cases covers : 20 ≤ header.length.toNat
    · obtain ⟨raw, coded, outcome⟩ := outcomeCode_of_whole covers inside
      rw [outcome]
      dsimp only
      by_cases zero : raw = 0
      · subst zero
        exact .acknowledgement typed covers coded
      · have refused : -raw ≠ 0 := mt negated_eq_zero_iff.mp zero
        rw [if_neg refused]
        exact .refusal typed covers coded zero
    · have short : header.length.toNat < 20 := Nat.lt_of_not_le covers
      rw [outcomeCode_of_short short inside]
      exact .codeMissing typed short
  | conntrack operation =>
    obtain ⟨own, rfl⟩ := Header.operation_of_purpose purpose
    dsimp only
    cases decoded : (Record.decode? header (bytes.drop Header.size)).1 with
    | none => exact .skipped (notDone (purpose ▸ nofun)) (notError (purpose ▸ nofun))
    | some record =>
      exact .tracked (notDone (purpose ▸ nofun)) (notError (purpose ▸ nofun)) own
        (Record.header_of_decode? decoded)
  | noop => exact .skipped (notDone (purpose ▸ nofun)) (notError (purpose ▸ nofun))
  | overrun => exact .skipped (notDone (purpose ▸ nofun)) (notError (purpose ▸ nofun))
  | foreign => exact .skipped (notDone (purpose ▸ nofun)) (notError (purpose ▸ nofun))

theorem Entry.not_closes_tracked {event : Event} {record : Record} :
    ¬ (Entry.tracked event record).Closes := nofun

theorem Entry.not_closes_acknowledgement : ¬ (Entry.outcome 0).Closes := by
  intro closes
  cases closes with
  | refusal refused => exact refused rfl

/-- The walk goes on behind no entry that closes it. -/
theorem not_closes_of_goesOn {header : Header} {bytes : Bytes} {outcome : Step}
    (inside : header.length.toNat ≤ bytes.length) (answered : step header bytes = .ok outcome)
    (goesOn : outcome.goesOn) : ∀ said ∈ outcome.entries, ¬ said.Closes := by
  have possible := stepped header bytes inside
  rw [answered] at possible
  intro said member
  cases possible with
  | done typed => cases goesOn
  | refusal typed covers coded refused => cases goesOn
  | acknowledgement typed covers coded =>
    rw [List.mem_singleton.mp member]
    exact Entry.not_closes_acknowledgement
  | skipped notDone notError => cases member
  | tracked notDone notError own same =>
    rw [List.mem_singleton.mp member]
    exact Entry.not_closes_tracked

/-- The step at a message, its declared length looked at first. -/
def checkedStep (header : Header) (offset size : Nat) (bytes : Bytes) : Except Fault Step :=
  match lengthFault? header offset size with
  | some fault => .error fault
  | none => step header bytes

theorem walk_of_checkedStep {size offset : Nat} {bytes : Bytes} {header : Header}
    (front : bytes.take Header.size = header.encode) :
    walk size offset bytes = match checkedStep header offset size bytes with
      | .error fault => .error fault
      | .ok outcome => if outcome.goesOn then
        (walk size (offset + span header) (bytes.drop (span header))).map (outcome.entries ++ ·)
        else .ok outcome.entries := by
  rw [walk_of_front front, checkedStep]
  cases lengthFault? header offset size <;> rfl

theorem checkedStep_eq_ok_iff {header : Header} {offset size : Nat} {bytes : Bytes} {outcome : Step} :
    checkedStep header offset size bytes = .ok outcome ↔
      lengthFault? header offset size = none ∧ step header bytes = .ok outcome := by
  rw [checkedStep]
  cases lengthFault? header offset size <;> simp

/-! ## Frames -/

/-- Nothing behind the frame is reached: it is an end marker, or an outcome
whose code is not zero. -/
def Final (datagram : Bytes) (offset : Nat) (header : Header) : Prop :=
  header.type = doneType ∨
    header.type = errorType ∧ (datagram.drop (offset + Header.size)).take 4 ≠ [0, 0, 0, 0]

/-- The frame with a number, counted from zero, starts at `offset` with `header`. -/
inductive FrameAt (datagram : Bytes) : Nat → Nat → Header → Prop
  | first {header : Header} (met : HeaderAt datagram 0 header) : FrameAt datagram 0 0 header
  | next {index offset : Nat} {header follower : Header} (here : FrameAt datagram index offset header)
      (goesOn : ¬ Final datagram offset header)
      (met : HeaderAt datagram (offset + span header) follower) :
      FrameAt datagram (index + 1) (offset + span header) follower

/-- What is wrong with a frame in a datagram of a size: it declares less than its
header, or more than is left, or it has no room for the code of an outcome. -/
def frameFault? (header : Header) (offset size : Nat) : Option Fault :=
  let length := header.length.toNat
  if length < 16 then some (.lengthBelowHeader length)
  else if size < offset + length then some (.lengthBeyondEnd length offset size)
  else if header.type = errorType ∧ length < 20 then some (.codeMissing length)
  else none

variable {datagram : Bytes} {offset : Nat} {header : Header}

theorem headerAt_unique {other : Header} (met : HeaderAt datagram offset header)
    (also : HeaderAt datagram offset other) : header = other := by
  have read := Header.read?_of_take met
  rw [Header.read?_of_take also] at read
  exact (congrArg Prod.fst (Option.some.inj read)).symm

theorem size_le_of_headerAt (met : HeaderAt datagram offset header) :
    offset + Header.size ≤ datagram.length := by
  have lengths := congrArg List.length met
  rw [List.length_take, List.length_drop, Header.length_encode] at lengths
  unfold Header.size at *
  omega

namespace FrameAt

theorem met {index : Nat} (frame : FrameAt datagram index offset header) :
    HeaderAt datagram offset header := by
  cases frame with
  | first met => exact met
  | next here goesOn met => exact met

theorem unique {index place : Nat} {other : Header} (frame : FrameAt datagram index offset header)
    (also : FrameAt datagram index place other) : offset = place ∧ header = other := by
  induction frame generalizing place other with
  | first met =>
    cases also with
    | first met' => exact ⟨rfl, headerAt_unique met met'⟩
  | next here goesOn met ih =>
    cases also with
    | next here' goesOn' met' =>
      obtain ⟨rfl, rfl⟩ := ih here'
      exact ⟨rfl, headerAt_unique met met'⟩

end FrameAt

/-- What the walk does at a frame. -/
inductive Passage (datagram : Bytes) (offset : Nat) (header : Header) : Prop
  | refused {fault : Fault} (bad : frameFault? header offset datagram.length = some fault)
      (stepped : checkedStep header offset datagram.length (datagram.drop offset) = .error fault)
  | stopped {said : Entry} (good : frameFault? header offset datagram.length = none)
      (final : Final datagram offset header)
      (stepped : checkedStep header offset datagram.length (datagram.drop offset) = .ok (.last said))
  | passed {outcome : Step} (good : frameFault? header offset datagram.length = none)
      (notFinal : ¬ Final datagram offset header)
      (stepped : checkedStep header offset datagram.length (datagram.drop offset) = .ok outcome)
      (goesOn : outcome.goesOn)

theorem doneType_ne_errorType : doneType ≠ errorType := by decide

/-- A code is zero exactly if its four bytes are. -/
theorem hostWord32_toUInt32_eq_zero_iff {raw : Int32} :
    hostWord32 raw.toUInt32 = [0, 0, 0, 0] ↔ raw = 0 := by
  constructor
  · intro zero
    have word : raw.toUInt32 = Int32.toUInt32 0 := hostWord32_injective zero
    have value := congrArg UInt32.toInt32 word
    rwa [Int32.toInt32_toUInt32, Int32.toInt32_toUInt32] at value
  · rintro rfl
    rfl

theorem not_final_of_type (notDone : header.type ≠ doneType) (notError : header.type ≠ errorType) :
    ¬ Final datagram offset header := by
  rintro (done | ⟨error, -⟩)
  · exact notDone done
  · exact notError error

/-- A frame of good length is bad only as an outcome without its code. -/
theorem frameFault?_of_long {size : Nat} (long : lengthFault? header offset size = none) :
    frameFault? header offset size =
      if header.type = errorType ∧ header.length.toNat < 20 then
        some (.codeMissing header.length.toNat) else none := by
  obtain ⟨covers, inside⟩ := lengthFault?_eq_none.mp long
  unfold Header.size at covers
  simp [frameFault?, Nat.not_lt.mpr covers, Nat.not_lt.mpr inside]

/-- A frame of bad length is bad for its length. -/
theorem frameFault?_of_lengthFault? {size : Nat} {fault : Fault}
    (bad : lengthFault? header offset size = some fault) :
    frameFault? header offset size = some fault := by
  simp only [lengthFault?] at bad
  simp only [frameFault?]
  split at bad
  · next low =>
    unfold Header.size at low
    rwa [if_pos low]
  · next covers =>
    unfold Header.size at covers
    rw [if_neg covers]
    split at bad
    · next beyond => rwa [if_pos beyond]
    · cases bad

theorem length_le_drop (long : lengthFault? header offset datagram.length = none) :
    header.length.toNat ≤ (datagram.drop offset).length := by
  have inside := (lengthFault?_eq_none.mp long).2
  rw [List.length_drop]
  omega

theorem passage (datagram : Bytes) (offset : Nat) (header : Header) :
    Passage datagram offset header := by
  cases long : lengthFault? header offset datagram.length with
  | some fault => exact .refused (frameFault?_of_lengthFault? long) (by rw [checkedStep, long])
  | none =>
    have fault := frameFault?_of_long long
    have checked : checkedStep header offset datagram.length (datagram.drop offset) =
        step header (datagram.drop offset) := by rw [checkedStep, long]
    have possible := stepped header (datagram.drop offset) (length_le_drop long)
    generalize step header (datagram.drop offset) = answer at checked possible
    cases possible with
    | done typed =>
      have sound : header.type ≠ errorType := typed ▸ doneType_ne_errorType
      exact .stopped (by simp [fault, sound]) (.inl typed) checked
    | refusal typed covers coded refused =>
      rw [List.drop_drop] at coded
      refine .stopped (by simp [fault, Nat.not_lt.mpr covers]) (.inr ⟨typed, ?_⟩) checked
      rw [coded]
      exact mt hostWord32_toUInt32_eq_zero_iff.mp refused
    | acknowledgement typed covers coded =>
      rw [List.drop_drop] at coded
      refine .passed (by simp [fault, Nat.not_lt.mpr covers]) ?_ checked rfl
      rintro (done | ⟨-, other⟩)
      · exact doneType_ne_errorType (done.symm.trans typed)
      · exact other coded
    | codeMissing typed short => exact .refused (by simp [fault, typed, short]) checked
    | skipped notDone notError =>
      exact .passed (by simp [fault, notError]) (not_final_of_type notDone notError) checked rfl
    | tracked notDone notError own same =>
      exact .passed (by simp [fault, notError]) (not_final_of_type notDone notError) checked rfl

/-- No entry that was left on the way to a place closes the walk. -/
theorem Stands.not_closes {before : List Entry} (stands : Stands datagram offset before) :
    ∀ said ∈ before, ¬ said.Closes := by
  induction stands with
  | front => exact List.forall_mem_nil _
  | behind here met long answered goesOn ih =>
    intro said member
    rcases List.mem_append.mp member with earlier | last
    · exact ih said earlier
    · exact not_closes_of_goesOn (length_le_drop long) answered goesOn said last

/-! ## Along the chain -/

/-- All frames in front of the one with a number are good. -/
def GoodBefore (datagram : Bytes) (index : Nat) : Prop :=
  ∀ earlier < index, ∀ place before, FrameAt datagram earlier place before →
    frameFault? before place datagram.length = none

/-- The walk comes to every frame that only good ones stand in front of. -/
theorem FrameAt.exists_stands {index : Nat} (frame : FrameAt datagram index offset header)
    (good : GoodBefore datagram index) : ∃ before, Stands datagram offset before := by
  induction frame with
  | first met => exact ⟨[], .front⟩
  | @next index offset header follower here goesOn met ih =>
    have earlier : GoodBefore datagram index := fun number lt => good number (Nat.lt_succ_of_lt lt)
    obtain ⟨before, stands⟩ := ih earlier
    cases passage datagram offset header with
    | refused bad stepped =>
      rw [good index (Nat.lt_succ_self index) offset header here] at bad
      cases bad
    | stopped sound final stepped => exact absurd final goesOn
    | passed sound notFinal stepped onwards =>
      obtain ⟨long, outcome⟩ := checkedStep_eq_ok_iff.mp stepped
      exact ⟨_, .behind stands here.met long outcome onwards⟩

/-- Where the walk stands in front of a header there is a frame, and only good
ones stand in front of it. -/
theorem Stands.exists_frame {before : List Entry} (stands : Stands datagram offset before)
    (met : HeaderAt datagram offset header) :
    ∃ index, FrameAt datagram index offset header ∧ GoodBefore datagram index := by
  induction stands generalizing header with
  | front => exact ⟨0, .first met, fun _ lt => absurd lt (Nat.not_lt_zero _)⟩
  | @behind offset before passed outcome here metHere long stepped goesOn ih =>
    obtain ⟨index, frame, good⟩ := ih metHere
    have checked := checkedStep_eq_ok_iff.mpr ⟨long, stepped⟩
    cases passage datagram offset passed with
    | refused bad refused =>
      rw [checked] at refused
      cases refused
    | stopped sound final stopped =>
      rw [checked] at stopped
      cases stopped
      cases goesOn
    | passed sound notFinal _ _ =>
      refine ⟨index + 1, .next frame notFinal met, ?_⟩
      intro earlier lt place other also
      rcases Nat.lt_succ_iff_lt_or_eq.mp lt with inside | rfl
      · exact good earlier inside place other also
      · obtain ⟨rfl, rfl⟩ := frame.unique also
        exact sound

/-- How the walk over a datagram ends: no whole header is left where it stands,
or a frame there is bad or final. -/
inductive Ending (datagram : Bytes) : Prop
  | exhausted {place : Nat} {all : List Entry} (stands : Stands datagram place all)
      (short : datagram.length < place + Header.size) (walked : entries datagram = .ok all)
  | refused {place : Nat} {before : List Entry} {header : Header} {fault : Fault}
      (stands : Stands datagram place before) (met : HeaderAt datagram place header)
      (bad : frameFault? header place datagram.length = some fault)
      (walked : entries datagram = .error fault)
  | stopped {place : Nat} {before : List Entry} {header : Header} {said : Entry}
      (stands : Stands datagram place before) (met : HeaderAt datagram place header)
      (final : Final datagram place header)
      (stepped : checkedStep header place datagram.length (datagram.drop place) = .ok (.last said))
      (walked : entries datagram = .ok (before ++ [said]))

theorem ending_of_stands {offset : Nat} {before : List Entry}
    (stands : Stands datagram offset before) : Ending datagram := by
  have whole := entries_of_stands stands
  cases read : Header.read? (datagram.drop offset) with
  | none =>
    have short : datagram.length < offset + Header.size := by
      apply Nat.lt_of_not_le
      intro present
      rw [Header.read?_of_le (by rw [List.length_drop]; omega)] at read
      cases read
    rw [walk_of_refused read, Except.map, List.append_nil] at whole
    exact .exhausted stands short whole
  | some found =>
    obtain ⟨header, rest⟩ := found
    have met : HeaderAt datagram offset header := by
      rw [HeaderAt, Header.encode_of_read? read]
      exact List.take_left' header.length_encode
    rw [walk_of_checkedStep met] at whole
    cases passage datagram offset header with
    | refused bad stepped =>
      rw [stepped] at whole
      exact .refused stands met bad whole
    | stopped good final stepped =>
      rw [stepped] at whole
      exact .stopped stands met final stepped whole
    | passed good notFinal stepped goesOn =>
      obtain ⟨long, outcome⟩ := checkedStep_eq_ok_iff.mp stepped
      have present := size_le_of_headerAt met
      have onwards : Header.size ≤ span header := size_le_span long
      have nearer : datagram.length - (offset + span header) < datagram.length - offset := by
        unfold Header.size at *
        omega
      exact ending_of_stands (.behind stands met long outcome goesOn)
termination_by datagram.length - offset

theorem ending (datagram : Bytes) : Ending datagram := ending_of_stands .front

theorem entries_of_bad_frame {before : List Entry} {fault : Fault}
    (stands : Stands datagram offset before) (met : HeaderAt datagram offset header)
    (bad : frameFault? header offset datagram.length = some fault) :
    entries datagram = .error fault := by
  rw [entries_of_stands stands, walk_of_checkedStep met]
  cases passage datagram offset header with
  | refused also stepped =>
    obtain rfl := Option.some.inj (also.symm.trans bad)
    rw [stepped]
    rfl
  | stopped good final stepped => exact absurd (good.symm.trans bad) nofun
  | passed good notFinal stepped goesOn => exact absurd (good.symm.trans bad) nofun

theorem entries_eq_error_iff {fault : Fault} :
    entries datagram = .error fault ↔ ∃ index offset header, FrameAt datagram index offset header ∧
      frameFault? header offset datagram.length = some fault ∧ GoodBefore datagram index := by
  constructor
  · intro failed
    cases ending datagram with
    | exhausted stands short walked => exact absurd (walked.symm.trans failed) nofun
    | refused stands met bad walked =>
      obtain rfl := Except.error.inj (walked.symm.trans failed)
      obtain ⟨index, frame, good⟩ := stands.exists_frame met
      exact ⟨index, _, _, frame, bad, good⟩
    | stopped stands met final stepped walked => exact absurd (walked.symm.trans failed) nofun
  · rintro ⟨index, offset, header, frame, bad, good⟩
    obtain ⟨before, stands⟩ := frame.exists_stands good
    exact entries_of_bad_frame stands frame.met bad

/-- If any frame is bad there is a first bad one. -/
theorem FrameAt.refused_of_bad {index offset : Nat} {header : Header}
    (frame : FrameAt datagram index offset header)
    (bad : frameFault? header offset datagram.length ≠ none) :
    ∃ fault, entries datagram = .error fault := by
  induction index using Nat.strongRecOn generalizing offset header with
  | ind index ih =>
    by_cases good : GoodBefore datagram index
    · obtain ⟨fault, told⟩ := Option.ne_none_iff_exists'.mp bad
      exact ⟨fault, entries_eq_error_iff.mpr ⟨index, offset, header, frame, told, good⟩⟩
    · simp only [GoodBefore, Classical.not_forall] at good
      obtain ⟨earlier, lt, place, before, also, worse⟩ := good
      exact ih earlier lt also worse

end Conntrack.Datagram
