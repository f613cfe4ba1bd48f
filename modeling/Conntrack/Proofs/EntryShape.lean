import Conntrack.Proofs.FrameChain

/-!
# The shape of a result

Every entry of a datagram comes from a frame of its own, and says what that frame
holds; the frames stand in the order of their entries, sixteen bytes apart at
least (`Stands.exists_origins`). An entry that nothing follows, an end marker or
an outcome other than an acknowledgement, can only be the last one
(`entries_shape`). Frames that are skipped or cannot be decoded leave no entry,
so nothing is said here about how many frames there are.
-/

namespace Conntrack.Message

open Wire

theorem Header.toNat_subsystem (header : Header) :
    header.subsystem.toNat = header.type.toNat / 256 := by
  have small : header.type.toNat < 65536 := header.type.toNat_lt
  rw [Header.subsystem, UInt16.toNat_toUInt8, UInt16.toNat_shiftRight]
  change header.type.toNat >>> 8 % 2 ^ 8 = _
  omega

theorem Header.toNat_operation (header : Header) :
    header.operation.toNat = header.type.toNat % 256 := by
  rw [Header.operation, UInt16.toNat_toUInt8]

end Conntrack.Message

namespace Conntrack.Datagram

open Wire Message Connection

/-- The event that the low byte of a message type announces. -/
def eventOf : Nat → Event
  | 0 => .new
  | 1 => .get
  | 2 => .delete
  | operation => .other (UInt8.ofNat operation)

theorem ofOperation_eq_eventOf (operation : UInt8) :
    Event.ofOperation operation = eventOf operation.toNat := by
  unfold eventOf
  split
  · next low =>
    obtain rfl : operation = Event.newOperation := UInt8.toNat_inj.mp low
    rfl
  · next low =>
    obtain rfl : operation = Event.getOperation := UInt8.toNat_inj.mp low
    rfl
  · next low =>
    obtain rfl : operation = Event.deleteOperation := UInt8.toNat_inj.mp low
    rfl
  · next notNew notGet notDelete =>
    rw [Event.ofOperation, if_neg (mt (congrArg UInt8.toNat) notNew),
      if_neg (mt (congrArg UInt8.toNat) notGet), if_neg (mt (congrArg UInt8.toNat) notDelete),
      UInt8.ofNat_toNat]

/-- An entry and the frame it comes from. -/
structure Origin where
  offset : Nat
  header : Header
  entry : Entry

/-- The entry says what the frame holds: a record has the frame's header, which
is one of connection tracking that covers itself, and the event that the type
announces; an outcome is the negated code behind the header, zero only for zero. -/
def Origin.Tells (datagram : Bytes) (origin : Origin) : Prop :=
  match origin.entry with
  | .tracked event record => record.header = origin.header ∧ 16 ≤ origin.header.length.toNat ∧
      origin.header.type.toNat / 256 = 1 ∧ event = eventOf (origin.header.type.toNat % 256)
  | .done => origin.header.type = doneType
  | .outcome code => origin.header.type = errorType ∧ ∃ raw : Int32,
      (datagram.drop (origin.offset + 16)).take 4 = hostWord32 raw.toUInt32 ∧
        code = -raw ∧ (code = 0 ↔ raw = 0)

/-- One frame ends before the header of the other begins, if only by the least
length that a frame can have. -/
def Origin.Precedes (earlier later : Origin) : Prop := earlier.offset + 16 ≤ later.offset

variable {datagram : Bytes} {offset : Nat} {header : Header}

/-! ## One frame -/

/-- A step leaves nothing, or one entry that says what the frame holds. -/
theorem tells_of_step {outcome : Step} (long : lengthFault? header offset datagram.length = none)
    (answered : step header (datagram.drop offset) = .ok outcome) :
    outcome.entries = [] ∨
      ∃ said, outcome.entries = [said] ∧ (Origin.mk offset header said).Tells datagram := by
  have covers := (lengthFault?_eq_none.mp long).1
  have possible := stepped header (datagram.drop offset) (length_le_drop long)
  rw [answered] at possible
  cases possible with
  | done typed => exact .inr ⟨_, rfl, typed⟩
  | @refusal raw typed whole coded refused =>
    rw [List.drop_drop] at coded
    exact .inr ⟨_, rfl, typed, raw, coded, rfl, negated_eq_zero_iff⟩
  | acknowledgement typed whole coded =>
    rw [List.drop_drop] at coded
    exact .inr ⟨_, rfl, typed, 0, coded, rfl, Iff.rfl⟩
  | skipped notDone notError => exact .inl rfl
  | tracked notDone notError own same =>
    have subsystem : header.type.toNat / 256 = 1 := by
      rw [← header.toNat_subsystem, own]
      rfl
    refine .inr ⟨_, rfl, same, covers, subsystem, ?_⟩
    rw [ofOperation_eq_eventOf, header.toNat_operation]

/-! ## The frames in order -/

/-- The entries come from frames of the chain, one each and in the order of the frames. -/
structure Origins (datagram : Bytes) (origins : List Origin) (entries : List Entry) : Prop where
  entries : origins.map Origin.entry = entries
  ordered : origins.Pairwise Origin.Precedes
  reached : ∀ origin ∈ origins, ∃ index, FrameAt datagram index origin.offset origin.header
  told : ∀ origin ∈ origins, origin.Tells datagram

namespace Origins

variable {origins : List Origin} {before : List Entry}

theorem nil : Origins datagram [] [] where
  entries := rfl
  ordered := .nil
  reached := List.forall_mem_nil _
  told := List.forall_mem_nil _

/-- One more frame behind all others. -/
theorem append {index : Nat} (front : Origins datagram origins before) (origin : Origin)
    (behind : ∀ earlier ∈ origins, earlier.Precedes origin)
    (frame : FrameAt datagram index origin.offset origin.header) (tells : origin.Tells datagram) :
    Origins datagram (origins ++ [origin]) (before ++ [origin.entry]) where
  entries := by rw [List.map_append, front.entries, List.map_singleton]
  ordered := by
    refine List.pairwise_append.mpr ⟨front.ordered, List.pairwise_singleton _ _, ?_⟩
    intro earlier member last only
    rw [List.mem_singleton.mp only]
    exact behind earlier member
  reached := List.forall_mem_append.mpr
    ⟨front.reached, List.forall_mem_singleton.mpr ⟨index, frame⟩⟩
  told := List.forall_mem_append.mpr ⟨front.told, List.forall_mem_singleton.mpr tells⟩

/-- Frames that stand sixteen bytes apart take up sixteen bytes each. -/
theorem length_of_ordered {start size : Nat} (ordered : origins.Pairwise Origin.Precedes)
    (behind : ∀ origin ∈ origins, start ≤ origin.offset)
    (inside : ∀ origin ∈ origins, origin.offset + 16 ≤ size) (le : start ≤ size) :
    start + 16 * origins.length ≤ size := by
  induction origins generalizing start with
  | nil => exact le
  | cons origin origins ih =>
    obtain ⟨precedes, ordered⟩ := List.pairwise_cons.mp ordered
    have here := behind origin List.mem_cons_self
    have fits := inside origin List.mem_cons_self
    have others : ∀ other ∈ origins, other.offset + 16 ≤ size :=
      fun other member => inside other (List.mem_cons_of_mem _ member)
    have later := ih ordered precedes others fits
    rw [List.length_cons]
    omega

theorem length_le (origins' : Origins datagram origins before) :
    16 * before.length ≤ datagram.length := by
  have present : ∀ origin ∈ origins, origin.offset + 16 ≤ datagram.length := by
    intro origin member
    obtain ⟨index, frame⟩ := origins'.reached origin member
    exact size_le_of_headerAt frame.met
  have room := length_of_ordered origins'.ordered (fun _ _ => Nat.zero_le _) present (Nat.zero_le _)
  have lengths : origins.length = before.length := by
    rw [← origins'.entries, List.length_map]
  rwa [Nat.zero_add, lengths] at room

end Origins

/-- The entries left on the way to a place come from frames that lie in front of it. -/
theorem Stands.exists_origins {before : List Entry} (stands : Stands datagram offset before) :
    ∃ origins, Origins datagram origins before ∧
      ∀ origin ∈ origins, origin.offset + 16 ≤ offset := by
  induction stands with
  | front => exact ⟨[], .nil, List.forall_mem_nil _⟩
  | @behind offset before header outcome here met long answered goesOn ih =>
    obtain ⟨origins, front, inside⟩ := ih
    have onwards : offset + 16 ≤ offset + span header := Nat.add_le_add_left (size_le_span long) _
    have further : ∀ origin ∈ origins, origin.offset + 16 ≤ offset + span header :=
      fun origin member => Nat.le_add_right_of_le (inside origin member)
    rcases tells_of_step long answered with nothing | ⟨said, single, tells⟩
    · rw [nothing, List.append_nil]
      exact ⟨origins, front, further⟩
    · obtain ⟨index, frame, -⟩ := here.exists_frame met
      rw [single]
      refine ⟨_, front.append ⟨offset, header, said⟩ inside frame tells, ?_⟩
      exact List.forall_mem_append.mpr ⟨further, List.forall_mem_singleton.mpr onwards⟩

/-- Where nothing but the last entry closes the walk, one that closes it is the last. -/
theorem last_of_closes {before : List Entry} (opened : ∀ said ∈ before, ¬ said.Closes) {last said : Entry}
    {index : Nat} (found : (before ++ [last])[index]? = some said) (closes : said.Closes) :
    index + 1 = (before ++ [last]).length := by
  obtain ⟨inside, same⟩ := List.getElem?_eq_some_iff.mp found
  rw [List.length_append, List.length_singleton] at inside ⊢
  apply Nat.le_antisymm inside
  apply Nat.succ_le_succ
  apply Nat.le_of_not_lt
  intro earlier
  rw [List.getElem_append_left earlier] at same
  exact opened said (same ▸ List.getElem_mem earlier) closes

/-- The result of a walk has at most one entry for sixteen bytes. An end marker or
an outcome other than an acknowledgement is its last entry if it is in it at all.
And every entry comes from a frame of its own and says what that frame holds, in
the order in which the frames stand in the datagram. -/
theorem entries_shape {all : List Entry} (accepted : entries datagram = .ok all) :
    16 * all.length ≤ datagram.length ∧
      (∀ index said, all[index]? = some said →
        (said = .done ∨ ∃ code, code ≠ 0 ∧ said = .outcome code) → index + 1 = all.length) ∧
      ∃ origins, Origins datagram origins all := by
  have closes {said : Entry} (final : said = .done ∨ ∃ code, code ≠ 0 ∧ said = .outcome code) :
      said.Closes := by
    rcases final with rfl | ⟨code, refused, rfl⟩
    · exact .done
    · exact .refusal refused
  cases ending datagram with
  | exhausted stands short walked =>
    obtain rfl := Except.ok.inj (walked.symm.trans accepted)
    obtain ⟨origins, front, -⟩ := stands.exists_origins
    refine ⟨front.length_le, ?_, origins, front⟩
    intro index said found final
    exact absurd (closes final) (stands.not_closes said (List.mem_of_getElem? found))
  | refused stands met bad walked => exact absurd (walked.symm.trans accepted) nofun
  | @stopped place before header last stands met final answered walked =>
    obtain rfl := Except.ok.inj (walked.symm.trans accepted)
    obtain ⟨long, outcome⟩ := checkedStep_eq_ok_iff.mp answered
    obtain ⟨origins, front, inside⟩ := stands.exists_origins
    obtain ⟨index, frame, -⟩ := stands.exists_frame met
    have tells : (Origin.mk place header last).Tells datagram := by
      rcases tells_of_step long outcome with nothing | ⟨said, single, tells⟩
      · cases nothing
      · cases single
        exact tells
    have whole := front.append ⟨place, header, last⟩ inside frame tells
    refine ⟨whole.length_le, ?_, _, whole⟩
    intro index said found final
    exact last_of_closes stands.not_closes found (closes final)

/-! An empty message, a deleted connection, and the outcome whose negation wraps around. -/

def wrappedHeader : Header := ⟨20, conntrackType Event.deleteOperation, 0, 0, 0⟩

def wrappedOutcome : Bytes :=
  noop.encode ++ wrappedHeader.encode ++ FamilyHeader.encode ⟨inetFamily, familyVersion, 0⟩ ++
    Header.encode ⟨20, errorType, 0, 1, 0⟩ ++ [0, 0, 0, 128, 9]

def wrappedEntries : List Entry :=
  [.tracked .delete (Record.ofBody wrappedHeader ⟨inetFamily, familyVersion, 0⟩ []),
    .outcome Int32.minValue]

theorem entries_wrappedOutcome : entries wrappedOutcome = .ok wrappedEntries := by
  cbv

theorem entries_shape_wrapped :
    entries wrappedOutcome = .ok wrappedEntries ∧ 16 * wrappedEntries.length ≤ wrappedOutcome.length ∧
      (∀ index said, wrappedEntries[index]? = some said →
        (said = .done ∨ ∃ code, code ≠ 0 ∧ said = .outcome code) →
          index + 1 = wrappedEntries.length) ∧
      ∃ origins, Origins wrappedOutcome origins wrappedEntries :=
  ⟨entries_wrappedOutcome, entries_shape entries_wrappedOutcome⟩

end Conntrack.Datagram
