import Conntrack.Proofs.CursorReads

/-!
# Where a scan stands

A scan for a type and reading attribute after attribute test the same bytes in
different ways: reading wants the declared bytes of an attribute and takes its
padding if it is there, the scan steps only over attributes with their padding.
One round of a scan nevertheless goes where one read goes, or ends at a place
that reading has come to as well (`scan_round`). So a scan finds the first
attribute of its type among those that reading lists, and stands where reading
stands behind it; without a match it stays in front of what ended it
(`scan_agrees_with_reads`). There the two may part for once: reading still takes
a last attribute whose padding is missing.
-/

namespace Conntrack.Wire

namespace Attr

/-- Four bytes are a header unless they declare less than their own length. -/
theorem header?_of_le {bytes : Bytes} (present : 4 ≤ bytes.length)
    (covers : 4 ≤ ofLittleEndian (bytes.take 2)) : ∃ declared, header? bytes = some declared := by
  match bytes, present with
  | first :: second :: third :: fourth :: rest, _ =>
    have low := ofLittleEndian_lt [first, second]
    change 4 ≤ ofLittleEndian [first, second] at covers
    have fits : (UInt16.ofNat (ofLittleEndian [first, second])).toNat =
        ofLittleEndian [first, second] := by
      rw [UInt16.toNat_ofNat']
      exact Nat.mod_eq_of_lt low
    refine ⟨(ofLittleEndian [first, second], UInt16.ofNat (ofLittleEndian [third, fourth])), ?_⟩
    change (if (UInt16.ofNat (ofLittleEndian [first, second])).toNat < headerLength then none
      else some ((UInt16.ofNat (ofLittleEndian [first, second])).toNat, _)) = _
    rw [fits]
    exact if_neg (Nat.not_lt.mpr covers)

end Attr

namespace Cursor

variable {cursor behind last : Cursor} {attr : Attr} {type : UInt16}

/-- Reading `attrs` one after the other leads from one cursor to another. -/
inductive Reads : Cursor → List Attr → Cursor → Prop
  | refl (cursor : Cursor) : Reads cursor [] cursor
  | next {cursor behind last : Cursor} {attr : Attr} {attrs : List Attr}
      (read : cursor.read? Attr.read? = some (attr, behind)) (more : Reads behind attrs last) :
      Reads cursor (attr :: attrs) last

namespace Reads

theorem append {middle : Cursor} {front back : List Attr} (first : Reads cursor front middle)
    (second : Reads middle back last) : Reads cursor (front ++ back) last := by
  induction first with
  | refl cursor => exact second
  | next read more ih => exact .next read (ih second)

/-- Reading on from a place that was read to lists what is read in all. -/
theorem lists {here : Cursor} {passed later : List Attr} (reads : Reads cursor passed here)
    (lists : Lists here later last) : Lists cursor (passed ++ later) last := by
  induction reads with
  | refl cursor => exact lists
  | next read more ih => exact .next read (ih lists)

end Reads

/-! ## One read -/

theorem attr_of_read (read : cursor.read? Attr.read? = some (attr, behind)) :
    Attr.read? cursor.rest = some (attr, behind.rest) := by
  obtain ⟨⟨found, rest⟩, readable, moved⟩ := Option.map_eq_some_iff.mp read
  obtain ⟨rfl, rfl⟩ := Prod.mk.inj moved
  obtain ⟨taken, split⟩ := Attr.append_of_read? readable
  rw [cursor.rest_stopAt split]
  exact readable

theorem remaining_of_read (read : cursor.read? Attr.read? = some (attr, behind)) :
    behind.remaining < cursor.remaining := by
  rw [← cursor.length_rest, ← behind.length_rest]
  exact Attr.read?_shrinks (attr_of_read read)

/-- An attribute whose declared bytes are there is read, and left behind its
padding or at the end. -/
theorem read_of_header {length : Nat} (header : Attr.header? cursor.rest = some (length, type))
    (present : length ≤ cursor.remaining) :
    ∃ attr, attr.type = type ∧ Attr.read? cursor.rest =
      some (attr, cursor.rest.drop (roundUp4 length)) := by
  rw [← cursor.length_rest] at present
  refine ⟨⟨type, (cursor.rest.take length).drop Attr.headerLength⟩, rfl, ?_⟩
  rw [Attr.read?_of_header? header, if_pos present]

/-- What is listed is what the remaining bytes list. -/
theorem Lists.eq_list {attrs : List Attr} (lists : Lists cursor attrs last) :
    attrs = Attr.list cursor.rest := by
  induction lists with
  | @stop cursor refused =>
    have unread : Attr.read? cursor.rest = none := Option.map_eq_none_iff.mp refused
    exact (Attr.list_of_read?_none unread).symm
  | next read more ih => rw [Attr.list_of_read?_some (attr_of_read read), ih]

/-! ## One round of a scan -/

/-- Why a scan for a type goes no further than a cursor: the bytes are used up,
too few for a header, a header that declares less than its own length, a match
whose value is cut off, or another attribute whose value or padding is. -/
inductive Ends (type : UInt16) (cursor : Cursor) : Prop
  | finished (empty : cursor.remaining = 0)
  | tail (begun : 0 < cursor.remaining) (short : cursor.remaining < 4)
  | malformed (whole : 4 ≤ cursor.remaining) (low : ofLittleEndian (cursor.rest.take 2) < 4)
  | truncated {length : Nat} (header : Attr.header? cursor.rest = some (length, type))
      (cut : cursor.remaining < length)
  | unpadded {length : Nat} {other : UInt16}
      (header : Attr.header? cursor.rest = some (length, other)) (differs : other ≠ type)
      (cut : cursor.remaining < roundUp4 length)

theorem ends_of_refused (type : UInt16) (refused : Attr.header? cursor.rest = none) :
    cursor.Ends type := by
  by_cases empty : cursor.remaining = 0
  · exact .finished empty
  · by_cases short : cursor.remaining < 4
    · exact .tail (Nat.pos_of_ne_zero empty) short
    · have whole : 4 ≤ cursor.remaining := Nat.le_of_not_lt short
      refine .malformed whole (Nat.lt_of_not_le fun covers => ?_)
      rw [← cursor.length_rest] at whole
      obtain ⟨declared, header⟩ := Attr.header?_of_le whole covers
      rw [refused] at header
      cases header

/-- What one round of a scan for a type does at a cursor. -/
inductive Round (type : UInt16) (cursor : Cursor) : Prop
  | stops (ends : cursor.Ends type) (scanned : cursor.scan (Attr.find? type) = (none, cursor))
  | finds {attr : Attr} {behind : Cursor} (read : cursor.read? Attr.read? = some (attr, behind))
      (typed : attr.type = type) (scanned : cursor.scan (Attr.find? type) = (some attr, behind))
  | steps {attr : Attr} {behind : Cursor} (read : cursor.read? Attr.read? = some (attr, behind))
      (differs : attr.type ≠ type)
      (scanned : cursor.scan (Attr.find? type) = behind.scan (Attr.find? type))

theorem scan_of_stays (stays : Attr.find? type cursor.rest = (none, cursor.rest)) :
    cursor.scan (Attr.find? type) = (none, cursor) := by
  rw [scan, stays]
  exact congrArg (Prod.mk none) cursor.stopAt_rest

theorem scan_of_found {rest : Bytes} (found : Attr.find? type cursor.rest = (some attr, rest)) :
    cursor.scan (Attr.find? type) = (some attr, cursor.stopAt rest) := by
  rw [scan, found]

/-- A scan that steps over the first bytes is the scan behind them. -/
theorem scan_of_steps {count : Nat}
    (steps : Attr.find? type cursor.rest = Attr.find? type (cursor.rest.drop count)) :
    cursor.scan (Attr.find? type) =
      (cursor.stopAt (cursor.rest.drop count)).scan (Attr.find? type) := by
  rw [scan, scan, steps, rest_stopAt_drop]
  rfl

theorem scan_round (type : UInt16) (cursor : Cursor) : cursor.Round type := by
  cases header : Attr.header? cursor.rest with
  | none =>
    have stays := Attr.find?_of_header?_none type header
    exact .stops (ends_of_refused type header) (scan_of_stays stays)
  | some declared =>
    obtain ⟨length, found⟩ := declared
    have round : Attr.find? type cursor.rest = _ := Attr.find?_of_header? header
    have above := le_roundUp4 length
    by_cases typed : found = type
    · subst typed
      rw [if_pos rfl] at round
      by_cases present : length ≤ cursor.remaining
      · obtain ⟨attr, typed, read⟩ := read_of_header header present
        rw [read] at round
        exact .finds (read?_of_some read) typed (scan_of_found round)
      · have cut : cursor.remaining < length := Nat.lt_of_not_le present
        rw [Attr.read?_of_header? header, if_neg (cursor.length_rest ▸ present)] at round
        exact .stops (.truncated header cut) (scan_of_stays round)
    · rw [if_neg typed, cursor.length_rest] at round
      by_cases cut : cursor.remaining < roundUp4 length
      · rw [if_pos cut] at round
        exact .stops (.unpadded header typed cut) (scan_of_stays round)
      · rw [if_neg cut] at round
        obtain ⟨attr, same, read⟩ := read_of_header header (by omega)
        exact .steps (read?_of_some read) (same ▸ typed) (scan_of_steps round)

/-! ## The whole scan -/

/-- A scan passes attributes of other types as reading does, up to a match that
can be read or to a place where it ends. -/
theorem exists_reads_of_scan (type : UInt16) (cursor : Cursor) :
    ∃ passed here, cursor.Reads passed here ∧ (∀ other ∈ passed, other.type ≠ type) ∧
      ((here.Ends type ∧ cursor.scan (Attr.find? type) = (none, here)) ∨
        ∃ attr behind, here.read? Attr.read? = some (attr, behind) ∧ attr.type = type ∧
          cursor.scan (Attr.find? type) = (some attr, behind)) := by
  cases cursor.scan_round type with
  | stops ends scanned =>
    exact ⟨[], cursor, .refl cursor, List.forall_mem_nil _, .inl ⟨ends, scanned⟩⟩
  | finds read typed scanned =>
    exact ⟨[], cursor, .refl cursor, List.forall_mem_nil _, .inr ⟨_, _, read, typed, scanned⟩⟩
  | @steps attr behind read differs scanned =>
    have shorter := remaining_of_read read
    obtain ⟨passed, here, reads, others, ending⟩ := exists_reads_of_scan type behind
    refine ⟨attr :: passed, here, .next read reads, ?_, ?_⟩
    · exact List.forall_mem_cons.mpr ⟨differs, others⟩
    · rwa [scanned]
termination_by cursor.remaining
decreasing_by exact shorter

/-- A scan gives the first attribute of its type among those that are read from
the same cursor one after the other, and stands where reading stands behind it.
Without one it stands in front of what ended it, behind attributes that reading
passes as well. -/
theorem scan_agrees_with_reads (cursor : Cursor) (type : UInt16) :
    ∃ attrs last, cursor.Lists attrs last ∧
      (cursor.scan (Attr.find? type)).1 = attrs.find? (fun attr => attr.type = type) ∧
      match cursor.scan (Attr.find? type) with
      | (some attr, behind) =>
        ∃ before later, attrs = before ++ attr :: later ∧ attr.type = type ∧
          (∀ other ∈ before, other.type ≠ type) ∧ cursor.Reads (before ++ [attr]) behind
      | (none, here) =>
        (∀ other ∈ attrs, other.type ≠ type) ∧
          ∃ passed later, attrs = passed ++ later ∧ cursor.Reads passed here ∧ here.Ends type := by
  obtain ⟨passed, here, reads, others, ending⟩ := exists_reads_of_scan type cursor
  obtain ⟨last, listed⟩ := here.exists_lists
  have all := reads.lists listed
  have first : (cursor.scan (Attr.find? type)).1 =
      (passed ++ Attr.list here.rest).find? (fun attr => attr.type = type) := by
    rw [all.eq_list]
    exact Attr.find?_fst type cursor.rest
  refine ⟨_, last, all, first, ?_⟩
  rcases ending with ⟨ends, scanned⟩ | ⟨attr, behind, read, typed, scanned⟩
  · rw [scanned] at first ⊢
    refine ⟨?_, passed, _, rfl, reads, ends⟩
    intro other member
    simpa using List.find?_eq_none.mp first.symm other member
  · rw [scanned]
    refine ⟨passed, Attr.list behind.rest, ?_, typed, others, ?_⟩
    · rw [Attr.list_of_read?_some (attr_of_read read)]
    · exact reads.append (.next read (.refl behind))

/-- A last attribute without its padding is found, and ends a scan for another type. -/
example : (start [5, 0, 7, 0, 1]).scan (Attr.find? 7) =
    (some ⟨7, [1]⟩, (start [5, 0, 7, 0, 1]).moveTo 5) := by
  cbv

example : (start [5, 0, 7, 0, 1]).scan (Attr.find? 3) = (none, start [5, 0, 7, 0, 1]) := by
  cbv

end Cursor

end Conntrack.Wire
