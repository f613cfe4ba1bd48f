import Conntrack.Wire.Attr

/-!
# The scan and the list

`Attr.find?` and `Attr.list` go through the same bytes by different tests: the
scan wants the padding of every attribute it steps over, the list does not. The
difference never shows in what is found: an attribute without its padding ends
the bytes, so the scan stops at an attribute of another type behind which the
list has nothing left (`find?_fst`).
-/

namespace Conntrack.Wire.Attr

theorem list_of_read?_none {bytes : Bytes} (refused : read? bytes = none) : list bytes = [] := by
  rw [list]
  split
  · rfl
  · next attr rest read =>
    rw [read] at refused
    cases refused

theorem list_of_read?_some {bytes rest : Bytes} {attr : Attr}
    (read : read? bytes = some (attr, rest)) : list bytes = attr :: list rest := by
  rw [list]
  split
  · next refused =>
    rw [read] at refused
    cases refused
  · next other behind found =>
    rw [read] at found
    simp only [Option.some.injEq, Prod.mk.injEq] at found
    obtain ⟨rfl, rfl⟩ := found
    rfl

/-- An attribute is read exactly if its header can be and its declared bytes are there. -/
theorem read?_of_header? {bytes : Bytes} {length : Nat} {type : UInt16}
    (header : header? bytes = some (length, type)) :
    read? bytes = if length ≤ bytes.length then
      some (⟨type, (bytes.take length).drop headerLength⟩, bytes.drop (roundUp4 length)) else none := by
  simp only [read?, header, Option.bind_eq_bind, Option.bind_some, take?, List.length_take]
  by_cases present : length ≤ bytes.length
  · rw [if_pos (Nat.min_eq_left present), if_pos present]
    rfl
  · have short : ¬ min length bytes.length = length := by omega
    rw [if_neg short, if_neg present]
    rfl

theorem read?_of_header?_none {bytes : Bytes} (refused : header? bytes = none) :
    read? bytes = none := by
  simp [read?, refused]

theorem list_nil : list [] = [] := list_of_read?_none (read?_of_header?_none rfl)

theorem find?_of_header?_none {bytes : Bytes} (type : UInt16) (refused : header? bytes = none) :
    find? type bytes = (none, bytes) := by
  rw [find?]
  split
  · rfl
  · next length found header =>
    rw [header] at refused
    cases refused

/-- One round of a scan: read on a match, else step over what is there with its padding. -/
theorem find?_of_header? {type found : UInt16} {bytes : Bytes} {length : Nat}
    (header : header? bytes = some (length, found)) :
    find? type bytes = if found = type then
        match read? bytes with
        | none => (none, bytes)
        | some (attr, rest) => (some attr, rest)
      else if bytes.length < roundUp4 length then (none, bytes)
      else find? type (bytes.drop (roundUp4 length)) := by
  rw [find?]
  split
  · next refused =>
    rw [header] at refused
    cases refused
  · next declared other read =>
    rw [header] at read
    simp only [Option.some.injEq, Prod.mk.injEq] at read
    obtain ⟨rfl, rfl⟩ := read
    by_cases matched : found = type
    · cases read? bytes <;> rw [if_pos matched, if_pos matched]
    · rw [if_neg matched, if_neg matched]
      split
      · next short => rw [if_pos (take?_eq_none.mp short)]
      · next skipped rest taken =>
        have enough : ¬ bytes.length < roundUp4 length := by
          rw [length_of_take? taken]
          omega
        rw [if_neg enough, drop_of_take? taken]

/-- What a scan finds is the first attribute of the type in the list. -/
theorem find?_fst (type : UInt16) (bytes : Bytes) :
    (find? type bytes).1 = (list bytes).find? fun attr => attr.type = type := by
  fun_induction find? type bytes with
  | case1 bytes refused =>
    simp [list_of_read?_none (read?_of_header?_none refused)]
  | case2 bytes length refused header =>
    simp [list_of_read?_none refused]
  | case3 bytes length attr rest read header =>
    have typed := read?_of_header? header
    rw [read] at typed
    split at typed
    · simp only [Option.some.injEq, Prod.mk.injEq] at typed
      simp [list_of_read?_some read, typed.1]
    · cases typed
  | case4 bytes length found header other short =>
    -- the padding is missing, so nothing can follow this attribute
    rw [take?_eq_none] at short
    have typed := read?_of_header? header
    split at typed
    · rw [list_of_read?_some typed, List.drop_of_length_le (Nat.le_of_lt short), list_nil]
      simp [other]
    · simp [list_of_read?_none typed]
  | case5 bytes length found header other skipped rest taken shorter ih =>
    have above := le_roundUp4 length
    have present : length ≤ bytes.length := by
      rw [length_of_take? taken]
      omega
    have typed := read?_of_header? header
    rw [if_pos present, drop_of_take? taken] at typed
    rw [list_of_read?_some typed, ih]
    simp [other]

theorem header?_length_lt {bytes : Bytes} {length : Nat} {type : UInt16}
    (header : header? bytes = some (length, type)) : length < UInt16.size := by
  simp only [header?, Option.bind_eq_bind, Option.bind_eq_some_iff] at header
  obtain ⟨⟨low, _⟩, -, ⟨high, _⟩, -, kept⟩ := header
  dsimp only at kept
  split at kept
  · cases kept
  · simp only [Option.some.injEq, Prod.mk.injEq] at kept
    obtain ⟨rfl, -⟩ := kept
    exact low.toNat_lt

/-- The length of an attribute that was read is the one its header declares. -/
theorem length_of_read? {bytes rest : Bytes} {attr : Attr}
    (read : read? bytes = some (attr, rest)) : header? bytes = some (attr.length, attr.type) := by
  cases header : header? bytes with
  | none =>
    rw [read?_of_header?_none header] at read
    cases read
  | some declared =>
    obtain ⟨length, type⟩ := declared
    have covers := (length_of_header? header).1
    rw [read?_of_header? header] at read
    split at read
    · next present =>
      simp only [Option.some.injEq, Prod.mk.injEq] at read
      obtain ⟨rfl, -⟩ := read
      simp only [Attr.length, List.length_drop, List.length_take, Nat.min_eq_left present]
      rw [Nat.add_sub_cancel' covers]
    · cases read

/-- Every listed attribute fits the sixteen bits of its length field. -/
theorem length_lt_of_mem_list {bytes : Bytes} {attr : Attr} (listed : attr ∈ list bytes) :
    attr.length < UInt16.size := by
  fun_induction list bytes with
  | case1 bytes refused => cases listed
  | case2 bytes first rest read shorter ih =>
    rcases List.mem_cons.mp listed with rfl | behind
    · exact header?_length_lt (length_of_read? read)
    · exact ih behind

/-- A listed value is shorter than the bytes it was read from. -/
theorem payload_lt_of_mem_list {bytes : Bytes} {attr : Attr} (listed : attr ∈ list bytes) :
    attr.payload.length < bytes.length := by
  fun_induction list bytes with
  | case1 bytes refused => cases listed
  | case2 bytes first rest read shorter ih =>
    rcases List.mem_cons.mp listed with rfl | behind
    · exact payload_shrinks read
    · exact Nat.lt_trans (ih behind) shorter

end Conntrack.Wire.Attr
