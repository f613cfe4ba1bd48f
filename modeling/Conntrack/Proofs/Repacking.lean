import Conntrack.Proofs.AttrRoundTrip
import Conntrack.Proofs.ScanPositions
import Mathlib.Algebra.Ring.Nat

/-!
# Attributes that were read are written back

Any byte string begins with a run of attributes: those that reading one after
the other gives. They stand behind one another without gaps, each in a span of
header, value and padding (`Cursor.Tiles`); only the last can lack some of its
padding, and then the bytes end there. Written again they give the same bytes
up to the padding, which becomes zeros and is completed (`repacked_reads`).
-/

namespace Conntrack.Wire

/-- An attribute as it stands in a byte string, with the padding that is there. -/
structure Span where
  attr : Attr
  padding : Bytes
  deriving DecidableEq, Repr

namespace Span

/-- Header and value. -/
def body (span : Span) : Bytes :=
  AttrTree.header span.attr.length span.attr.type ++ span.attr.payload

def bytes (span : Span) : Bytes := span.body ++ span.padding

/-- The bytes with zeros for padding. -/
def cleared (span : Span) : Bytes := span.body ++ List.replicate span.padding.length 0

@[simp] theorem length_body (span : Span) : span.body.length = span.attr.length := by
  simp [body, Attr.length]

@[simp] theorem length_bytes (span : Span) :
    span.bytes.length = span.attr.length + span.padding.length := by
  simp [bytes]

theorem encode_ofAttr (span : Span) : (AttrTree.ofAttr span.attr).encode =
    span.body ++ List.replicate (span.attr.paddedLength - span.attr.length) 0 := rfl

/-- Written again a span is completed with zeros. -/
theorem encode_eq_cleared {span : Span} {missing : Nat}
    (size : span.bytes.length + missing = span.attr.paddedLength) :
    (AttrTree.ofAttr span.attr).encode = span.cleared ++ List.replicate missing 0 := by
  have padding : span.attr.paddedLength - span.attr.length = span.padding.length + missing := by
    rw [length_bytes] at size
    omega
  rw [encode_ofAttr, padding, ← List.replicate_append_replicate, cleared, List.append_assoc]

end Span

namespace Attr

/-- A header that is read is the one that writing makes. -/
theorem eq_header_of_header? {bytes : Bytes} {length : Nat} {type : UInt16}
    (read : header? bytes = some (length, type)) :
    ∃ rest, bytes = AttrTree.header length type ++ rest := by
  simp only [header?, Option.bind_eq_bind, Option.bind_eq_some_iff] at read
  obtain ⟨⟨low, behind⟩, first, ⟨high, rest⟩, second, kept⟩ := read
  dsimp only at second kept
  split at kept
  · cases kept
  · simp only [Option.some.injEq, Prod.mk.injEq] at kept
    obtain ⟨rfl, rfl⟩ := kept
    refine ⟨rest, ?_⟩
    rw [hostWord16?_eq_some first, hostWord16?_eq_some second, AttrTree.header, UInt16.ofNat_toNat,
      List.append_assoc]

theorem ofLittleEndian_of_header? {bytes : Bytes} {length : Nat} {type : UInt16}
    (read : header? bytes = some (length, type)) : ofLittleEndian (bytes.take 2) = length := by
  have kept : (UInt16.ofNat length).toNat = length := by
    rw [UInt16.toNat_ofNat']
    exact Nat.mod_eq_of_lt (header?_length_lt read)
  obtain ⟨rest, rfl⟩ := eq_header_of_header? read
  have field : (hostWord16 (UInt16.ofNat length)).length = 2 := length_littleEndian 2 _
  rw [AttrTree.header, List.append_assoc, ← field, List.take_left, hostWord16]
  exact (ofLittleEndian_littleEndian 2 _ (UInt16.toNat_lt _)).trans kept

/-- The declared bytes of an attribute are its header and its value. -/
theorem take_of_read? {bytes rest : Bytes} {attr : Attr} (read : read? bytes = some (attr, rest)) :
    bytes.take attr.length = AttrTree.header attr.length attr.type ++ attr.payload ∧
      attr.length ≤ bytes.length ∧ rest = bytes.drop attr.paddedLength := by
  have header := length_of_read? read
  have covers := (length_of_header? header).1
  obtain ⟨behind, shape⟩ := eq_header_of_header? header
  have front : bytes.take headerLength = AttrTree.header attr.length attr.type := by
    rw [shape, ← AttrTree.length_header attr.length attr.type]
    exact List.take_left
  rw [read?_of_header? header] at read
  split at read
  · next present =>
    obtain ⟨same, rfl⟩ := Prod.mk.inj (Option.some.inj read)
    have payload : (bytes.take attr.length).drop headerLength = attr.payload :=
      congrArg Attr.payload same
    have joined := List.take_append_drop headerLength (bytes.take attr.length)
    rw [List.take_take, Nat.min_eq_left covers, front, payload] at joined
    exact ⟨joined.symm, present, rfl⟩
  · cases read

/-- An attribute that is read stands at the front, with all its padding or with
what there is of it up to the end. -/
theorem exists_span {bytes rest : Bytes} {attr : Attr} (read : read? bytes = some (attr, rest)) :
    ∃ span : Span, span.attr = attr ∧ bytes = span.bytes ++ rest ∧
      (span.bytes.length = attr.paddedLength ∨
        rest = [] ∧ span.bytes.length < attr.paddedLength) := by
  obtain ⟨body, present, rfl⟩ := take_of_read? read
  have above : attr.length ≤ attr.paddedLength := le_roundUp4 _
  let span : Span := ⟨attr, (bytes.drop attr.length).take (attr.paddedLength - attr.length)⟩
  have front : span.bytes = bytes.take attr.paddedLength := by
    have covers : attr.length + (attr.paddedLength - attr.length) = attr.paddedLength := by omega
    rw [← covers, List.take_add, body]
    rfl
  refine ⟨span, rfl, ?_, ?_⟩
  · rw [front, List.take_append_drop]
  · rw [front, List.length_take, List.drop_eq_nil_iff]
    omega

end Attr

namespace Cursor

variable {cursor behind last : Cursor} {attr : Attr}

/-- Reading at `cursor` meets the spans one right behind the other, until at
`last` a read is refused. A span that lacks padding ends the bytes. -/
inductive Tiles : Cursor → List Span → Cursor → Prop
  | stop {cursor : Cursor} (refused : cursor.read? Attr.read? = none) : Tiles cursor [] cursor
  | cut {cursor last : Cursor} {span : Span}
      (read : cursor.read? Attr.read? = some (span.attr, last))
      (here : cursor.rest = span.bytes) (finished : last.rest = [])
      (short : span.bytes.length < span.attr.paddedLength) : Tiles cursor [span] last
  | next {cursor behind last : Cursor} {span : Span} {spans : List Span}
      (read : cursor.read? Attr.read? = some (span.attr, behind))
      (here : cursor.rest = span.bytes ++ behind.rest)
      (whole : span.bytes.length = span.attr.paddedLength) (more : Tiles behind spans last) :
      Tiles cursor (span :: spans) last

theorem read?_of_finished (finished : cursor.rest = []) : cursor.read? Attr.read? = none := by
  apply read?_of_none
  rw [finished]
  rfl

/-- One read takes the span of the attribute off the front. -/
theorem exists_span_of_read (read : cursor.read? Attr.read? = some (attr, behind)) :
    ∃ span : Span, span.attr = attr ∧ cursor.rest = span.bytes ++ behind.rest ∧
      (span.bytes.length = attr.paddedLength ∨
        behind.rest = [] ∧ span.bytes.length < attr.paddedLength) :=
  Attr.exists_span (attr_of_read read)

theorem data_of_read (read : cursor.read? Attr.read? = some (attr, behind)) :
    behind.data = cursor.data := by
  obtain ⟨⟨found, rest⟩, readable, moved⟩ := Option.map_eq_some_iff.mp read
  obtain ⟨rfl, rfl⟩ := Prod.mk.inj moved
  rfl

theorem position_of_read {taken : Bytes} (read : cursor.read? Attr.read? = some (attr, behind))
    (here : cursor.rest = taken ++ behind.rest) :
    behind.position = cursor.position + taken.length := by
  have before := cursor.position_add_remaining
  have after := behind.position_add_remaining
  have lengths := congrArg List.length here
  rw [length_rest, List.length_append, length_rest] at lengths
  rw [data_of_read read] at after
  omega

/-- Why nothing can be read at a cursor. -/
theorem refused_iff : cursor.read? Attr.read? = none ↔
    cursor.remaining < 4 ∨ ofLittleEndian (cursor.rest.take 2) < 4 ∨
      cursor.remaining < ofLittleEndian (cursor.rest.take 2) := by
  rw [Cursor.read?, Option.map_eq_none_iff, ← cursor.length_rest]
  cases header : Attr.header? cursor.rest with
  | none =>
    refine iff_of_true (Attr.read?_of_header?_none header) ?_
    by_cases present : 4 ≤ cursor.rest.length
    · refine .inr (.inl (Nat.lt_of_not_le fun covers => ?_))
      obtain ⟨declared, found⟩ := Attr.header?_of_le present covers
      rw [header] at found
      cases found
    · exact .inl (Nat.lt_of_not_le present)
  | some declared =>
    obtain ⟨length, type⟩ := declared
    obtain ⟨covers, present⟩ := Attr.length_of_header? header
    unfold Attr.headerLength at covers present
    rw [Attr.read?_of_header? header, Attr.ofLittleEndian_of_header? header]
    split
    · next enough =>
      constructor
      · intro none
        cases none
      · omega
    · next short => exact iff_of_true rfl (.inr (.inr (Nat.lt_of_not_le short)))

/-- The attributes that are read stand one behind the other. -/
theorem Lists.exists_tiles {attrs : List Attr} (lists : Lists cursor attrs last) :
    ∃ spans : List Span, spans.map Span.attr = attrs ∧ Tiles cursor spans last := by
  induction lists with
  | stop refused => exact ⟨[], rfl, .stop refused⟩
  | @next cursor behind last attr attrs read more ih =>
    obtain ⟨span, rfl, here, whole | ⟨finished, short⟩⟩ := exists_span_of_read read
    · obtain ⟨spans, rfl, tiles⟩ := ih
      exact ⟨span :: spans, rfl, .next read here whole tiles⟩
    · -- nothing can be read behind an attribute that lacks padding
      cases more with
      | stop refused =>
        rw [finished, List.append_nil] at here
        exact ⟨[span], rfl, .cut read here finished short⟩
      | next read' more' =>
        rw [read?_of_finished finished] at read'
        cases read'

namespace Tiles

variable {spans : List Span}

theorem rest_eq (tiles : Tiles cursor spans last) :
    cursor.rest = spans.flatMap Span.bytes ++ last.rest := by
  induction tiles with
  | stop refused => rfl
  | cut read here finished short => simp [here, finished]
  | next read here whole more ih => rw [here, ih, List.flatMap_cons, List.append_assoc]

/-- Written again the spans are completed, the last with the padding that it lacks. -/
theorem repacked (tiles : Tiles cursor spans last) :
    ∃ missing, (spans.flatMap fun span => (AttrTree.ofAttr span.attr).encode) =
        spans.flatMap Span.cleared ++ List.replicate missing 0 ∧
      missing ≤ 3 ∧ (missing = 0 ∨ last.rest = []) := by
  induction tiles with
  | stop refused => exact ⟨0, rfl, Nat.zero_le 3, .inl rfl⟩
  | @cut cursor last span read here finished short =>
    have below := roundUp4_lt span.attr.length
    have least : span.attr.length ≤ span.bytes.length := by simp
    change span.attr.paddedLength < _ at below
    refine ⟨span.attr.paddedLength - span.bytes.length, ?_, by omega, .inr finished⟩
    rw [List.flatMap_singleton, List.flatMap_singleton]
    exact Span.encode_eq_cleared (by omega)
  | @next cursor behind last span spans read here whole more ih =>
    obtain ⟨missing, written, few, complete⟩ := ih
    have first : (AttrTree.ofAttr span.attr).encode = span.cleared ++ List.replicate 0 0 :=
      Span.encode_eq_cleared whole
    refine ⟨missing, ?_, few, complete⟩
    rw [List.flatMap_cons, List.flatMap_cons, written, first, List.replicate_zero, List.append_nil,
      List.append_assoc]

/-- Each span begins where the ones in front of it end with their padding. -/
theorem stands (tiles : Tiles cursor spans last) {before later : List Span} {span : Span}
    (split : spans = before ++ span :: later) :
    ∃ here behind, cursor.Reads (before.map Span.attr) here ∧
      here.position = cursor.position + (before.map fun other => other.attr.paddedLength).sum ∧
      here.read? Attr.read? = some (span.attr, behind) ∧
      here.rest = span.bytes ++ behind.rest ∧ span.bytes.length ≤ span.attr.paddedLength := by
  induction tiles generalizing before with
  | stop refused => simp at split
  | @cut cursor last only read here finished short =>
    obtain ⟨rfl, rfl, rfl⟩ : before = [] ∧ span = only ∧ later = [] := by
      simpa [List.singleton_eq_append_iff] using split
    refine ⟨cursor, last, .refl cursor, rfl, read, ?_, Nat.le_of_lt short⟩
    rw [here, finished, List.append_nil]
  | @next cursor behind last first spans read here whole more ih =>
    rcases List.cons_eq_append_iff.mp split with ⟨rfl, rest⟩ | ⟨others, rfl, rest⟩
    · obtain ⟨rfl, rfl⟩ := List.cons.inj rest.symm
      exact ⟨cursor, behind, .refl cursor, rfl, read, here, Nat.le_of_eq whole⟩
    · obtain ⟨place, past, reads, position, found, stands, least⟩ := ih rest
      refine ⟨place, past, .next read reads, ?_, found, stands, least⟩
      rw [position, position_of_read read here, whole, List.map_cons, List.sum_cons, Nat.add_assoc]

theorem data_eq (tiles : Tiles cursor spans last) : last.data = cursor.data := by
  induction tiles with
  | stop refused => rfl
  | cut read here finished short => exact data_of_read read
  | next read here whole more ih => exact ih.trans (data_of_read read)

theorem refused (tiles : Tiles cursor spans last) : last.read? Attr.read? = none := by
  induction tiles with
  | stop refused => exact refused
  | cut read here finished short => exact read?_of_finished finished
  | next read here whole more ih => exact ih

/-- The spans are what was consumed. -/
theorem take_data {data : Bytes} (tiles : Tiles (start data) spans last) :
    data.take last.position = spans.flatMap Span.bytes := by
  have whole : data = spans.flatMap Span.bytes ++ last.rest := tiles.rest_eq
  have consumed : last.position = (spans.flatMap Span.bytes).length := by
    have all := last.position_add_remaining
    have kept : last.data.length = data.length := congrArg List.length tiles.data_eq
    have lengths := congrArg List.length whole
    rw [List.length_append, length_rest] at lengths
    omega
  rw [consumed, congrArg (List.take _) whole]
  exact List.take_left

end Tiles

end Cursor

theorem Span.four_mul_length_le (spans : List Span) :
    4 * spans.length ≤ (spans.flatMap Span.bytes).length := by
  induction spans with
  | nil => exact Nat.le_refl 0
  | cons span spans ih =>
    have least : 4 ≤ span.bytes.length := by
      rw [length_bytes, Attr.length, Attr.headerLength]
      omega
    rw [List.flatMap_cons, List.length_append, List.length_cons]
    omega

/-- Every byte string is read up to a place where fewer than four bytes remain
or a length field is below four or larger than what remains. The attributes that
were read, at most one for four bytes, stand in spans that follow one another;
together they are the bytes up to that place. Written again one behind the other
they give these bytes with zeros for padding, and at the end of the bytes up to
three more zeros that the last padding lacks. -/
theorem repacked_reads (data : Bytes) :
    ∃ (spans : List Span) (last : Cursor) (missing : Nat),
      (Cursor.start data).Lists (spans.map Span.attr) last ∧ 4 * spans.length ≤ data.length ∧
      (∀ before span later, spans = before ++ span :: later →
        ∃ here behind, (Cursor.start data).Reads (before.map Span.attr) here ∧
          here.position = (before.map fun other => other.attr.paddedLength).sum ∧
          here.read? Attr.read? = some (span.attr, behind) ∧
          here.rest = span.bytes ++ behind.rest ∧ span.bytes.length ≤ span.attr.paddedLength) ∧
      data.take last.position = spans.flatMap Span.bytes ∧
      (spans.flatMap fun span => ((AttrTree.ofAttr span.attr).pack #[]).toList) =
        spans.flatMap Span.cleared ++ List.replicate missing 0 ∧
      missing ≤ 3 ∧ (missing = 0 ∨ last.remaining = 0) ∧
      (last.remaining < 4 ∨ ofLittleEndian (last.rest.take 2) < 4 ∨
        last.remaining < ofLittleEndian (last.rest.take 2)) := by
  obtain ⟨last, lists⟩ := (Cursor.start data).exists_lists
  obtain ⟨spans, listed, tiles⟩ := lists.exists_tiles
  obtain ⟨missing, written, few, complete⟩ := tiles.repacked
  have packed : (spans.flatMap fun span => ((AttrTree.ofAttr span.attr).pack #[]).toList) =
      spans.flatMap fun span => (AttrTree.ofAttr span.attr).encode := by
    simp only [AttrTree.toList_pack, List.nil_append]
  refine ⟨spans, last, missing, listed ▸ lists, ?_, ?_, tiles.take_data, packed.trans written, few,
    ?_, Cursor.refused_iff.mp tiles.refused⟩
  · have consumed := congrArg List.length tiles.take_data
    have least := Span.four_mul_length_le spans
    rw [List.length_take] at consumed
    omega
  · intro before span later split
    obtain ⟨here, behind, reads, position, rest⟩ := tiles.stands split
    rw [Cursor.start, Nat.zero_add] at position
    exact ⟨here, behind, reads, position, rest⟩
  · rw [← last.length_rest, List.length_eq_zero_iff]
    exact complete

/-- Padding is cleared, and completed behind the last attribute. -/
example : (Attr.list [5, 0, 1, 0, 9, 1, 2, 3, 5, 0, 2, 0, 7]).flatMap
    (fun attr => ((AttrTree.ofAttr attr).pack #[]).toList) =
      [5, 0, 1, 0, 9, 0, 0, 0, 5, 0, 2, 0, 7, 0, 0, 0] := by
  cbv

end Conntrack.Wire
