import Conntrack.Connection.Line
import Conntrack.Proofs.LineBuffer
import Conntrack.Proofs.PlainJson

/-!
# Event lines are atomic and unambiguous

With every number and both directions at their longest, a line has 405
characters, newline included, and all of them are ASCII: it fits into the buffer
of standard output, and reaches the file behind it as a whole or not at all. No
two pairs of event and record have the same line, because the object on a line
is read back from it, and each part of event and record from the object.
-/

namespace Conntrack.Connection

open Wire Message Text Json

/-! ## The text of an event -/

theorem Address.length_write_le (address : Address) : address.write.length ≤ 15 := by
  have octet : ∀ byte : UInt8, (Decimal.write byte.toNat).length ≤ 3 :=
    fun byte => Decimal.length_write_le_three (Nat.lt_trans byte.toNat_lt (by decide))
  have first := octet address.first
  have second := octet address.second
  have third := octet address.third
  have fourth := octet address.fourth
  simp only [Address.write, List.length_append, List.length_cons]
  omega

theorem Address.isBare_of_mem_write (address : Address) :
    ∀ character ∈ address.write, isBare character := by
  have digits : ∀ byte : UInt8, ∀ character ∈ Decimal.write byte.toNat, isBare character :=
    fun _ _ member => isBare_of_isDigit (Decimal.isDigit_of_mem_write member)
  simp only [Address.write, List.forall_mem_append, List.forall_mem_cons]
  exact ⟨⟨⟨digits _, rfl, digits _⟩, rfl, digits _⟩, rfl, digits _⟩

theorem modest_address (address : Address) : address.toJson.Modest 17 :=
  (modest_string address.isBare_of_mem_write).mono (Nat.add_le_add_right address.length_write_le 2)

theorem modest_addressPair (pair : AddressPair) : pair.toJson.Modest 55 :=
  .record ["src_ip", "dst_ip"] rfl (List.cons_ne_nil _ _) (by decide)
    (.cons (modest_address _) (.cons (modest_address _) .nil)) (by decide)

theorem modest_direction (direction : Option AddressPair) : (directionJson direction).Modest 55 := by
  cases direction with
  | none => exact modest_null.mono (by decide)
  | some pair => exact modest_addressPair pair

theorem modest_header (header : Header) : (headerJson header).Modest 109 :=
  .record ["nlmsg_len", "nlmsg_type", "nlmsg_flags", "nlmsg_seq", "nlmsg_pid"] rfl
    (List.cons_ne_nil _ _) (by decide)
    (.cons (modest_word32 _) (.cons (modest_word16 _) (.cons (modest_word16 _)
      (.cons (modest_word32 _) (.cons (modest_word32 _) .nil))))) (by decide)

theorem modest_family (family : FamilyHeader) : (familyJson family).Modest 49 :=
  .record ["nfgen_family", "version", "res_id"] rfl (List.cons_ne_nil _ _) (by decide)
    (.cons (modest_byte _) (.cons (modest_byte _) (.cons (modest_word16 _) .nil))) (by decide)

theorem modest_record (record : Record) : record.toJson.Modest 371 :=
  .record ["header", "family_header", "tuple_orig", "tuple_reply", "status", "timeout_secs"] rfl
    (List.cons_ne_nil _ _) (by decide)
    (.cons (modest_header _) (.cons (modest_family _) (.cons (modest_direction _)
      (.cons (modest_direction _) (.cons (modest_word32 _) (.cons (modest_word32 _) .nil))))))
    (by decide)

theorem modest_event (event : Event) : event.toJson.Modest 13 := by
  have name : ∀ text : List Char, text.all isBare → text.length ≤ 11 →
      (Json.string (String.ofList text)).Modest 13 :=
    fun text bare short => (modest_string (List.all_eq_true.mp bare)).mono (by omega)
  cases event with
  | new => exact name ['N', 'e', 'w'] (by decide) (by decide)
  | get => exact name ['G', 'e', 't'] (by decide) (by decide)
  | delete => exact name ['D', 'e', 'l', 'e', 't', 'e'] (by decide) (by decide)
  | other operation =>
    exact .record ["Other"] rfl (List.cons_ne_nil _ _) (by decide)
      (.cons (modest_byte operation) .nil) (by decide)

theorem modest_eventJson (event : Event) (record : Record) : (eventJson event record).Modest 404 :=
  .record ["event", "record"] rfl (List.cons_ne_nil _ _) (by decide)
    (.cons (modest_event event) (.cons (modest_record record) .nil)) (by decide)

theorem read?_eventLine (event : Event) (record : Record) :
    Json.read? (eventLine event record).toList = some (eventJson event record) := by
  have blank : ∀ character ∈ ['\n'], Scan.isSpace character := List.all_eq_true.mp rfl
  rw [eventLine, String.toList_ofList]
  exact (modest_eventJson event record).read?_write blank

/-! ## The line as it is printed -/

/-- The bytes that a text is printed as. -/
def printed (text : String) : Bytes := text.toByteArray.data.toList

theorem printed_ofList (text : List Char) :
    printed (String.ofList text) = text.flatMap String.utf8EncodeChar := by
  rw [printed, String.toByteArray_ofList, List.utf8Encode, List.toList_data_toByteArray]

/-- The text of an event, without the newline behind it. -/
def eventText (event : Event) (record : Record) : String :=
  String.ofList (eventJson event record).write

theorem printed_eventLine (event : Event) (record : Record) : printed (eventLine event record) =
    printed (eventText event record) ++ [LineBuffer.newline] := by
  rw [eventLine, eventText, printed_ofList, printed_ofList, List.flatMap_append]
  rfl

theorem utf8EncodeChar_of_plain {character : Char} (plain : isPlain character) :
    String.utf8EncodeChar character = [character.val.toUInt8] ∧
      character.val.toUInt8 ≠ LineBuffer.newline := by
  simp only [isPlain, Bool.and_eq_true, decide_eq_true_eq] at plain
  have ascii : character.val ≤ 127 := UInt32.le_iff_toNat_le.mpr (Nat.le_of_lt plain.2)
  refine ⟨String.utf8EncodeChar_eq_singleton (if_pos ascii), fun same => ?_⟩
  have value : character.toNat % 256 = 10 := congrArg UInt8.toNat same
  omega

/-- A plain text is printed as one byte for each character, none of them a newline. -/
theorem printed_of_plain {text : List Char} (plain : ∀ character ∈ text, isPlain character) :
    (printed (String.ofList text)).length = text.length ∧
      LineBuffer.newline ∉ printed (String.ofList text) := by
  rw [printed_ofList]
  induction text with
  | nil => exact ⟨rfl, List.not_mem_nil⟩
  | cons first more ih =>
    rw [List.forall_mem_cons] at plain
    obtain ⟨single, other⟩ := utf8EncodeChar_of_plain plain.1
    obtain ⟨length, inside⟩ := ih plain.2
    rw [List.flatMap_cons, single, List.singleton_append, List.length_cons, length, List.mem_cons,
      not_or]
    exact ⟨rfl, other.symm, inside⟩

/-! ## Different events have different texts -/

theorem Address.toJson_inj {address address' : Address} :
    address.toJson = address'.toJson ↔ address = address' := by
  constructor
  · intro same
    injection same with text
    have digits : address.write = address'.write := String.ofList_injective (Option.some.inj text)
    have read := congrArg Address.read? digits
    rw [Address.read?_write, Address.read?_write] at read
    exact Option.some.inj read
  · exact congrArg Address.toJson

theorem AddressPair.toJson_inj {pair pair' : AddressPair} :
    pair.toJson = pair'.toJson ↔ pair = pair' := by
  obtain ⟨source, destination⟩ := pair
  obtain ⟨source', destination'⟩ := pair'
  simp [AddressPair.toJson, record_inj, Address.toJson_inj]

theorem directionJson_inj {direction direction' : Option AddressPair} :
    directionJson direction = directionJson direction' ↔ direction = direction' := by
  cases direction with
  | none =>
    cases direction' with
    | none => simp
    | some pair' => simp [directionJson, AddressPair.toJson, Json.record]
  | some pair =>
    cases direction' with
    | none => simp [directionJson, AddressPair.toJson, Json.record]
    | some pair' => simp [directionJson, AddressPair.toJson_inj]

theorem headerJson_inj {header header' : Header} :
    headerJson header = headerJson header' ↔ header = header' := by
  obtain ⟨length, type, flags, sequence, sender⟩ := header
  obtain ⟨length', type', flags', sequence', sender'⟩ := header'
  simp [headerJson, record_inj, natural_inj, UInt32.toNat_inj, UInt16.toNat_inj]

theorem familyJson_inj {family family' : FamilyHeader} :
    familyJson family = familyJson family' ↔ family = family' := by
  obtain ⟨family, version, resource⟩ := family
  obtain ⟨family', version', resource'⟩ := family'
  simp [familyJson, record_inj, natural_inj, UInt8.toNat_inj, UInt16.toNat_inj]

theorem Record.toJson_inj {record record' : Record} :
    record.toJson = record'.toJson ↔ record = record' := by
  obtain ⟨header, family, forward, reply, status, timeout⟩ := record
  obtain ⟨header', family', forward', reply', status', timeout'⟩ := record'
  simp [Record.toJson, record_inj, headerJson_inj, familyJson_inj, directionJson_inj,
    natural_inj, UInt32.toNat_inj]

theorem Event.toJson_inj {event event' : Event} : event.toJson = event'.toJson ↔ event = event' := by
  cases event <;> cases event' <;>
    simp [Event.toJson, Json.string, Json.record, natural_inj, UInt8.toNat_inj]

theorem eventJson_inj {event event' : Event} {record record' : Record} :
    eventJson event record = eventJson event' record' ↔ event = event' ∧ record = record' := by
  simp [eventJson, record_inj, Event.toJson_inj, Record.toJson_inj]

/-- Two events with the same text are the same, with the same record. -/
theorem eventText_inj {event event' : Event} {record record' : Record} :
    eventText event record = eventText event' record' ↔ event = event' ∧ record = record' := by
  constructor
  · intro same
    have lines : eventLine event record = eventLine event' record' := by
      rw [eventLine, eventLine, String.ofList_injective same]
    have read := read?_eventLine event record
    rw [lines, read?_eventLine event' record'] at read
    exact eventJson_inj.mp (Option.some.inj read).symm
  · rintro ⟨rfl, rfl⟩
    rfl

/-- The text of an event is one line, shorter than the buffer of standard output.
It reaches the file as a whole or not at all, and tells event and record. -/
theorem lines_whole_and_distinct (event : Event) (record : Record) :
    '\n' ∉ (eventText event record).toList ∧
      printed (eventLine event record) = printed (eventText event record) ++ [LineBuffer.newline] ∧
      (printed (eventLine event record)).length < LineBuffer.capacity ∧
      LineBuffer.Atomic (printed (eventText event record)) ∧
      Json.read? (eventLine event record).toList = some (eventJson event record) ∧
      ∀ event' record', eventText event' record' = eventText event record ↔
        event' = event ∧ record' = record := by
  have modest := modest_eventJson event record
  obtain ⟨length, inside⟩ := printed_of_plain modest.plain
  have line : printed (eventLine event record) =
      printed (eventText event record) ++ [LineBuffer.newline] := printed_eventLine event record
  have short : (printed (eventText event record)).length ≤ 404 := length.trans_le modest.short
  have fits : (printed (eventLine event record)).length < LineBuffer.capacity := by
    rw [line, List.length_append, LineBuffer.capacity, List.length_singleton]
    omega
  have whole : LineBuffer.Atomic (printed (eventText event record)) :=
    LineBuffer.atomic_of_short inside (Nat.lt_of_le_of_lt short (by decide))
  refine ⟨?_, line, fits, whole, read?_eventLine event record, fun _ _ => eventText_inj⟩
  rw [eventText, String.toList_ofList]
  intro member
  cases modest.plain '\n' member

end Conntrack.Connection
