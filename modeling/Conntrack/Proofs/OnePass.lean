import Conntrack.Connection.Record
import Conntrack.Proofs.CursorReads

/-!
# One pass over a body tells the record

Decoding scans the body four times, and the tuples in it three times each. All
of it can be read off one list: the attributes of the body in the order in which
they are read (`Record.ofListed`). Each part of a record comes from the first
attribute of the part's own raw type, the parts of a tuple from the first ones
among its children; what stands behind those, or in another scope, does not
count (`decode_eq_ofListed`). Nothing is asked of the bytes: the two agree on
bodies that end in the middle of an attribute or of its padding.
-/

namespace Conntrack.Connection

open Wire Message

/-- The first attribute of a raw type. -/
def firstOf (type : UInt16) (attrs : List Attr) : Option Attr :=
  attrs.find? fun attr => attr.type = type

/-- The value of four bytes, the most significant first; zero for any other width. -/
def wordOf : Option Attr → UInt32
  | some ⟨_, [first, second, third, fourth]⟩ => UInt32.ofNat
    (((first.toNat * 256 + second.toNat) * 256 + third.toNat) * 256 + fourth.toNat)
  | _ => 0

/-- Two addresses of four bytes each, or nothing. -/
def pairOf (source destination : Option Attr) : Option AddressPair := do
  let source ← source.bind addressOf?
  let destination ← destination.bind addressOf?
  some ⟨source, destination⟩

/-- The pair in a tuple: the first address part among its children, and the first
two addresses among the children of that. -/
def directionOf : Option Attr → Option AddressPair
  | some tuple =>
    match firstOf 0x8001 tuple.children with
    | some part => pairOf (firstOf 1 part.children) (firstOf 2 part.children)
    | none => none
  | none => none

/-- The record that a list of attributes tells. -/
def Record.ofListed (header : Header) (family : FamilyHeader) (attrs : List Attr) : Record where
  header := header
  family := family
  forward := directionOf (firstOf 0x8001 attrs)
  reply := directionOf (firstOf 0x8002 attrs)
  status := wordOf (firstOf 3 attrs)
  timeout := wordOf (firstOf 7 attrs)

/-- The parts of a record that a message may leave out. -/
inductive Part where
  | forward
  | reply
  | status
  | timeout
  deriving DecidableEq, Repr

/-- What a part says. -/
inductive Told where
  | direction (pair : Option AddressPair)
  | word (value : UInt32)
  deriving DecidableEq, Repr

namespace Part

/-- The raw type of the part's attribute. -/
def type : Part → UInt16
  | .forward => 0x8001
  | .reply => 0x8002
  | .status => 3
  | .timeout => 7

/-- What an attribute says as the part, or its absence. -/
def reading (part : Part) (attr : Option Attr) : Told :=
  match part with
  | .forward => .direction (directionOf attr)
  | .reply => .direction (directionOf attr)
  | .status => .word (wordOf attr)
  | .timeout => .word (wordOf attr)

/-- What a record says as the part. -/
def told (part : Part) (record : Record) : Told :=
  match part with
  | .forward => .direction record.forward
  | .reply => .direction record.reply
  | .status => .word record.status
  | .timeout => .word record.timeout

/-- A part is read off the first attribute of its type alone. -/
theorem told_ofListed (part : Part) (header : Header) (family : FamilyHeader) (attrs : List Attr) :
    part.told (Record.ofListed header family attrs) = part.reading (firstOf part.type attrs) := by
  cases part <;> rfl

end Part

theorem Field.find?_eq_firstOf (field : Field) (bytes : Bytes) :
    field.find? bytes = firstOf field.wireType (Attr.list bytes) :=
  Attr.find?_fst field.wireType bytes

theorem word32Value?_eq_wordOf (found : Option Attr) :
    (found.bind Attr.word32Value?).getD 0 = wordOf found := by
  cases found with
  | none => rfl
  | some attr =>
    obtain ⟨type, payload⟩ := attr
    match payload with
    | [first, second, third, fourth] =>
      have spelled : ofBigEndian [first, second, third, fourth] =
          ((first.toNat * 256 + second.toNat) * 256 + third.toNat) * 256 + fourth.toNat := by
        simp only [ofBigEndian, List.reverse_cons, List.reverse_nil, List.nil_append,
          List.cons_append, ofLittleEndian]
        omega
      simp [Attr.word32Value?, wordOf, spelled]
    | [] => rfl
    | [_] => rfl
    | [_, _] => rfl
    | [_, _, _] => rfl
    | _ :: _ :: _ :: _ :: _ :: _ => simp [Attr.word32Value?, wordOf]

namespace AddressPair

theorem ofAddresses?_eq_pairOf (bytes : Bytes) :
    ofAddresses? bytes =
      pairOf (firstOf 1 (Attr.list bytes)) (firstOf 2 (Attr.list bytes)) := by
  have source := Field.find?_eq_firstOf Field.sourceAddress bytes
  have destination := Field.find?_eq_firstOf Field.destinationAddress bytes
  change _ = firstOf 1 _ at source
  change _ = firstOf 2 _ at destination
  rw [pairOf, ← source, ← destination]
  simp only [ofAddresses?, Option.bind_eq_bind, Option.bind_assoc]

theorem ofTuple?_eq_directionOf (found : Option Attr) :
    (found.bind fun tuple => ofTuple? tuple.payload) = directionOf found := by
  cases found with
  | none => rfl
  | some tuple =>
    have part := Field.find?_eq_firstOf Field.addresses tuple.payload
    change _ = firstOf 0x8001 tuple.children at part
    rw [Option.bind_some, ofTuple?, part, directionOf]
    cases firstOf 0x8001 tuple.children with
    | none => rfl
    | some part => exact ofAddresses?_eq_pairOf part.payload

end AddressPair

namespace Record

theorem word32_eq_wordOf (field : Field) (body : Bytes) :
    word32 field body = wordOf (firstOf field.wireType (Attr.list body)) := by
  rw [word32, Field.find?_eq_firstOf, word32Value?_eq_wordOf]

theorem tuple?_eq_directionOf (field : Field) (body : Bytes) :
    tuple? field body = directionOf (firstOf field.wireType (Attr.list body)) := by
  rw [tuple?, AddressPair.ofTuple?_eq_directionOf, Field.find?_eq_firstOf]

/-- Four scans find what one pass over the list tells. -/
theorem ofBody_eq_ofListed (header : Header) (family : FamilyHeader) (body : Bytes) :
    ofBody header family body = ofListed header family (Attr.list body) := by
  simp only [ofBody, tuple?_eq_directionOf, word32_eq_wordOf]
  rfl

/-- A decoded record comes from the family header and the attributes that stand
in the declared body behind it. -/
theorem ofBody_of_scan {header : Header} {cursor behind : Cursor} {record : Record}
    (decoded : cursor.scan (decode? header) = (some record, behind)) :
    ∃ family base, cursor.read? FamilyHeader.read? = some (family, base) ∧
      record = ofBody header family (base.window (bodyLength header)).rest := by
  have found : (decode? header cursor.rest).1 = some record := congrArg Prod.fst decoded
  cases read : FamilyHeader.read? cursor.rest with
  | none => simp [decode?, read] at found
  | some outcome =>
    obtain ⟨family, rest⟩ := outcome
    have left := cursor.rest_stopAt (FamilyHeader.encode_of_read? read)
    refine ⟨family, cursor.stopAt rest, Cursor.read?_of_some read, ?_⟩
    simp only [decode?, read] at found
    cases taken : take? (roundUp4 (bodyLength header)) rest with
    | none => simp [taken] at found
    | some outcome =>
      obtain ⟨padded, after⟩ := outcome
      obtain ⟨rfl, width⟩ := take?_eq_some taken
      have above := le_roundUp4 (bodyLength header)
      rw [← width] at above
      simp only [taken, Option.some.injEq] at found
      rw [Cursor.window, Cursor.rest_start, left, List.take_append_of_le_length above]
      exact found.symm

end Record

end Conntrack.Connection
