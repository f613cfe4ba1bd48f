import Conntrack.Proofs.OnePass

/-!
# A record is told by the declared bytes

Decoding wants the padded body to be there, and takes the window for the scans
by the length that the header declares, without the padding. So a record is a
function of its header and of the declared bytes behind it, the family header
and the unpadded body (`ofDeclared?_of_scan`): two places at which the same
bytes are declared give the same record, wherever they lie and whatever stands
around them (`record_eq_of_declared`). An attribute that declares more than the
body holds is cut off there, even if the bytes it declares are in the padding.
-/

namespace Conntrack.Connection.Record

open Wire Message

/-- How many bytes behind its header a message declares: family header and body, no padding. -/
def declaredLength (header : Header) : Nat := FamilyHeader.size + bodyLength header

/-- The record that a family header and a body tell with nothing behind them. -/
def ofDeclared? (header : Header) (declared : Bytes) : Option Record :=
  (FamilyHeader.read? declared).map fun (family, body) => ofBody header family body

variable {header : Header} {cursor behind : Cursor} {record : Record}

/-- What is decoded at a cursor is told by the declared bytes there. -/
theorem ofDeclared?_of_scan (decoded : cursor.scan (decode? header) = (some record, behind)) :
    ofDeclared? header (cursor.rest.take (declaredLength header)) = some record := by
  obtain ⟨family, base, read, told⟩ := ofBody_of_scan decoded
  obtain ⟨⟨found, rest⟩, readable, moved⟩ := Option.map_eq_some_iff.mp read
  obtain ⟨rfl, rfl⟩ := Prod.mk.inj moved
  have split : cursor.rest = found.encode ++ rest := FamilyHeader.encode_of_read? readable
  -- the window begins behind the family header, so the two lengths add up
  have declared : cursor.rest.take (declaredLength header) =
      found.encode ++ rest.take (bodyLength header) := by
    rw [split, declaredLength, ← found.length_encode, List.take_length_add_append]
  have window : ((cursor.stopAt rest).window (bodyLength header)).rest =
      rest.take (bodyLength header) := by
    rw [Cursor.window, Cursor.rest_start, cursor.rest_stopAt split]
  rw [ofDeclared?, declared, FamilyHeader.read?_encode, told, window]
  rfl

/-- Two messages that declare the same bytes behind the same header give the
same record where they are decoded: no field depends on the padding, on what
stands in front or behind, or on the place. -/
theorem record_eq_of_declared {first second past : Cursor} {other : Record}
    (decoded : first.scan (decode? header) = (some record, behind))
    (also : second.scan (decode? header) = (some other, past))
    (same : first.rest.take (4 + (header.length.toNat - 20)) =
      second.rest.take (4 + (header.length.toNat - 20))) :
    record = other := by
  have told := ofDeclared?_of_scan decoded
  have toldAlso := ofDeclared?_of_scan also
  have lengths : declaredLength header = 4 + (header.length.toNat - 20) := rfl
  rw [lengths, same] at told
  rw [lengths, told] at toldAlso
  exact Option.some.inj toldAlso

/-! A body that ends in the middle of a timeout, whose missing bytes are in the padding. -/

def cutHeader : Header := ⟨34, conntrackType 0, 0, 0, 0⟩

/-- A family header, a status, and an attribute with two of its four bytes. -/
def cutDeclared : Bytes :=
  FamilyHeader.encode ⟨inetFamily, familyVersion, 0⟩ ++
    [8, 0, 3, 0, 0, 0, 0, 6, 8, 0, 7, 0, 0, 0]

def cutFirst : Cursor := Cursor.start (cutDeclared ++ [0, 5])

/-- The same further behind, with another padding and more bytes to follow. -/
def cutSecond : Cursor := (Cursor.start ([1, 2, 3] ++ cutDeclared ++ [9, 9, 8, 0, 7, 0])).moveTo 3

def cutRecord : Record where
  header := cutHeader
  family := ⟨inetFamily, familyVersion, 0⟩
  forward := none
  reply := none
  status := 6
  timeout := 0

theorem scan_cutFirst : cutFirst.scan (decode? cutHeader) = (some cutRecord, cutFirst.moveTo 20) := by
  cbv

theorem scan_cutSecond :
    cutSecond.scan (decode? cutHeader) = (some cutRecord, cutSecond.moveTo 23) := by
  cbv

theorem record_eq_of_declared_cut :
    ∃ record other behind past, cutFirst.scan (decode? cutHeader) = (some record, behind) ∧
      cutSecond.scan (decode? cutHeader) = (some other, past) ∧
      cutFirst.rest.take 18 = cutSecond.rest.take 18 ∧ cutFirst.rest ≠ cutSecond.rest ∧
      record.timeout = 0 ∧ record = other := by
  have same : cutFirst.rest.take 18 = cutSecond.rest.take 18 := by decide
  exact ⟨cutRecord, cutRecord, _, _, scan_cutFirst, scan_cutSecond, same, by decide, rfl,
    record_eq_of_declared scan_cutFirst scan_cutSecond same⟩

end Conntrack.Connection.Record
