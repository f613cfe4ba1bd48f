import Conntrack.Connection.Event
import Conntrack.Connection.Record

/-!
# Datagrams

The kernel sends messages back to back, each padded to a multiple of four
bytes. The walk goes from header to header until fewer bytes than a header
remain, an end marker or a refusal of the kernel stops it, or a message with a
bad length makes the whole datagram unusable. Control messages without content,
messages of other subsystems, and messages about connections that cannot be
decoded leave no entry.
-/

namespace Conntrack.Datagram

open Wire Message Connection

/-- What a message of a datagram says. -/
inductive Entry where
  | tracked (event : Event) (record : Record)
  | done
  /-- The outcome of a request: zero is an acknowledgement, all else an error number. -/
  | outcome (code : Int32)
  deriving DecidableEq, Repr

/-- Why a datagram is unusable. -/
inductive Fault where
  | lengthBelowHeader (length : Nat)
  | lengthBeyondEnd (length offset size : Nat)
  | codeMissing (length : Nat)
  deriving DecidableEq, Repr

def Fault.message : Fault → String
  | .lengthBelowHeader length =>
    "Invalid message length: " ++ toString length ++
      " (minimum is " ++ toString Header.size ++ ")"
  | .lengthBeyondEnd length offset size =>
    "Message length " ++ toString length ++ " exceeds buffer size (offset=" ++
      toString offset ++ ", buffer=" ++ toString size ++ ")"
  | .codeMissing length => "Error message too small: " ++ toString length ++ " bytes"

/-- The error number in an error message, header included. The kernel sends it
negated; negating wraps around at the least number. -/
def outcomeCode (message : Bytes) : Except Fault Int32 :=
  match hostWord32? (message.drop Header.size) with
  | none => .error (.codeMissing message.length)
  | some (code, _) => .ok (-code.toInt32)

/-- No code but zero is an acknowledgement, although negating wraps around. -/
theorem negated_eq_zero_iff {raw : Int32} : -raw = 0 ↔ raw = 0 := by
  constructor
  · intro negated
    exact Int32.neg_inj.mp (negated.trans Int32.neg_zero.symm)
  · intro zero
    rw [zero]
    rfl

/-- What one message does to the walk. -/
inductive Step where
  | skip
  | entry (entry : Entry)
  | last (entry : Entry)
  deriving DecidableEq, Repr

/-- The step of the message at the front of the bytes, whose length has been
checked. A record is decoded with the whole rest of the datagram at hand. -/
def step (header : Header) (bytes : Bytes) : Except Fault Step :=
  match header.purpose with
  | .done => .ok (.last .done)
  | .error =>
    match outcomeCode (bytes.take header.length.toNat) with
    | .error fault => .error fault
    | .ok code => .ok (if code = 0 then .entry (.outcome code) else .last (.outcome code))
  | .conntrack operation =>
    match (Record.decode? header (bytes.drop Header.size)).1 with
    | none => .ok .skip
    | some record => .ok (.entry (.tracked (Event.ofOperation operation) record))
  | .noop | .overrun | .foreign => .ok .skip

/-- The bad length of a message at an offset in a datagram of a size, if it is bad. -/
def lengthFault? (header : Header) (offset size : Nat) : Option Fault :=
  let length := header.length.toNat
  if length < Header.size then some (.lengthBelowHeader length)
  else if size < offset + length then some (.lengthBeyondEnd length offset size)
  else none

theorem size_le_of_lengthFault? {header : Header} {offset size : Nat}
    (good : lengthFault? header offset size = none) : Header.size ≤ header.length.toNat := by
  simp only [lengthFault?] at good
  split at good
  · cases good
  · omega

/-- A step over a message leaves fewer bytes, so the walk ends. -/
theorem skip_shrinks {header : Header} {bytes rest : Bytes} {offset size : Nat}
    (read : Header.read? bytes = some (header, rest))
    (good : lengthFault? header offset size = none) :
    (bytes.drop (roundUp4 header.length.toNat)).length < bytes.length := by
  have long := size_le_of_lengthFault? good
  have above := le_roundUp4 header.length.toNat
  have present := congrArg List.length (Header.encode_of_read? read)
  rw [List.length_append, Header.length_encode] at present
  unfold Header.size at *
  rw [List.length_drop]
  omega

/-- The entries of the messages from an offset on. -/
def walk (size offset : Nat) (bytes : Bytes) : Except Fault (List Entry) :=
  match read : Header.read? bytes with
  | none => .ok []
  | some (header, _) =>
    match good : lengthFault? header offset size with
    | some fault => .error fault
    | none =>
      have := skip_shrinks read good
      let span := roundUp4 header.length.toNat
      match step header bytes with
      | .error fault => .error fault
      | .ok .skip => walk size (offset + span) (bytes.drop span)
      | .ok (.entry entry) => (walk size (offset + span) (bytes.drop span)).map (entry :: ·)
      | .ok (.last entry) => .ok [entry]
termination_by bytes.length
decreasing_by all_goals assumption

/-- The entries of a datagram, in order. -/
def entries (bytes : Bytes) : Except Fault (List Entry) := walk bytes.length 0 bytes

end Conntrack.Datagram
