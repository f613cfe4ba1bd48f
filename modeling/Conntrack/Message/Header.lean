import Conntrack.Wire.Bytes

/-!
# Netlink message headers

Sixteen bytes in host order: length, type, flags, sequence number and sender. The
type decides what a message is for (`Header.purpose`): four types are control
messages of netlink itself, and of all others the high byte names the subsystem
and the low byte the operation.

Reading and writing are inverse to each other (`Header.read?_encode`,
`Header.encode_of_read?`).
-/

namespace Conntrack.Message

open Wire

/-! Types of control messages. -/

def noopType : UInt16 := 1
def errorType : UInt16 := 2
def doneType : UInt16 := 3
def overrunType : UInt16 := 4

/-! Flags of requests and replies. -/

def requestFlag : UInt16 := 0x1
def multipartFlag : UInt16 := 0x2
def acknowledgeFlag : UInt16 := 0x4
def echoFlag : UInt16 := 0x8

/-! Flags of requests that make or change an entry. -/

def replaceFlag : UInt16 := 0x100
def exclusiveFlag : UInt16 := 0x200
def createFlag : UInt16 := 0x400
def appendFlag : UInt16 := 0x800

/-- The subsystem of connection tracking. -/
def conntrackSubsystem : UInt8 := 1

/-- The message type of an operation on connections. -/
def conntrackType (operation : UInt8) : UInt16 :=
  conntrackSubsystem.toUInt16 <<< 8 ||| operation.toUInt16

structure Header where
  /-- Bytes of the whole message, header included. -/
  length : UInt32
  type : UInt16
  flags : UInt16
  sequence : UInt32
  sender : UInt32
  deriving DecidableEq, Repr

/-- What a message is for. -/
inductive Purpose where
  | noop
  | error
  | done
  | overrun
  | conntrack (operation : UInt8)
  | foreign
  deriving DecidableEq, Repr

namespace Header

def size : Nat := 16

def zero : Header := ⟨0, 0, 0, 0, 0⟩

def subsystem (header : Header) : UInt8 := (header.type >>> 8).toUInt8

def operation (header : Header) : UInt8 := header.type.toUInt8

def purpose (header : Header) : Purpose :=
  if header.type = doneType then .done
  else if header.type = errorType then .error
  else if header.type = noopType then .noop
  else if header.type = overrunType then .overrun
  else if header.subsystem = conntrackSubsystem then .conntrack header.operation
  else .foreign

def encode (header : Header) : Bytes :=
  hostWord32 header.length ++ hostWord16 header.type ++ hostWord16 header.flags ++
    hostWord32 header.sequence ++ hostWord32 header.sender

def read? : Reader Header := fun bytes => do
  let (length, rest) ← hostWord32? bytes
  let (type, rest) ← hostWord16? rest
  let (flags, rest) ← hostWord16? rest
  let (sequence, rest) ← hostWord32? rest
  let (sender, rest) ← hostWord32? rest
  some (⟨length, type, flags, sequence, sender⟩, rest)

@[simp] theorem length_encode (header : Header) : header.encode.length = size := by
  simp [encode, hostWord32, hostWord16, size]

theorem read?_encode (header : Header) (rest : Bytes) :
    read? (header.encode ++ rest) = some (header, rest) := by
  simp [read?, encode, List.append_assoc, hostWord32?_append, hostWord16?_append]

theorem encode_of_read? {bytes rest : Bytes} {header : Header}
    (read : read? bytes = some (header, rest)) : bytes = header.encode ++ rest := by
  simp only [read?, Option.bind_eq_bind, Option.bind_eq_some_iff] at read
  obtain ⟨⟨length, _⟩, readLength, ⟨type, _⟩, readType, ⟨flags, _⟩, readFlags,
    ⟨sequence, _⟩, readSequence, ⟨sender, _⟩, readSender, kept⟩ := read
  simp only [Option.some.injEq, Prod.mk.injEq] at kept
  obtain ⟨rfl, rfl⟩ := kept
  dsimp only at readType readFlags readSequence readSender
  rw [hostWord32?_eq_some readLength, hostWord16?_eq_some readType,
    hostWord16?_eq_some readFlags, hostWord32?_eq_some readSequence,
    hostWord32?_eq_some readSender]
  simp [encode]

end Header

end Conntrack.Message
