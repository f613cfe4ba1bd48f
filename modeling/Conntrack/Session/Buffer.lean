import Conntrack.Wire.Bytes

/-!
# Receive buffers

One buffer takes datagram after datagram. It is never cleared: a datagram
overwrites the front and leaves the bytes behind it as they were, so a short
datagram stands in front of what is left of a longer one before it. The size is
chosen by a user and may be far more than what is ever received, so only the
part that was written to is kept; the rest is zero. It may even be more than any
buffer can have (`largest`), and then there is none (`allocate?`).
-/

namespace Conntrack

open Wire

structure Buffer where
  size : Nat
  /-- The front of the buffer, up to the last byte that was ever written to. -/
  written : Bytes
  fits : written.length ≤ size
  deriving DecidableEq, Repr

namespace Buffer

/-- A buffer of zeros. -/
def zeros (size : Nat) : Buffer := ⟨size, [], Nat.zero_le size⟩

/-- The most bytes that a buffer can have: those that a signed machine word counts. -/
def largest : Nat := 0x7fffffffffffffff

/-- A new buffer of zeros, if there can be one of that size. That there is memory
for it is taken for granted. -/
def allocate? (size : Nat) : Option Buffer :=
  if size ≤ largest then some (zeros size) else none

/-- Write bytes over the front, as many as there is room for. -/
def fill (buffer : Buffer) (bytes : Bytes) : Buffer where
  size := buffer.size
  written := bytes.take buffer.size ++ buffer.written.drop bytes.length
  fits := by
    have kept := buffer.fits
    rw [List.length_append, List.length_take, List.length_drop]
    omega

/-- The first bytes of the buffer. -/
def front (buffer : Buffer) (count : Nat) : Bytes :=
  buffer.written.take count ++
    List.replicate (min count buffer.size - buffer.written.length) 0

/-- All bytes of the buffer. -/
def bytes (buffer : Buffer) : Bytes := buffer.front buffer.size

@[simp] theorem size_zeros (size : Nat) : (zeros size).size = size := rfl

@[simp] theorem size_fill (buffer : Buffer) (bytes : Bytes) :
    (buffer.fill bytes).size = buffer.size := rfl

theorem allocate?_of_le {size : Nat} (room : size ≤ largest) :
    allocate? size = some (zeros size) :=
  if_pos room

theorem allocate?_of_lt {size : Nat} (oversized : largest < size) : allocate? size = none :=
  if_neg (Nat.not_le_of_lt oversized)

theorem bytes_zeros (size : Nat) : (zeros size).bytes = List.replicate size 0 := by
  simp [bytes, front, zeros]

/-- What was written last stands at the front, whatever the buffer held before. -/
theorem front_fill (buffer : Buffer) {bytes : Bytes} (room : bytes.length ≤ buffer.size) :
    (buffer.fill bytes).front bytes.length = bytes := by
  have whole : bytes.take buffer.size = bytes := List.take_of_length_le room
  simp [front, fill, whole, Nat.min_eq_left room]

/-- Behind what was written last the buffer is as before. -/
theorem bytes_fill (buffer : Buffer) {bytes : Bytes} (room : bytes.length ≤ buffer.size) :
    (buffer.fill bytes).bytes = bytes ++ buffer.bytes.drop bytes.length := by
  have kept := buffer.fits
  have whole : bytes.take buffer.size = bytes := List.take_of_length_le room
  have before : buffer.written.take buffer.size = buffer.written := List.take_of_length_le kept
  have after : (bytes ++ buffer.written.drop bytes.length).take buffer.size =
      bytes ++ buffer.written.drop bytes.length := by
    apply List.take_of_length_le
    rw [List.length_append, List.length_drop]
    omega
  have zeros : buffer.size - (bytes.length + (buffer.written.length - bytes.length)) =
      buffer.size - buffer.written.length - (bytes.length - buffer.written.length) := by
    omega
  simp [Buffer.bytes, front, fill, whole, before, after, zeros, List.drop_append]

end Buffer

end Conntrack
