import Conntrack.Session.Failure

/-!
# Monitoring events

A monitor receives datagram after datagram into one buffer, and each gives the
batch of the events in it. An expired timeout and a receive buffer that
overflowed in the kernel are empty batches; the events that an overflow lost are
gone. A batch that fails does not end the monitor: the next one can be asked for.
There is no monitor without its buffer, which is had after the socket is open: a
size that no buffer can have gives the socket up again.
-/

namespace Conntrack

open Wire Connection

abbrev Batch := List (Event × Record)

/-- The least number of bytes that a datagram may have. -/
def leastCapacity : Nat := 4096

/-- The bytes that a datagram may have. -/
def monitorCapacity (config : Config) : Nat := max config.receiveBuffer.toNat leastCapacity

/-- The buffer of a new monitor. -/
def monitorBuffer (config : Config) : Session Failure Buffer :=
  match Buffer.allocate? (monitorCapacity config) with
  | some buffer => pure buffer
  | none => throw .capacityOverflow

/-- Raising a size to the least one does not make it too large. -/
theorem monitorCapacity_le_iff {config : Config} :
    monitorCapacity config ≤ Buffer.largest ↔ config.receiveBuffer.toNat ≤ Buffer.largest := by
  have least : leastCapacity ≤ Buffer.largest := by decide
  rw [monitorCapacity]
  omega

theorem monitorBuffer_of_le {config : Config}
    (room : config.receiveBuffer.toNat ≤ Buffer.largest) :
    monitorBuffer config = pure (.zeros (monitorCapacity config)) := by
  rw [monitorBuffer, Buffer.allocate?_of_le (monitorCapacity_le_iff.mpr room)]

theorem monitorBuffer_of_lt {config : Config}
    (oversized : Buffer.largest < config.receiveBuffer.toNat) :
    monitorBuffer config = throw .capacityOverflow := by
  have larger : Buffer.largest < monitorCapacity config :=
    Nat.lt_of_not_le fun room => Nat.not_le_of_lt oversized (monitorCapacity_le_iff.mp room)
  rw [monitorBuffer, Buffer.allocate?_of_lt larger]

/-- The event of an entry about a connection. -/
def tracked? : Datagram.Entry → Option (Event × Record)
  | .tracked event record => some (event, record)
  | _ => none

/-- The batch that the outcome of one receive makes. -/
def batchOf : Except SocketError Bytes → Except Failure Batch
  | .error error =>
    if error.isTimeout ∨ error.errno? = some Errno.noBufferSpace then .ok []
    else .error (.socket error)
  | .ok bytes =>
    match Datagram.entries bytes with
    | .error fault => .error (.datagram fault)
    | .ok entries => .ok (entries.filterMap tracked?)

/-- Receive one datagram and give the batch in it. -/
def receiveBatch : Receiving Failure Batch := fun buffer host =>
  let ((received, buffer), host) := Socket.receiveBytes buffer host
  ((batchOf received, buffer), host)

/-- One batch after another, so many of them, whether they fail or not. -/
def receiveBatches : (count : Nat) → StateT Buffer (StateM Host) (List (Except Failure Batch))
  | 0 => pure []
  | count + 1 => do
    let batch ← receiveBatch.run
    return batch :: (← receiveBatches count)

/-- Subscribe and take so many batches. -/
def subscribedBatches (config : Config) (count : Nat) :
    Session Failure (List (Except Failure Batch)) :=
  Socket.withOpen config .socket do
    let buffer ← monitorBuffer config
    Receiving.within buffer (ExceptT.lift (receiveBatches count))

end Conntrack
