import Conntrack.Config.Basic
import Conntrack.Host.Basic
import Conntrack.Session.Buffer

/-!
# Netlink sockets

A socket is opened, bound to the configured groups and given its receive buffer
and timeout, in this order. `Socket.withOpen` closes it after its use however
that ends, and also when the set-up fails half way; a socket that could not be
opened is not closed. What is received goes through a buffer that outlives the
receive and keeps its content also when something fails.
-/

namespace Conntrack

open Wire

/-- The system calls that a socket error can come from. -/
inductive SocketStep where
  | socket
  | bind
  | receiveBuffer
  | receiveTimeout
  | send
  | receive
  deriving DecidableEq, Repr

def SocketStep.name : SocketStep → String
  | .socket => "socket()"
  | .bind => "bind()"
  | .receiveBuffer => "setsockopt(SO_RCVBUF)"
  | .receiveTimeout => "setsockopt(SO_RCVTIMEO)"
  | .send => "sendto()"
  | .receive => "recv()"

inductive SocketError where
  | failed (step : SocketStep) (errno : Errno)
  /-- Nothing arrived before the receive timeout. -/
  | timedOut
  | shortSend (sent size : Nat)
  deriving DecidableEq, Repr

namespace SocketError

def message : SocketError → String
  | .failed step errno => step.name ++ " failed: " ++ Errno.message errno
  | .timedOut => SocketStep.receive.name ++ " timeout"
  | .shortSend sent size =>
    "Short send: sent " ++ toString sent ++ " of " ++ toString size ++ " bytes"

/-- The error number of the failed call, where it is kept. -/
def errno? : SocketError → Option Errno
  | .failed _ errno => some errno
  | .timedOut => none
  | .shortSend _ _ => none

def isTimeout : SocketError → Bool
  | .failed _ errno => Errno.isTimeout errno
  | .timedOut => true
  | .shortSend _ _ => false

end SocketError

/-- A session that receives into one buffer. -/
abbrev Receiving (ε α : Type) := ExceptT ε (StateT Buffer (StateM Host)) α

/-- Receive into the given buffer, which is then given up. -/
def Receiving.within {ε α : Type} (buffer : Buffer) (use : Receiving ε α) : Session ε α :=
  fun host =>
    let ((result, _), host) := use buffer host
    (result, host)

namespace Socket

/-- The largest receive buffer that the option can ask for. -/
def maxReceiveBuffer : Nat := 0x7fffffff

/-- The longest receive timeout that the option can ask for. -/
def maxReceiveTimeout : Nat := 0x7fffffffffffffff

/-- Bind the open socket and set its options. -/
def setUp (config : Config) : Session SocketError Unit := do
  ExceptT.adapt (.failed .bind) (Host.bind config.mask)
  ExceptT.adapt (.failed .receiveBuffer)
    (Host.setReceiveBuffer (min config.receiveBuffer.toNat maxReceiveBuffer))
  ExceptT.adapt (.failed .receiveTimeout)
    (Host.setReceiveTimeout (min config.receiveTimeout.toNat maxReceiveTimeout))

/-- Use a socket of the given configuration, and close it at the end. -/
def withOpen {ε α : Type} (config : Config) (lift : SocketError → ε) (use : Session ε α) :
    Session ε α := fun host =>
  match Host.socket host with
  | (.error errno, host) => (.error (lift (.failed .socket errno)), host)
  | (.ok (), host) =>
    let (result, host) := (do ExceptT.adapt lift (setUp config); use : Session ε α) host
    (result, host.log .close)

/-- Send all the bytes or fail. -/
def send (bytes : Bytes) : Session SocketError Unit := do
  let sent ← ExceptT.adapt (.failed .send) (Host.send bytes)
  if sent = bytes.length then pure () else throw (.shortSend sent bytes.length)

def receiveError (errno : Errno) : SocketError :=
  if Errno.isTimeout errno then .timedOut else .failed .receive errno

/-- Receive one datagram into the buffer; the result is how many bytes it put there. -/
def receiveInto : Receiving SocketError Nat := fun buffer host =>
  match Host.receive buffer.size host with
  | (.ok bytes, host) => ((.ok bytes.length, buffer.fill bytes), host)
  | (.error errno, host) => ((.error (receiveError errno), buffer), host)

/-- Receive one datagram; the result is the part of the buffer that it was put in. -/
def receiveBytes : Receiving SocketError Bytes := do
  let count ← receiveInto
  return (← getThe Buffer).front count

/-- Receive one datagram into a buffer of its own. -/
def receive (capacity : Nat) : Session SocketError Bytes :=
  receiveBytes.within (.zeros capacity)

end Socket

end Conntrack
