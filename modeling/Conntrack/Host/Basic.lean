import Conntrack.Host.Errno
import Conntrack.Wire.Bytes

/-!
# The host

A program runs against a host: it makes system calls, installs an interrupt
handler, reads files and writes lines. A `Host` says in advance how every call
will end, and keeps what has happened so far: the calls in order, the lines
that were written, and whether the handler has run. A session is a program of
such effects that ends with a value or an error.
-/

namespace Conntrack

open Wire

/-- The address of a netlink socket. -/
structure SocketAddress where
  family : Nat
  /-- Zero for the kernel, and for a socket that the kernel is to give an id. -/
  id : UInt32
  groups : UInt32
  deriving DecidableEq, Repr

/-- System calls on sockets, with their arguments. -/
inductive Call where
  | socket (domain type protocol : Nat)
  | bind (address : SocketAddress)
  | setReceiveBuffer (size : Nat)
  | setReceiveTimeout (seconds microseconds : Nat)
  | sendTo (bytes : Bytes) (address : SocketAddress)
  | receive (capacity : Nat)
  | close
  deriving DecidableEq, Repr

/-- How a call to send ends. -/
inductive SendReply where
  | complete
  | partially (count : Nat)
  | failed (errno : Errno)
  deriving DecidableEq, Repr

/-- How a call to receive ends. -/
inductive ReceiveReply where
  | datagram (bytes : Bytes)
  | failed (errno : Errno)
  deriving DecidableEq, Repr

/-- One call to receive: how it ends, and whether an interrupt comes before that. -/
structure Arrival where
  reply : ReceiveReply
  interrupt : Bool := false
  deriving DecidableEq, Repr

structure Host where
  socketFault : Option Errno := none
  bindFault : Option Errno := none
  receiveBufferFault : Option Errno := none
  receiveTimeoutFault : Option Errno := none
  /-- One reply per call to send; later calls send everything. -/
  sends : List SendReply := []
  /-- One arrival per call to receive; later calls fail. -/
  arrivals : List Arrival := []
  /-- The reason why an interrupt handler cannot be installed. -/
  handlerFault : Option String := none
  /-- The number of lines that standard output takes before it is closed. -/
  lineLimit : Option Nat := none
  files : String → Except Errno Bytes := fun _ => .error Errno.noEntry
  calls : Array Call := #[]
  lines : Array String := #[]
  handlerInstalled : Bool := false
  interrupted : Bool := false

/-- A program on a host, which ends with a value or an error. -/
abbrev Session (ε α : Type) := ExceptT ε (StateM Host) α

namespace Host

def netlinkDomain : Nat := 16
def netfilterProtocol : Nat := 12

/-- A raw socket that is closed when another program is started. -/
def rawType : Nat := 524291

/-- The kernel itself, or a socket that the kernel is to give an id. -/
def kernelAddress : SocketAddress := ⟨netlinkDomain, 0, 0⟩

def log (host : Host) (call : Call) : Host := { host with calls := host.calls.push call }

/-- A call that has no result but may fail. -/
def perform (call : Call) (fault : Host → Option Errno) : Session Errno Unit := fun host =>
  match fault host with
  | some errno => (.error errno, host.log call)
  | none => (.ok (), host.log call)

def socket : Session Errno Unit :=
  perform (.socket netlinkDomain rawType netfilterProtocol) socketFault

def bind (groups : UInt32) : Session Errno Unit :=
  perform (.bind { kernelAddress with groups }) bindFault

def setReceiveBuffer (size : Nat) : Session Errno Unit :=
  perform (.setReceiveBuffer size) receiveBufferFault

def setReceiveTimeout (seconds : Nat) : Session Errno Unit :=
  perform (.setReceiveTimeout seconds 0) receiveTimeoutFault

/-- Send to the kernel; the result is the number of bytes it took. -/
def send (bytes : Bytes) : Session Errno Nat := fun host =>
  let called := host.log (.sendTo bytes kernelAddress)
  match host.sends with
  | [] => (.ok bytes.length, called)
  | .complete :: sends => (.ok bytes.length, { called with sends })
  | .partially count :: sends => (.ok count, { called with sends })
  | .failed errno :: sends => (.error errno, { called with sends })

/-- Receive one datagram; what does not fit the capacity is lost. -/
def receive (capacity : Nat) : Session Errno Bytes := fun host =>
  let called := host.log (.receive capacity)
  match host.arrivals with
  | [] => (.error Errno.inputOutput, called)
  | ⟨reply, interrupt⟩ :: arrivals =>
    let interrupted := host.interrupted || interrupt && host.handlerInstalled
    let after := { called with arrivals, interrupted }
    match reply with
    | .datagram bytes => (.ok (bytes.take capacity), after)
    | .failed errno => (.error errno, after)

/-- Have interrupts noted instead of ending the program. -/
def installHandler : Session String Unit := fun host =>
  match host.handlerFault with
  | some reason => (.error reason, host)
  | none => (.ok (), { host with handlerInstalled := true })

/-- Write one line, newline included; false if standard output refuses it. -/
def writeLine (line : String) : StateM Host Bool := fun host =>
  let refused := match host.lineLimit with
    | some limit => decide (limit ≤ host.lines.size)
    | none => false
  if refused then (false, host) else (true, { host with lines := host.lines.push line })

/-- All that was written to standard output. -/
def output (host : Host) : String := String.join host.lines.toList

end Host

end Conntrack
