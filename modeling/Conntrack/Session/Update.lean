import Conntrack.Connection.TimeoutUpdate
import Conntrack.Session.Failure

/-!
# Updating a timeout

One request is sent and one datagram received. The update has succeeded if the
first outcome in that datagram is an acknowledgement.
-/

namespace Conntrack

open Wire Connection

/-- The bytes that a reply may have. -/
def replyCapacity : Nat := 4096

/-- The code of an outcome. -/
def outcome? : Datagram.Entry → Option Int32
  | .outcome code => some code
  | _ => none

/-- What a reply says about the request. -/
def acknowledged (reply : Bytes) : Except Failure Unit :=
  match Datagram.entries reply with
  | .error fault => .error (.datagram fault)
  | .ok entries =>
    match entries.findSome? outcome? with
    | none => .error .noAcknowledgement
    | some code => if code = 0 then .ok () else .error (.ofCode code)

/-- Ask the kernel for a new timeout, on an open socket. -/
def updateTimeout (update : TimeoutUpdate) : Session Failure Unit := do
  ExceptT.adapt .socket (Socket.send update.encode)
  let reply ← ExceptT.adapt .socket (Socket.receive replyCapacity)
  liftExcept (acknowledged reply)
where
  liftExcept (result : Except Failure Unit) : Session Failure Unit := fun host => (result, host)

end Conntrack
