import Conntrack.Datagram
import Conntrack.Session.Socket

/-!
# Failures of an exchange with the kernel
-/

namespace Conntrack

inductive Failure where
  | socket (error : SocketError)
  | datagram (fault : Datagram.Fault)
  /-- No connection matches the request. -/
  | notFound
  | permissionDenied
  | kernel (code : Int32)
  | noAcknowledgement
  /-- There can be no buffer of the size that was asked for. No caller handles this
  one: whatever is under way is given up. -/
  | capacityOverflow
  deriving DecidableEq, Repr

namespace Failure

/-- What a code other than zero means. -/
def ofCode (code : Int32) : Failure :=
  if code = Int32.ofNat Errno.noEntry then .notFound
  else if code = Int32.ofNat Errno.notPermitted ∨ code = Int32.ofNat Errno.accessDenied then
    .permissionDenied
  else .kernel code

def message : Failure → String
  | .socket error => "Socket error: " ++ error.message
  | .datagram fault => "Message error: " ++ fault.message
  | .notFound => "Conntrack entry not found"
  | .permissionDenied => "Permission denied (need CAP_NET_ADMIN)"
  | .kernel code => "Kernel returned error: errno " ++ toString code.toInt
  | .noAcknowledgement => "No acknowledgement received from kernel"
  | .capacityOverflow => "capacity overflow"

end Failure

end Conntrack
