import Conntrack.Connection.Event
import Conntrack.Connection.Record

/-!
# Requests for a new timeout

The request names an existing IPv4 connection by its forward direction and asks
to replace its timeout. The kernel is asked to acknowledge it.
-/

namespace Conntrack.Connection

open Wire Message

/-! Transport protocols. -/

def tcpProtocol : UInt8 := 6
def udpProtocol : UInt8 := 17

structure TimeoutUpdate where
  protocol : UInt8
  source : Address
  sourcePort : UInt16
  destination : Address
  destinationPort : UInt16
  /-- Seconds. -/
  timeout : UInt32
  deriving DecidableEq, Repr

namespace TimeoutUpdate

/-- The connection by its addresses and ports. -/
def tuple (update : TimeoutUpdate) : AttrTree :=
  .nested Field.forwardTuple.code [
    .nested Field.addresses.code [
      addressLeaf Field.sourceAddress.code update.source,
      addressLeaf Field.destinationAddress.code update.destination],
    .nested Field.transport.code [
      .byte Field.protocol.code update.protocol,
      .word16 Field.sourcePort.code update.sourcePort,
      .word16 Field.destinationPort.code update.destinationPort]]

def trees (update : TimeoutUpdate) : List AttrTree :=
  [update.tuple, .word32 Field.timeout.code update.timeout]

/-- The header, with the length that the attributes will take up. -/
def header (update : TimeoutUpdate) : Header where
  length := UInt32.ofNat (Record.headersLength + AttrTree.paddedLengths update.trees)
  type := conntrackType Event.newOperation
  flags := requestFlag ||| acknowledgeFlag ||| replaceFlag
  sequence := 1
  sender := 0

/-- The request on the wire. -/
def encode (update : TimeoutUpdate) : Bytes :=
  let headers := update.header.encode ++ FamilyHeader.encode ⟨inetFamily, familyVersion, 0⟩
  (AttrTree.packAll update.trees headers.toArray).toList

end TimeoutUpdate

end Conntrack.Connection
