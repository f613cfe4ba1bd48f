import Conntrack.Connection.Event
import Conntrack.Connection.Record
import Conntrack.Json.Value

/-!
# Event lines

An event is printed as one JSON object on a line of its own: what happened, and
the record with all its headers. Numbers are decimal, addresses dotted, and a
direction that is not known is null.
-/

namespace Conntrack.Connection

open Message

/-- An event without an operation byte is a name, any other an object with that byte. -/
def Event.toJson : Event → Json
  | .new => .string "New"
  | .get => .string "Get"
  | .delete => .string "Delete"
  | .other operation => .record [("Other", .natural operation.toNat)]

def Address.toJson (address : Address) : Json := .string (String.ofList address.write)

def AddressPair.toJson (pair : AddressPair) : Json :=
  .record [("src_ip", pair.source.toJson), ("dst_ip", pair.destination.toJson)]

/-- A direction of a connection, or null. -/
def directionJson : Option AddressPair → Json
  | some pair => pair.toJson
  | none => .null

def headerJson (header : Header) : Json :=
  .record [
    ("nlmsg_len", .natural header.length.toNat),
    ("nlmsg_type", .natural header.type.toNat),
    ("nlmsg_flags", .natural header.flags.toNat),
    ("nlmsg_seq", .natural header.sequence.toNat),
    ("nlmsg_pid", .natural header.sender.toNat)]

def familyJson (family : FamilyHeader) : Json :=
  .record [
    ("nfgen_family", .natural family.family.toNat),
    ("version", .natural family.version.toNat),
    ("res_id", .natural family.resource.toNat)]

def Record.toJson (record : Record) : Json :=
  .record [
    ("header", headerJson record.header),
    ("family_header", familyJson record.family),
    ("tuple_orig", directionJson record.forward),
    ("tuple_reply", directionJson record.reply),
    ("status", .natural record.status.toNat),
    ("timeout_secs", .natural record.timeout.toNat)]

def eventJson (event : Event) (record : Record) : Json :=
  .record [("event", event.toJson), ("record", record.toJson)]

/-- The line that announces an event, newline included. -/
def eventLine (event : Event) (record : Record) : String :=
  String.ofList ((eventJson event record).write ++ ['\n'])

end Conntrack.Connection
