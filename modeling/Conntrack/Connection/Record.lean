import Conntrack.Connection.Address
import Conntrack.Connection.Field
import Conntrack.Connection.Status
import Conntrack.Message.FamilyHeader
import Conntrack.Message.Header

/-!
# Connection records

A record is what one message says about one connection. Decoding fails only on
missing bytes: the family header, or the body of declared length with its
padding. Each optional field is looked up on its own from the front of the
body, and one that is absent or malformed takes its default and leaves the
others alone.
-/

namespace Conntrack.Connection

open Wire Message

/-- The two ends of one direction of a connection. -/
structure AddressPair where
  source : Address
  destination : Address
  deriving DecidableEq, Repr

namespace AddressPair

/-- Both addresses out of the address part of a tuple. -/
def ofAddresses? (bytes : Bytes) : Option AddressPair := do
  let source ← addressOf? (← Field.sourceAddress.find? bytes)
  let destination ← addressOf? (← Field.destinationAddress.find? bytes)
  some ⟨source, destination⟩

/-- Both addresses out of a tuple; its transport part is not read. -/
def ofTuple? (bytes : Bytes) : Option AddressPair := do
  let addresses ← Field.addresses.find? bytes
  ofAddresses? addresses.payload

end AddressPair

structure Record where
  header : Header
  family : FamilyHeader
  /-- The direction of the first packet, if told and well formed. -/
  forward : Option AddressPair
  /-- The direction of the answers, if told and well formed. -/
  reply : Option AddressPair
  status : UInt32
  /-- Seconds. -/
  timeout : UInt32
  deriving DecidableEq, Repr

namespace Record

/-- The bytes in front of the attributes: message header and family header. -/
def headersLength : Nat := Header.size + FamilyHeader.size

/-- The declared length of the body; none for a length that does not even cover the headers. -/
def bodyLength (header : Header) : Nat := header.length.toNat - headersLength

/-- The 32-bit value of a field, zero if it is absent or of another width. -/
def word32 (field : Field) (body : Bytes) : UInt32 :=
  ((field.find? body).bind Attr.word32Value?).getD 0

def tuple? (field : Field) (body : Bytes) : Option AddressPair :=
  (field.find? body).bind fun tuple => AddressPair.ofTuple? tuple.payload

/-- The record that the attributes in a body tell. -/
def ofBody (header : Header) (family : FamilyHeader) (body : Bytes) : Record where
  header := header
  family := family
  forward := tuple? .forwardTuple body
  reply := tuple? .replyTuple body
  status := word32 .status body
  timeout := word32 .timeout body

/-- Decode what follows a message header, and say what is left: on success the
bytes behind the padded body, else the bytes from the missing part on. More may
follow than the message itself, but no field is read beyond its declared length. -/
def decode? (header : Header) (bytes : Bytes) : Option Record × Bytes :=
  match FamilyHeader.read? bytes with
  | none => (none, bytes)
  | some (family, rest) =>
    match take? (roundUp4 (bodyLength header)) rest with
    | none => (none, rest)
    | some (padded, after) => (some (ofBody header family (padded.take (bodyLength header))), after)

def isAssured (record : Record) : Bool := Status.has record.status Status.assured

def isConfirmed (record : Record) : Bool := Status.has record.status Status.confirmed

def isDying (record : Record) : Bool := Status.has record.status Status.dying

end Record

end Conntrack.Connection
