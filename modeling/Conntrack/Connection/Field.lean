import Conntrack.Wire.Attr

/-!
# Attribute fields of a connection

Type codes are unique within one nesting scope only: the address pair of a
tuple and the source address of a pair both have code 1. A field that holds
attributes is always asked for, and written, with the nested flag.
-/

namespace Conntrack.Connection

open Wire

structure Field where
  code : UInt16
  nested : Bool
  deriving DecidableEq, Repr

namespace Field

/-- The type on the wire. -/
def wireType (field : Field) : UInt16 :=
  if field.nested then Attr.nestedType field.code else field.code

/-- The first attribute of the field in a run of attributes. -/
def find? (field : Field) (bytes : Bytes) : Option Attr :=
  (Attr.find? field.wireType bytes).1

/-! Fields of a connection message. -/

def forwardTuple : Field := ⟨1, true⟩
def replyTuple : Field := ⟨2, true⟩
def status : Field := ⟨3, false⟩
def timeout : Field := ⟨7, false⟩

/-! Fields of a tuple. -/

def addresses : Field := ⟨1, true⟩
def transport : Field := ⟨2, true⟩

/-! Fields of the address pair of a tuple. -/

def sourceAddress : Field := ⟨1, false⟩
def destinationAddress : Field := ⟨2, false⟩

/-! Fields of the transport part of a tuple. -/

def protocol : Field := ⟨1, false⟩
def sourcePort : Field := ⟨2, false⟩
def destinationPort : Field := ⟨3, false⟩

end Field

end Conntrack.Connection
