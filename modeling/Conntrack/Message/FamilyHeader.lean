import Conntrack.Wire.Bytes

/-!
# Family headers

The four bytes behind the message header of every netfilter message: address
family, version and a resource id, the only header field in network order.
-/

namespace Conntrack.Message

open Wire

/-- The only version of the family header. -/
def familyVersion : UInt8 := 0

def inetFamily : UInt8 := 2
def inet6Family : UInt8 := 10

structure FamilyHeader where
  family : UInt8
  version : UInt8 := familyVersion
  resource : UInt16 := 0
  deriving DecidableEq, Repr

namespace FamilyHeader

def size : Nat := 4

def encode (header : FamilyHeader) : Bytes :=
  header.family :: header.version :: networkWord16 header.resource

def read? : Reader FamilyHeader := fun bytes => do
  let (family, rest) ← byte? bytes
  let (version, rest) ← byte? rest
  let (resource, rest) ← networkWord16? rest
  some (⟨family, version, resource⟩, rest)

@[simp] theorem length_encode (header : FamilyHeader) : header.encode.length = size := by
  simp [encode, networkWord16, size]

theorem read?_encode (header : FamilyHeader) (rest : Bytes) :
    read? (header.encode ++ rest) = some (header, rest) := by
  simp [read?, encode, byte?, networkWord16?_append]

theorem encode_of_read? {bytes rest : Bytes} {header : FamilyHeader}
    (read : read? bytes = some (header, rest)) : bytes = header.encode ++ rest := by
  simp only [read?, Option.bind_eq_bind, Option.bind_eq_some_iff] at read
  obtain ⟨⟨number, _⟩, readFamily, ⟨version, _⟩, readVersion,
    ⟨resource, _⟩, readResource, kept⟩ := read
  simp only [Option.some.injEq, Prod.mk.injEq] at kept
  obtain ⟨rfl, rfl⟩ := kept
  dsimp only at readVersion readResource
  rw [byte?_eq_some readFamily, byte?_eq_some readVersion, networkWord16?_eq_some readResource]
  simp [encode]

end FamilyHeader

end Conntrack.Message
