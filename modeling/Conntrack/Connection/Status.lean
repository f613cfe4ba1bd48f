/-!
# Status bits of a connection
-/

namespace Conntrack.Connection.Status

def expected : UInt32 := 0x1
def seenReply : UInt32 := 0x2
def assured : UInt32 := 0x4
def confirmed : UInt32 := 0x8
def sourceNat : UInt32 := 0x10
def destinationNat : UInt32 := 0x20
def sequenceAdjusted : UInt32 := 0x40
def sourceNatDone : UInt32 := 0x80
def destinationNatDone : UInt32 := 0x100
def dying : UInt32 := 0x200
def fixedTimeout : UInt32 := 0x400
def template : UInt32 := 0x800
def untracked : UInt32 := 0x1000
def helper : UInt32 := 0x2000
def offloaded : UInt32 := 0x4000

/-- Whether every bit of `flags` is set. -/
def has (status flags : UInt32) : Bool := status &&& flags == flags

end Conntrack.Connection.Status
