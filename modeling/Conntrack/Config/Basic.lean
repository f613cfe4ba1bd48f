/-!
# Socket configuration

Sizes of the receive buffer and of the receive timeout, and the multicast
groups to join. The kernel takes groups 1 to 32 as a bit mask; groups outside
that range are kept in the configuration and have no bit in the mask.
-/

namespace Conntrack

/-! Multicast groups of connection events. -/

def newGroup : UInt32 := 1
def updateGroup : UInt32 := 2
def destroyGroup : UInt32 := 3

def defaultReceiveBuffer : UInt64 := 32768
def defaultReceiveTimeout : UInt64 := 1

/-- The bit of a group, or none. -/
def groupMask (group : UInt32) : UInt32 :=
  if 1 ≤ group ∧ group ≤ 32 then 1 <<< (group - 1) else 0

structure Config where
  /-- Bytes. -/
  receiveBuffer : UInt64 := defaultReceiveBuffer
  /-- Seconds; zero waits without end. -/
  receiveTimeout : UInt64 := defaultReceiveTimeout
  groups : List UInt32 := []
  deriving DecidableEq, Repr

namespace Config

/-- The defaults with all three groups of connection events. -/
def events : Config := { groups := [newGroup, updateGroup, destroyGroup] }

/-- The mask to bind a socket with. -/
def mask (config : Config) : UInt32 :=
  config.groups.foldl (fun mask group => mask ||| groupMask group) 0

end Config

end Conntrack
