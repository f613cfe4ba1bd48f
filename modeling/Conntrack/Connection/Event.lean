/-!
# Connection events

The operation byte of a message type says what happened to a connection.
Creations and changes are both announced as new.
-/

namespace Conntrack.Connection

inductive Event where
  | new
  | get
  | delete
  | other (operation : UInt8)
  deriving DecidableEq, Repr

namespace Event

def newOperation : UInt8 := 0
def getOperation : UInt8 := 1
def deleteOperation : UInt8 := 2

def ofOperation (operation : UInt8) : Event :=
  if operation = newOperation then .new
  else if operation = getOperation then .get
  else if operation = deleteOperation then .delete
  else .other operation

end Event

end Conntrack.Connection
