import Conntrack.Command.Error
import Conntrack.Connection.TimeoutUpdate

/-!
# Arguments

There are two commands: one updates a timeout and takes exactly six operands,
the other monitors events and takes the path of a configuration or nothing. The
operands are read from left to right, and the first that is invalid is
reported.
-/

namespace Conntrack

open Connection Text

inductive Command where
  | updateTimeout (update : TimeoutUpdate)
  | monitor (config : Option String)
  deriving DecidableEq, Repr

namespace Command

/-- An operand's value, or the error that names the operand. -/
def operand {α : Type} (name : Operand) (read? : List Char → Option α) (value : String) :
    Except Error α :=
  match read? value.toList with
  | some result => .ok result
  | none => .error (.invalidOperand name value)

def byte? (text : List Char) : Option UInt8 :=
  (Decimal.readSignedBelow? UInt8.size text).map UInt8.ofNat

def word16? (text : List Char) : Option UInt16 :=
  (Decimal.readSignedBelow? UInt16.size text).map UInt16.ofNat

def word32? (text : List Char) : Option UInt32 :=
  (Decimal.readSignedBelow? UInt32.size text).map UInt32.ofNat

/-- The update that six operands describe. -/
def timeoutUpdate (protocol source sourcePort destination destinationPort timeout : String) :
    Except Error TimeoutUpdate := do
  let protocol ← operand .protocol byte? protocol
  let source ← operand .source Address.read? source
  let sourcePort ← operand .sourcePort word16? sourcePort
  let destination ← operand .destination Address.read? destination
  let destinationPort ← operand .destinationPort word16? destinationPort
  let timeout ← operand .timeout word32? timeout
  pure ⟨protocol, source, sourcePort, destination, destinationPort, timeout⟩

/-- The command that the arguments after the program's name give. -/
def ofArguments : List String → Except Error Command
  | ["update-timeout", protocol, source, sourcePort, destination, destinationPort, timeout] =>
    (timeoutUpdate protocol source sourcePort destination destinationPort timeout).map
      .updateTimeout
  | ["monitor"] => .ok (.monitor none)
  | ["monitor", "--config", path] => .ok (.monitor (some path))
  | _ => .error .usage

end Command

end Conntrack
