import Conntrack.Session.Failure
import Conntrack.Text.Quoted

/-!
# Errors of the command line
-/

namespace Conntrack.Command

/-- The operands of a timeout update, in order. -/
inductive Operand where
  | protocol
  | source
  | sourcePort
  | destination
  | destinationPort
  | timeout
  deriving DecidableEq, Repr

def Operand.name : Operand → String
  | .protocol => "protocol number"
  | .source => "source address"
  | .sourcePort => "source port"
  | .destination => "destination address"
  | .destinationPort => "destination port"
  | .timeout => "timeout"

/-- Why a file could not be read as text. -/
inductive ReadFault where
  | failed (errno : Errno)
  | notText
  /-- A path with a zero byte names no file. -/
  | zeroInPath
  deriving DecidableEq, Repr

def ReadFault.message : ReadFault → String
  | .failed errno => Errno.message errno
  | .notText => "stream did not contain valid UTF-8"
  | .zeroInPath => "file name contained an unexpected NUL byte"

inductive Error where
  | usage
  | invalidOperand (operand : Operand) (value : String)
  | configUnreadable (path : String) (fault : ReadFault)
  | configMalformed (path : String)
  | exchange (failure : Failure)
  | noHandler (reason : String)
  deriving DecidableEq, Repr

def usageText : String :=
  "Usage:\n" ++
  "  ctnetlink update-timeout <proto> <src> <sport> <dst> <dport> <timeout_secs>\n" ++
  "  ctnetlink monitor [--config <file.json>]"

def Error.message : Error → String
  | .usage => usageText
  | .invalidOperand operand value => "Invalid " ++ operand.name ++ ": " ++ Text.Quoted.write value
  | .configUnreadable path fault => "Cannot read config " ++ path ++ ": " ++ fault.message
  | .configMalformed path => "Invalid config " ++ path
  | .exchange failure => failure.message
  | .noHandler reason => "Cannot install Ctrl-C handler: " ++ reason

end Conntrack.Command
