import Conntrack.Command.Error
import Conntrack.Config.Document

/-!
# The monitor's configuration

Without a file the monitor joins all groups of connection events; with a file
that lists no group it does the same. Since interrupts are noticed between two
receives only, a timeout of zero, which would wait without end, becomes one
second.
-/

namespace Conntrack

open Wire

namespace Config

/-- A configuration made fit for monitoring. -/
def forMonitor (config : Config) : Config where
  receiveBuffer := config.receiveBuffer
  receiveTimeout := if config.receiveTimeout = 0 then 1 else config.receiveTimeout
  groups := if config.groups = [] then events.groups else config.groups

end Config

namespace Command

/-- The bytes of a file as text. -/
def textOf (bytes : Bytes) : Option String := String.fromUTF8? ⟨bytes.toArray⟩

def readText (files : String → Except Errno Bytes) (path : String) : Except ReadFault String :=
  if path.toList.contains '\x00' then .error .zeroInPath
  else match files path with
    | .error errno => .error (.failed errno)
    | .ok bytes =>
      match textOf bytes with
      | none => .error .notText
      | some text => .ok text

/-- The configuration of a monitor, from the file at a path if one is given. -/
def monitorConfig (files : String → Except Errno Bytes) : Option String → Except Error Config
  | none => .ok Config.events
  | some path =>
    match readText files path with
    | .error fault => .error (.configUnreadable path fault)
    | .ok text =>
      match Config.read? text with
      | none => .error (.configMalformed path)
      | some config => .ok config.forMonitor

end Command

end Conntrack
