import Conntrack.Command.Arguments
import Conntrack.Command.MonitorConfig
import Conntrack.Connection.Line
import Conntrack.Session.Monitor
import Conntrack.Session.Update
import Conntrack.Text.Logged

/-!
# Running a command

A timeout update is one exchange on a socket of the default configuration. The
monitor first settles its configuration and subscribes, then installs the
interrupt handler, and then prints batch after batch until an interrupt was
noted, standard output is closed, or a receive fails. An interrupt is looked
for before each receive, so the batch during which it comes is still printed.

Arguments are texts, errors are logged whatever else a log lets through, and
memory does not run out: a program that the system stops for want of memory is
none of those described here. A buffer of a size that none can have is another
matter, and has an exit code of its own.
-/

namespace Conntrack.Command

open Connection

/-- Print the events of a batch; false as soon as standard output refuses a line. -/
def printBatch : Batch → StateM Host Bool
  | [] => pure true
  | (event, record) :: batch => do
    if ← Host.writeLine (eventLine event record) then printBatch batch else pure false

/-- At most so many rounds of receiving and printing. -/
def watch : (rounds : Nat) → Receiving Error Unit
  | 0 => pure ()
  | rounds + 1 => do
    if (← getThe Host).interrupted then
      pure ()
    else
      let batch ← ExceptT.adapt .exchange receiveBatch
      if ← printBatch batch then watch rounds else pure ()

/-- Monitor events on an open socket. Every round uses up an arrival and the
receive behind the last one fails, so the number of rounds ends no monitor. -/
def monitorEvents (config : Config) : Session Error Unit := do
  let buffer ← ExceptT.adapt .exchange (monitorBuffer config)
  ExceptT.adapt .noHandler Host.installHandler
  (watch ((← get).arrivals.length + 1)).within buffer

def socketError (error : SocketError) : Error := .exchange (.socket error)

/-- Subscribe and monitor events. -/
def runMonitor (config : Config) : Session Error Unit :=
  Socket.withOpen config socketError (monitorEvents config)

def run : Command → Session Error Unit
  | .updateTimeout update =>
    Socket.withOpen {} socketError (ExceptT.adapt .exchange (Conntrack.updateTimeout update))
  | .monitor path => do
    match monitorConfig (← get).files path with
    | .error error => throw error
    | .ok config => runMonitor config

/-- The program from its arguments on. -/
def runArguments (arguments : List String) : Session Error Unit :=
  match ofArguments arguments with
  | .error error => throw error
  | .ok command => run command

/-- How the program ends: its exit code, the usage it shows, the log of its errors.
A program that is given up for the size of a buffer logs no error. -/
structure Exit where
  code : Nat
  usage : Option String
  errors : List String
  deriving DecidableEq, Repr

def Exit.ofResult : Except Error Unit → Exit
  | .ok () => ⟨0, none, []⟩
  | .error .usage => ⟨2, some (usageText ++ "\n"), []⟩
  | .error (.exchange .capacityOverflow) => ⟨101, none, []⟩
  | .error error => ⟨1, none, [Text.Logged.write error.message]⟩

/-- The whole program. -/
def main (arguments : List String) : StateM Host Exit := fun host =>
  let (result, host) := runArguments arguments host
  (Exit.ofResult result, host)

end Conntrack.Command
