import Conntrack.Command.Run

/-!
# The program

Files, standard output and standard error are those of the process. Netlink
sockets are out of reach of this process, so opening one fails as it does on a
kernel without that address family.
-/

namespace Conntrack.Process

def readFile (path : String) : IO (Except Errno Wire.Bytes) := do
  try
    let content ← IO.FS.readBinFile path
    return .ok content.toList
  catch
    | .noFileOrDirectory .. => return .error Errno.noEntry
    | .permissionDenied .. => return .error Errno.accessDenied
    | .inappropriateType .. => return .error Errno.isDirectory
    | _ => return .error Errno.inputOutput

/-- A host on which the file that the arguments name has been read. -/
def host (arguments : List String) : IO Host := do
  let unreachable : Host := { socketFault := some Errno.unsupportedFamily }
  match Command.ofArguments arguments with
  | .ok (.monitor (some path)) =>
    let content ← readFile path
    return { unreachable with files := fun _ => content }
  | _ => return unreachable

end Conntrack.Process

def main (arguments : List String) : IO UInt32 := do
  let (exit, host) := Conntrack.Command.main arguments (← Conntrack.Process.host arguments)
  IO.print host.output
  if let some usage := exit.usage then
    IO.eprint usage
  for error in exit.errors do
    IO.eprintln error
  return UInt32.ofNat exit.code
