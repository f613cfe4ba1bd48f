import Conntrack.Host.Basic

/-!
# A working directory

The files of a host that has one directory with nothing but plain files in it.
A path is walked component by component as the kernel does: empty components
and single dots stay, two dots leave for a parent without further files, and a
plain file ends the walk.
-/

namespace Conntrack

open Wire

structure Directory where
  files : List (String × Bytes)

namespace Directory

/-- A component of a path may have so many bytes. -/
def maxComponent : Nat := 255

/-- A path must have fewer bytes than this. -/
def maxPath : Nat := 4096

/-- What a walk has reached. -/
inductive Node where
  | directory
  /-- A directory outside, which holds nothing that is known. -/
  | outside
  | file (content : Bytes)
  deriving DecidableEq, Repr

def step (directory : Directory) (node : Node) (component : String) : Except Errno Node :=
  match node with
  | .file _ => .error Errno.notDirectory
  | node =>
    if component = "" ∨ component = "." then .ok node
    else if component = ".." then .ok .outside
    else if maxComponent < component.utf8ByteSize then .error Errno.nameTooLong
    else match node, directory.files.lookup component with
      | .directory, some content => .ok (.file content)
      | _, _ => .error Errno.noEntry

/-- The content of the file at a path. -/
def read (directory : Directory) (path : String) : Except Errno Bytes := do
  if path = "" then throw Errno.noEntry
  if maxPath ≤ path.utf8ByteSize then throw Errno.nameTooLong
  let start := if path.startsWith "/" then Node.outside else Node.directory
  match ← (path.splitOn "/").foldlM directory.step start with
  | .file content => pure content
  | _ => throw Errno.isDirectory

end Directory

end Conntrack
