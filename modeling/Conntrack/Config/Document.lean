import Conntrack.Config.Basic
import Conntrack.Json.Value

/-!
# Configuration documents

A configuration is written as an object of its three fields. It is read from an
object in which each field may be missing, and takes its default, but may not
occur twice; members with other keys are passed over. An array stands for the
fields in order, the last ones left out at will. Numbers are plain literals of
digits within the range of their field.
-/

namespace Conntrack.Config

open Text

def receiveBufferKey : String := "recv_buffer_size"
def receiveTimeoutKey : String := "recv_timeout_secs"
def groupsKey : String := "groups"

def toJson (config : Config) : Json :=
  .record [
    (receiveBufferKey, .natural config.receiveBuffer.toNat),
    (receiveTimeoutKey, .natural config.receiveTimeout.toNat),
    (groupsKey, .array (config.groups.map fun group => .natural group.toNat))]

def write (config : Config) : String := String.ofList config.toJson.write

/-- A 64-bit number. -/
def word64? : Json → Option UInt64
  | .number literal => (Decimal.readBelow? UInt64.size literal).map UInt64.ofNat
  | _ => none

/-- A 32-bit number. -/
def word32? : Json → Option UInt32
  | .number literal => (Decimal.readBelow? UInt32.size literal).map UInt32.ofNat
  | _ => none

def groups? : Json → Option (List UInt32)
  | .array items => items.mapM word32?
  | _ => none

/-- The value under a key: the default if there is none, refused if there are two. -/
def field? {α : Type} (members : List (Option String × Json)) (key : String)
    (read? : Json → Option α) (default : α) : Option α :=
  match members.filter (·.1 == some key) with
  | [] => some default
  | [(_, value)] => read? value
  | _ => none

/-- A configuration from the members of an object, whose keys must all be proper text. -/
def ofMembers? (members : List (Option String × Json)) : Option Config :=
  if members.all (·.1.isSome) then do
    let receiveBuffer ← field? members receiveBufferKey word64? defaultReceiveBuffer
    let receiveTimeout ← field? members receiveTimeoutKey word64? defaultReceiveTimeout
    let groups ← field? members groupsKey groups? []
    some ⟨receiveBuffer, receiveTimeout, groups⟩
  else none

def ofItems? : List Json → Option Config
  | [] => some {}
  | [buffer] => do
    some { receiveBuffer := ← word64? buffer }
  | [buffer, timeout] => do
    some { receiveBuffer := ← word64? buffer, receiveTimeout := ← word64? timeout }
  | [buffer, timeout, groups] => do
    some ⟨← word64? buffer, ← word64? timeout, ← groups? groups⟩
  | _ => none

def ofJson? : Json → Option Config
  | .object members => ofMembers? members
  | .array items => ofItems? items
  | _ => none

def read? (text : String) : Option Config := (Json.read? text.toList).bind ofJson?

end Conntrack.Config
