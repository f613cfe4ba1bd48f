import Conntrack.Json.Token
import Conntrack.Text.Decimal

/-!
# JSON values

Members of an object keep their order and their repetitions: what an unknown or
a repeated key means is for the reader of the value to say. A value is read
from its tokens with a stack of the containers that are still open, so nesting
is not limited; the writer puts no space between tokens.
-/

namespace Conntrack

inductive Json where
  | null
  | boolean (value : Bool)
  | number (literal : List Char)
  | text (content : Option String)
  | array (items : List Json)
  | object (members : List (Option String × Json))

namespace Json

def natural (value : Nat) : Json := .number (Text.Decimal.write value)

def string (content : String) : Json := .text (some content)

/-- An object with ordinary keys. -/
def record (members : List (String × Json)) : Json :=
  .object (members.map fun (key, value) => (some key, value))

/-! ## Writing -/

mutual

def write : Json → List Char
  | .null => ['n', 'u', 'l', 'l']
  | .boolean true => ['t', 'r', 'u', 'e']
  | .boolean false => ['f', 'a', 'l', 's', 'e']
  | .number literal => literal
  | .text content => writeText content
  | .array [] => ['[', ']']
  | .array (item :: items) => '[' :: (write item ++ writeItems items)
  | .object [] => ['\x7b', '\x7d']
  | .object ((key, value) :: members) =>
    '\x7b' :: (writeText key ++ ':' :: (write value ++ writeMembers members))

/-- The items behind the first, and the closing bracket. -/
def writeItems : List Json → List Char
  | [] => [']']
  | item :: items => ',' :: (write item ++ writeItems items)

/-- The members behind the first, and the closing brace. -/
def writeMembers : List (Option String × Json) → List Char
  | [] => ['\x7d']
  | (key, value) :: members =>
    ',' :: (writeText key ++ ':' :: (write value ++ writeMembers members))

end

/-! ## Reading -/

/-- A container that is still open; what it holds so far is kept last first. -/
inductive Container where
  | array (items : List Json)
  /-- The members that are complete, and the key whose value is being read. -/
  | object (members : List (Option String × Json)) (key : Option String)

/-- What may come next. -/
inductive Place where
  | value
  /-- A value, or the end of an array that has just begun. -/
  | firstItem
  | key (members : List (Option String × Json))
  /-- A key, or the end of an object that has just begun. -/
  | firstKey
  | colon (members : List (Option String × Json)) (key : Option String)
  /-- A comma, or the end of the innermost container. -/
  | separator
  | finished (value : Json)

/-- A reader's state: what may come next inside which containers, innermost first. -/
structure Reading where
  place : Place
  containers : List Container

namespace Reading

def start : Reading := ⟨.value, []⟩

/-- A complete value goes into the innermost container. -/
def complete (value : Json) : List Container → Reading
  | [] => ⟨.finished value, []⟩
  | .array items :: outer => ⟨.separator, .array (value :: items) :: outer⟩
  | .object members key :: outer => ⟨.separator, .object ((key, value) :: members) key :: outer⟩

/-- A token where a value must begin. -/
def value? (containers : List Container) : Token → Option Reading
  | .null => some (complete .null containers)
  | .boolean value => some (complete (.boolean value) containers)
  | .number literal => some (complete (.number literal) containers)
  | .text content => some (complete (.text content) containers)
  | .openArray => some ⟨.firstItem, .array [] :: containers⟩
  | .openObject => some ⟨.firstKey, containers⟩
  | _ => none

def step? (reading : Reading) (token : Token) : Option Reading :=
  match reading.place, token, reading.containers with
  | .value, token, containers => value? containers token
  | .firstItem, .closeArray, .array _ :: outer => some (complete (.array []) outer)
  | .firstItem, token, containers => value? containers token
  | .firstKey, .closeObject, containers => some (complete (.object []) containers)
  | .firstKey, .text key, containers => some ⟨.colon [] key, containers⟩
  | .key members, .text key, containers => some ⟨.colon members key, containers⟩
  | .colon members key, .colon, containers => some ⟨.value, .object members key :: containers⟩
  | .separator, .comma, .array items :: outer => some ⟨.value, .array items :: outer⟩
  | .separator, .comma, .object members _ :: outer => some ⟨.key members, outer⟩
  | .separator, .closeArray, .array items :: outer => some (complete (.array items.reverse) outer)
  | .separator, .closeObject, .object members _ :: outer =>
    some (complete (.object members.reverse) outer)
  | _, _, _ => none

end Reading

/-- The value that a sequence of tokens spells, all of them used. -/
def ofTokens? (tokens : List Token) : Option Json :=
  match tokens.foldlM Reading.step? Reading.start with
  | some ⟨.finished value, _⟩ => some value
  | _ => none

/-- The value that a text spells, with nothing but space around it. -/
def read? (text : List Char) : Option Json := (tokens? text).bind ofTokens?

end Json

end Conntrack
