/-!
# Text inside quotes

Between quotes a JSON text spells sixteen-bit units: most characters stand for
themselves, and the escapes of four hexadecimal digits spell single units, of
which a high and a low surrogate together make one character. A text with an
unpaired surrogate spells no characters at all; it is kept as `none`.
-/

namespace Conntrack.Json

/-- The characters spelt so far, last first, while a text is read. -/
structure TextSoFar where
  characters : List Char
  /-- A high surrogate that waits for its low half. -/
  high : Option Nat
  /-- Whether every surrogate so far has its other half, the waiting one apart. -/
  paired : Bool
  deriving DecidableEq, Repr

namespace TextSoFar

def empty : TextSoFar := ⟨[], none, true⟩

/-- A character behind a waiting surrogate leaves that one unpaired. -/
def addCharacter (text : TextSoFar) (character : Char) : TextSoFar :=
  ⟨character :: text.characters, none, text.paired && text.high.isNone⟩

/-- The character of a pair of surrogates. -/
def combine (high low : Nat) : Char :=
  Char.ofNat (0x10000 + (high - 0xD800) * 0x400 + (low - 0xDC00))

def addUnit (text : TextSoFar) (value : Nat) : TextSoFar :=
  if 0xD800 ≤ value ∧ value < 0xDC00 then
    ⟨text.characters, some value, text.paired && text.high.isNone⟩
  else if 0xDC00 ≤ value ∧ value < 0xE000 then
    match text.high with
    | some high => ⟨combine high value :: text.characters, none, text.paired⟩
    | none => ⟨text.characters, none, false⟩
  else text.addCharacter (Char.ofNat value)

/-- The text when its closing quote is met. -/
def finish (text : TextSoFar) : Option String :=
  if text.paired && text.high.isNone then some (String.ofList text.characters.reverse) else none

end TextSoFar

def hexDigit? (character : Char) : Option Nat :=
  if '0' ≤ character ∧ character ≤ '9' then some (character.toNat - '0'.toNat)
  else if 'a' ≤ character ∧ character ≤ 'f' then some (character.toNat - 'a'.toNat + 10)
  else if 'A' ≤ character ∧ character ≤ 'F' then some (character.toNat - 'A'.toNat + 10)
  else none

/-- What a letter behind a backslash stands for, the letter of a unit escape apart. -/
def escaped? : Char → Option Char
  | '"' => some '"'
  | '\\' => some '\\'
  | '/' => some '/'
  | 'b' => some '\x08'
  | 'f' => some '\x0c'
  | 'n' => some '\n'
  | 'r' => some '\r'
  | 't' => some '\t'
  | _ => none

/-- Two lower-case hexadecimal digits. -/
def hexPair (value : Nat) : List Char :=
  [Nat.digitChar (value / 16 % 16), Nat.digitChar (value % 16)]

/-- A character as it is written between quotes. -/
def writeCharacter (character : Char) : List Char :=
  if character = '"' then ['\\', '"']
  else if character = '\\' then ['\\', '\\']
  else if character = '\x08' then ['\\', 'b']
  else if character = '\x0c' then ['\\', 'f']
  else if character = '\n' then ['\\', 'n']
  else if character = '\r' then ['\\', 'r']
  else if character = '\t' then ['\\', 't']
  else if character < ' ' then ['\\', 'u', '0', '0'] ++ hexPair character.toNat
  else [character]

/-- A text in quotes; the one that spells no characters is a lone high surrogate. -/
def writeText : Option String → List Char
  | some text => '"' :: (text.toList.flatMap writeCharacter ++ ['"'])
  | none => ['"', '\\', 'u', 'd', '8', '0', '0', '"']

end Conntrack.Json
