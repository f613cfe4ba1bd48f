/-!
# Text in log lines

A log is read on a terminal, so the characters that a terminal could act on are
shown and not sent: escape, bell, backspace, form feed and delete by two
hexadecimal digits, and the second block of control characters by their code
points. Tabs, line breaks and the other control characters stay.
-/

namespace Conntrack.Text.Logged

/-- The single control characters that start or steer terminal sequences. -/
def isTerminalControl (character : Char) : Bool :=
  character == '\x1b' || character == '\x07' || character == '\x08' || character == '\x0c' ||
    character == '\x7f'

/-- The control characters that stand for an escape and a letter. -/
def isSecondControl (character : Char) : Bool := '\x80' ≤ character && character ≤ '\x9f'

/-- The two hexadecimal digits of a number below 256. -/
def hexPair (value : Nat) : List Char :=
  [Nat.digitChar (value / 16), Nat.digitChar (value % 16)]

def writeCharacter (character : Char) : List Char :=
  if isTerminalControl character then ['\\', 'x'] ++ hexPair character.toNat
  else if isSecondControl character then
    ['\\', 'u', '\x7b'] ++ hexPair character.toNat ++ ['\x7d']
  else [character]

def write (text : String) : String := String.ofList (text.toList.flatMap writeCharacter)

end Conntrack.Text.Logged
