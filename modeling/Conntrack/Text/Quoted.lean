import Conntrack.Text.Extending
import Conntrack.Text.Unprintable

/-!
# Quoted text for error messages

A quoted text shows on one line what was given: quotes, backslashes and line
breaks are escaped, and every character that would not show is given by its
code point.
-/

namespace Conntrack.Text.Quoted

/-- A character by its code point in hexadecimal. -/
def writeCodePoint (character : Char) : List Char :=
  ['\\', 'u', '\x7b'] ++ Nat.toDigits 16 character.toNat ++ ['\x7d']

def writeCharacter (character : Char) : List Char :=
  if character = '\x00' then ['\\', '0']
  else if character = '\t' then ['\\', 't']
  else if character = '\r' then ['\\', 'r']
  else if character = '\n' then ['\\', 'n']
  else if character = '"' then ['\\', '"']
  else if character = '\\' then ['\\', '\\']
  else if isExtending character || isUnprintable character then writeCodePoint character
  else [character]

def write (text : String) : String :=
  String.ofList ('"' :: (text.toList.flatMap writeCharacter ++ ['"']))

end Conntrack.Text.Quoted
