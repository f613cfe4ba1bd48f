import Conntrack.Json.Number
import Conntrack.Json.Text

/-!
# Tokens

The tokens of a JSON text, found in one pass over its characters. Runs of
letters and runs of number characters are taken whole and then checked; space,
tab, line feed and carriage return separate tokens and mean nothing else.
-/

namespace Conntrack.Json

inductive Token where
  | openArray
  | closeArray
  | openObject
  | closeObject
  | comma
  | colon
  | null
  | boolean (value : Bool)
  /-- A number by its literal, so that nothing is rounded. -/
  | number (literal : List Char)
  | text (content : Option String)
  deriving DecidableEq, Repr

/-- Where a reader stands inside a text. -/
inductive Escape where
  | outside
  | backslash
  /-- Inside a unit escape: the digits still to come, and the value of those read. -/
  | unit (missing value : Nat)
  deriving DecidableEq, Repr

/-- The token that is being read; runs are kept last character first. -/
inductive Pending where
  | nothing
  | number (reversed : List Char)
  | word (reversed : List Char)
  | text (soFar : TextSoFar) (escape : Escape)
  deriving DecidableEq, Repr

/-- A lexer's state: the finished tokens, last first, and the unfinished one. -/
structure Scan where
  finished : List Token
  pending : Pending
  deriving DecidableEq, Repr

namespace Scan

def start : Scan := ⟨[], .nothing⟩

def isSpace (character : Char) : Bool :=
  character == ' ' || character == '\t' || character == '\n' || character == '\r'

def word? : List Char → Option Token
  | ['n', 'u', 'l', 'l'] => some .null
  | ['t', 'r', 'u', 'e'] => some (.boolean true)
  | ['f', 'a', 'l', 's', 'e'] => some (.boolean false)
  | _ => none

def punctuation? : Char → Option Token
  | '[' => some .openArray
  | ']' => some .closeArray
  | '\x7b' => some .openObject
  | '\x7d' => some .closeObject
  | ',' => some .comma
  | ':' => some .colon
  | _ => none

/-- The tokens up to here, if the pending one can end here. -/
def flush? (scan : Scan) : Option (List Token) :=
  match scan.pending with
  | .nothing => some scan.finished
  | .number reversed =>
    if isNumberLiteral reversed.reverse then
      some (.number reversed.reverse :: scan.finished)
    else none
  | .word reversed => (word? reversed.reverse).map (· :: scan.finished)
  | .text _ _ => none

/-- A character between tokens. -/
def begin? (finished : List Token) (character : Char) : Option Scan :=
  if isSpace character then some ⟨finished, .nothing⟩
  else if character = '"' then some ⟨finished, .text .empty .outside⟩
  else if character.isDigit ∨ character = '-' then some ⟨finished, .number [character]⟩
  else if character.isAlpha then some ⟨finished, .word [character]⟩
  else (punctuation? character).map fun token => ⟨token :: finished, .nothing⟩

/-- A character inside a text. -/
def inText? (finished : List Token) (soFar : TextSoFar) (character : Char) :
    Escape → Option Scan
  | .outside =>
    if character = '"' then some ⟨.text soFar.finish :: finished, .nothing⟩
    else if character = '\\' then some ⟨finished, .text soFar .backslash⟩
    else if character < ' ' then none
    else some ⟨finished, .text (soFar.addCharacter character) .outside⟩
  | .backslash =>
    if character = 'u' then some ⟨finished, .text soFar (.unit 4 0)⟩
    else (escaped? character).map fun meant =>
      ⟨finished, .text (soFar.addCharacter meant) .outside⟩
  | .unit missing value =>
    (hexDigit? character).map fun digit =>
      if missing ≤ 1 then ⟨finished, .text (soFar.addUnit (16 * value + digit)) .outside⟩
      else ⟨finished, .text soFar (.unit (missing - 1) (16 * value + digit))⟩

def step? (scan : Scan) (character : Char) : Option Scan :=
  match scan.pending with
  | .text soFar escape => inText? scan.finished soFar character escape
  | .number reversed =>
    if isNumberCharacter character then
      some ⟨scan.finished, .number (character :: reversed)⟩
    else scan.flush?.bind (begin? · character)
  | .word reversed =>
    if character.isAlpha then some ⟨scan.finished, .word (character :: reversed)⟩
    else scan.flush?.bind (begin? · character)
  | .nothing => begin? scan.finished character

end Scan

/-- The tokens of a text, in order. -/
def tokens? (text : List Char) : Option (List Token) :=
  ((text.foldlM Scan.step? Scan.start).bind Scan.flush?).map List.reverse

end Conntrack.Json
