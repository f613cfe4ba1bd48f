/-!
# Number literals

An optional minus sign; zero, or digits that do not start with zero; optionally
a point and digits; optionally an exponent of digits with or without sign.
-/

namespace Conntrack.Json

/-- Characters that can occur in a number literal. -/
def isNumberCharacter (character : Char) : Bool :=
  character.isDigit || character == '-' || character == '+' || character == '.' ||
    character == 'e' || character == 'E'

/-- What follows the digits at the front, if there is at least one. -/
def afterDigits? (text : List Char) : Option (List Char) :=
  match text.span Char.isDigit with
  | ([], _) => none
  | (_ :: _, rest) => some rest

/-- What follows the integer part. -/
def afterInteger? : List Char → Option (List Char)
  | '0' :: rest => some rest
  | text => afterDigits? text

/-- What follows an optional fraction. -/
def afterFraction? : List Char → Option (List Char)
  | '.' :: rest => afterDigits? rest
  | text => some text

def withoutSign : List Char → List Char
  | '+' :: rest => rest
  | '-' :: rest => rest
  | text => text

/-- What follows an optional exponent. -/
def afterExponent? : List Char → Option (List Char)
  | 'e' :: rest => afterDigits? (withoutSign rest)
  | 'E' :: rest => afterDigits? (withoutSign rest)
  | text => some text

def withoutMinus : List Char → List Char
  | '-' :: rest => rest
  | text => text

def isNumberLiteral (text : List Char) : Bool :=
  ((afterInteger? (withoutMinus text)).bind afterFraction?).bind afterExponent? == some []

end Conntrack.Json
