import Conntrack.Proofs.PlainJson
import Mathlib.Data.List.Induction

/-!
# How numbers and texts may be spelled

The grammar of JSON leaves a choice: a number has a fraction and an exponent or
not, and a character of a text stands for itself or is escaped, by a letter or by
sixteen-bit units in either case of their digits. Whatever the choice, a number is
lexed as its literal (`NumberSpelling.isNumberLiteral`) and a text as the
characters that its pieces spell (`Scan.finish?_quoted`). A literal that reads as
a number below a bound is the one that is written for that number
(`NumberSpelling.eq_write`).
-/

namespace Conntrack.Json

open Text

/-! ## Numbers -/

/-- Digits, at least one. -/
structure Digits (text : List Char) : Prop where
  filled : text ≠ []
  digits : ∀ character ∈ text, character.isDigit

inductive IntegerPart : List Char → Prop
  | zero : IntegerPart ['0']
  | digits {text : List Char} (digits : Digits text) (leads : text.head? ≠ some '0') :
    IntegerPart text

inductive FractionPart : List Char → Prop
  | none : FractionPart []
  | digits {text : List Char} (digits : Digits text) : FractionPart ('.' :: text)

inductive ExponentPart : List Char → Prop
  | none : ExponentPart []
  | digits {mark : Char} {sign text : List Char} (marked : mark = 'e' ∨ mark = 'E')
    (signed : sign = [] ∨ sign = ['+'] ∨ sign = ['-']) (digits : Digits text) :
    ExponentPart (mark :: (sign ++ text))

inductive NumberSpelling : List Char → Prop
  | parts {sign integer fraction exponent : List Char} (signed : sign = [] ∨ sign = ['-'])
    (whole : IntegerPart integer) (broken : FractionPart fraction)
    (scaled : ExponentPart exponent) :
    NumberSpelling (sign ++ (integer ++ (fraction ++ exponent)))

/-- A text that does not go on with digits. -/
def EndsDigits (text : List Char) : Prop := ∀ character ∈ text.head?, character.isDigit = false

theorem Digits.afterDigits? {text rest : List Char} (digits : Digits text)
    (ends : EndsDigits rest) : Json.afterDigits? (text ++ rest) = some rest := by
  have stops : rest.takeWhile Char.isDigit = [] ∧ rest.dropWhile Char.isDigit = rest := by
    cases rest with
    | nil => exact ⟨rfl, rfl⟩
    | cons character rest =>
      have other : character.isDigit = false := ends character rfl
      exact ⟨List.takeWhile_cons_of_neg (by simp [other]),
        List.dropWhile_cons_of_neg (by simp [other])⟩
  have front : (text ++ rest).takeWhile Char.isDigit = text := by
    rw [List.takeWhile_append_of_pos digits.digits, stops.1, List.append_nil]
  have behind : (text ++ rest).dropWhile Char.isDigit = rest := by
    rw [List.dropWhile_append_of_pos digits.digits, stops.2]
  obtain ⟨first, more, rfl⟩ := List.exists_cons_of_ne_nil digits.filled
  rw [Json.afterDigits?, List.span_eq_takeWhile_dropWhile, front, behind]

theorem Digits.exists_cons {text : List Char} (digits : Digits text) :
    ∃ first more, text = first :: more ∧ first.isDigit := by
  obtain ⟨first, more, rfl⟩ := List.exists_cons_of_ne_nil digits.filled
  exact ⟨first, more, rfl, digits.digits first List.mem_cons_self⟩

theorem IntegerPart.digits_of {text : List Char} (integer : IntegerPart text) : Digits text := by
  cases integer with
  | zero => exact ⟨nofun, List.forall_mem_singleton.mpr rfl⟩
  | digits digits leads => exact digits

theorem IntegerPart.afterInteger? {text rest : List Char} (integer : IntegerPart text)
    (ends : EndsDigits rest) : Json.afterInteger? (text ++ rest) = some rest := by
  cases integer with
  | zero => rfl
  | digits digits leads =>
    rw [Json.afterInteger?.eq_def]
    split
    · next behind zero =>
      obtain ⟨first, more, rfl, -⟩ := digits.exists_cons
      obtain ⟨rfl, -⟩ := List.cons.inj zero
      exact absurd rfl leads
    · exact digits.afterDigits? ends

theorem ExponentPart.endsDigits {text : List Char} (exponent : ExponentPart text) :
    EndsDigits text := by
  cases exponent with
  | none => exact nofun
  | digits marked signed digits =>
    rintro _ ⟨⟩
    rcases marked with rfl | rfl <;> rfl

theorem FractionPart.endsDigits {text exponent : List Char} (fraction : FractionPart text)
    (scaled : ExponentPart exponent) : EndsDigits (text ++ exponent) := by
  cases fraction with
  | none => exact scaled.endsDigits
  | digits digits =>
    rintro _ ⟨⟩
    rfl

theorem FractionPart.afterFraction? {text exponent : List Char} (fraction : FractionPart text)
    (scaled : ExponentPart exponent) : Json.afterFraction? (text ++ exponent) = some exponent := by
  cases fraction with
  | none =>
    cases scaled with
    | none => rfl
    | digits marked signed digits => rcases marked with rfl | rfl <;> rfl
  | digits digits => exact digits.afterDigits? scaled.endsDigits

theorem withoutSign_of_digits {sign text : List Char}
    (signed : sign = [] ∨ sign = ['+'] ∨ sign = ['-']) (digits : Digits text) :
    withoutSign (sign ++ text) = text := by
  rcases signed with rfl | rfl | rfl
  · obtain ⟨first, more, rfl, digit⟩ := digits.exists_cons
    rw [List.nil_append, withoutSign.eq_def]
    split
    · next same =>
      obtain ⟨rfl, -⟩ := List.cons.inj same
      cases digit
    · next same =>
      obtain ⟨rfl, -⟩ := List.cons.inj same
      cases digit
    · rfl
  · rfl
  · rfl

theorem ExponentPart.afterExponent? {text : List Char} (exponent : ExponentPart text) :
    Json.afterExponent? text = some [] := by
  cases exponent with
  | none => rfl
  | digits marked signed digits =>
    have behind := afterDigits?_of_digits digits.filled digits.digits
    rcases marked with rfl | rfl
    · rw [Json.afterExponent?, withoutSign_of_digits signed digits, behind]
    · rw [Json.afterExponent?, withoutSign_of_digits signed digits, behind]

theorem withoutMinus_of_digits {sign text rest : List Char} (signed : sign = [] ∨ sign = ['-'])
    (digits : Digits text) : withoutMinus (sign ++ (text ++ rest)) = text ++ rest := by
  rcases signed with rfl | rfl
  · obtain ⟨first, more, rfl, digit⟩ := digits.exists_cons
    rw [List.nil_append, List.cons_append, withoutMinus.eq_def]
    split
    · next same =>
      obtain ⟨rfl, -⟩ := List.cons.inj same
      cases digit
    · rfl
  · rfl

/-- Every number of the grammar passes the check of the lexer. -/
theorem NumberSpelling.isNumberLiteral {literal : List Char} (spelling : NumberSpelling literal) :
    Json.isNumberLiteral literal := by
  cases spelling with
  | parts signed whole broken scaled =>
    rw [Json.isNumberLiteral, withoutMinus_of_digits signed whole.digits_of,
      whole.afterInteger? (broken.endsDigits scaled), Option.bind_some,
      broken.afterFraction? scaled, Option.bind_some, scaled.afterExponent?]
    rfl

theorem digitChar_of_isDigit {character : Char} (digit : character.isDigit) :
    character.toNat - 48 < 10 ∧ Nat.digitChar (character.toNat - 48) = character := by
  have codes : ∀ value < 10, (Nat.digitChar value).toNat = 48 + value := by decide
  obtain ⟨low, high⟩ := toNat_of_isDigit digit
  have small : character.toNat - 48 < 10 := by omega
  refine ⟨small, Char.toNat_inj.mp ?_⟩
  rw [codes _ small]
  omega

/-- Digits without a leading zero are what is written for the number that they spell. -/
theorem write_ofDigitChars {text : List Char} (digits : Digits text)
    (leads : text.head? ≠ some '0') : Decimal.write (Nat.ofDigitChars 10 text 0) = text := by
  induction text using List.reverseRecOn with
  | nil => exact absurd rfl digits.filled
  | append_singleton front last ih =>
    obtain ⟨early, numeral⟩ := List.forall_mem_append.mp digits.digits
    obtain ⟨small, spelled⟩ := digitChar_of_isDigit (numeral last List.mem_cons_self)
    have value : Nat.ofDigitChars 10 (front ++ [last]) 0 =
        10 * Nat.ofDigitChars 10 front 0 + (last.toNat - 48) := by
      rw [Nat.ofDigitChars_append, Nat.ofDigitChars_cons, Nat.ofDigitChars_nil]
      rfl
    rw [value]
    by_cases filled : front = []
    · subst filled
      rw [Nat.ofDigitChars_nil, Nat.mul_zero, Nat.zero_add, Decimal.write,
        Nat.toDigits_of_lt_base small, spelled]
      rfl
    · have same : front.head? = (front ++ [last]).head? :=
        (List.head?_append_of_ne_nil _ filled).symm
      have leads : front.head? ≠ some '0' := by rwa [same]
      have kept := ih ⟨filled, early⟩ leads
      have positive : Nat.ofDigitChars 10 front 0 ≠ 0 := by
        intro zero
        rw [zero] at kept
        exact leads (kept ▸ rfl)
      have tens : (10 * Nat.ofDigitChars 10 front 0 + (last.toNat - 48)) / 10 =
          Nat.ofDigitChars 10 front 0 := by
        omega
      have ones : (10 * Nat.ofDigitChars 10 front 0 + (last.toNat - 48)) % 10 =
          last.toNat - 48 := by
        omega
      rw [Decimal.write, Nat.toDigits_of_base_le (by decide) (by omega), tens, ones, spelled]
      exact congrArg (· ++ [last]) kept

theorem IntegerPart.write_ofDigitChars {text : List Char} (integer : IntegerPart text) :
    Decimal.write (Nat.ofDigitChars 10 text 0) = text := by
  cases integer with
  | zero => rfl
  | digits digits leads => exact Json.write_ofDigitChars digits leads

/-- A number of the grammar that reads as a plain number is written like that. -/
theorem NumberSpelling.eq_write {literal : List Char} (spelling : NumberSpelling literal)
    {bound value : Nat} (read : Decimal.readBelow? bound literal = some value) :
    value < bound ∧ literal = Decimal.write value := by
  obtain ⟨read, small⟩ := Option.filter_eq_some_iff.mp read
  obtain ⟨⟨-, digits⟩, spells⟩ := Option.ite_none_right_eq_some.mp read
  have digits := List.all_eq_true.mp digits
  refine ⟨of_decide_eq_true small, ?_⟩
  cases spelling with
  | @parts sign integer fraction exponent signed whole broken scaled =>
    -- a sign, a point and the mark of an exponent are no digits
    have unsigned : sign = [] := by
      rcases signed with rfl | rfl
      · rfl
      · cases digits '-' List.mem_cons_self
    have unbroken : fraction = [] := by
      cases broken with
      | none => rfl
      | digits _ => cases digits '.' (by simp)
    have unscaled : exponent = [] := by
      cases scaled with
      | none => rfl
      | @digits mark _ _ marked _ _ =>
        have digit := digits mark (by simp)
        rcases marked with rfl | rfl <;> cases digit
    subst unsigned unbroken unscaled
    simp only [List.nil_append, List.append_nil] at spells ⊢
    cases spells
    exact whole.write_ofDigitChars.symm

/-! ## Texts -/

structure HexDigit where
  character : Char
  value : Nat
  reads : hexDigit? character = some value

/-- What spells something between quotes. -/
inductive Piece where
  /-- A character that stands for itself. -/
  | plain (character : Char) (bare : character ≠ '"' ∧ character ≠ '\\' ∧ ' ' ≤ character)
  /-- A letter behind a backslash. -/
  | escape (letter meant : Char) (means : escaped? letter = some meant)
  /-- Sixteen bits, in four hexadecimal digits. -/
  | unit (first second third fourth : HexDigit)

/-- A character, or one half of a pair of units that make a character together. -/
inductive Sense where
  | character (character : Char)
  | high (value : Nat)
  | low (value : Nat)

def Sense.ofUnit (value : Nat) : Sense :=
  if 0xD800 ≤ value ∧ value < 0xDC00 then .high value
  else if 0xDC00 ≤ value ∧ value < 0xE000 then .low value
  else .character (Char.ofNat value)

namespace Piece

def write : Piece → List Char
  | .plain character _ => [character]
  | .escape letter _ _ => ['\\', letter]
  | .unit first second third fourth =>
    ['\\', 'u', first.character, second.character, third.character, fourth.character]

def sense : Piece → Sense
  | .plain character _ => .character character
  | .escape _ meant _ => .character meant
  | .unit first second third fourth =>
    .ofUnit (16 * (16 * (16 * first.value + second.value) + third.value) + fourth.value)

/-- The characters that pieces spell behind a high half, if one is waiting. A half
without the other spells none. -/
def characters? (waiting : Option Nat) : List Piece → Option (List Char)
  | [] => if waiting.isNone then some [] else none
  | piece :: pieces =>
    match waiting, piece.sense with
    | none, .character character => (characters? none pieces).map (character :: ·)
    | none, .high value => characters? (some value) pieces
    | some high, .low value => (characters? none pieces).map (TextSoFar.combine high value :: ·)
    | _, _ => none

/-- What a text in quotes says. -/
def content (pieces : List Piece) : Option String := (characters? none pieces).map String.ofList

def quoted (pieces : List Piece) : List Char := '"' :: (pieces.flatMap write ++ ['"'])

end Piece

/-- A text so far, with what one more piece spells. -/
def TextSoFar.addSense (text : TextSoFar) : Sense → TextSoFar
  | .character character => text.addCharacter character
  | .high value => ⟨text.characters, some value, text.paired && text.high.isNone⟩
  | .low value =>
    match text.high with
    | some high => ⟨combine high value :: text.characters, none, text.paired⟩
    | none => ⟨text.characters, none, false⟩

theorem TextSoFar.addUnit_eq (text : TextSoFar) (value : Nat) :
    text.addUnit value = text.addSense (.ofUnit value) := by
  unfold addUnit Sense.ofUnit
  split
  · rfl
  · split <;> rfl

/-- The text of pieces is complete exactly if their halves are paired. -/
theorem TextSoFar.finish_foldl_addSense (text : TextSoFar) (pieces : List Piece) :
    ((pieces.map Piece.sense).foldl addSense text).finish =
      if text.paired then (Piece.characters? text.high pieces).map
        fun more => String.ofList (text.characters.reverse ++ more) else none := by
  induction pieces generalizing text with
  | nil =>
    obtain ⟨characters, high, paired⟩ := text
    cases paired <;> cases high <;> simp [finish, Piece.characters?]
  | cons piece pieces ih =>
    rw [List.map_cons, List.foldl_cons, ih]
    obtain ⟨characters, high, paired⟩ := text
    cases sense : piece.sense <;> cases high <;> cases paired <;>
      simp [addSense, addCharacter, Piece.characters?, sense, Function.comp_def]

namespace Scan

variable {finished : List Token} {rest : List Char}

theorem finish?_hexDigit (soFar : TextSoFar) (missing value : Nat) (digit : HexDigit) :
    finish? ⟨finished, .text soFar (.unit (missing + 2) value)⟩ (digit.character :: rest) =
      finish? ⟨finished, .text soFar (.unit (missing + 1) (16 * value + digit.value))⟩ rest := by
  have step : step? ⟨finished, .text soFar (.unit (missing + 2) value)⟩ digit.character =
      some ⟨finished, .text soFar (.unit (missing + 1) (16 * value + digit.value))⟩ := by
    change (hexDigit? digit.character).map _ = _
    rw [digit.reads, Option.map_some, if_neg (by omega)]
    rfl
  rw [finish?_cons, step]
  rfl

theorem finish?_lastDigit (soFar : TextSoFar) (value : Nat) (digit : HexDigit) :
    finish? ⟨finished, .text soFar (.unit 1 value)⟩ (digit.character :: rest) =
      finish? ⟨finished, .text (soFar.addUnit (16 * value + digit.value)) .outside⟩ rest := by
  have step : step? ⟨finished, .text soFar (.unit 1 value)⟩ digit.character =
      some ⟨finished, .text (soFar.addUnit (16 * value + digit.value)) .outside⟩ := by
    change (hexDigit? digit.character).map _ = _
    rw [digit.reads, Option.map_some, if_pos (Nat.le_refl 1)]
  rw [finish?_cons, step]
  rfl

/-- A piece is read inside a text as what it spells. -/
theorem finish?_piece (soFar : TextSoFar) (piece : Piece) :
    finish? ⟨finished, .text soFar .outside⟩ (piece.write ++ rest) =
      finish? ⟨finished, .text (soFar.addSense piece.sense) .outside⟩ rest := by
  cases piece with
  | plain character bare =>
    obtain ⟨quote, backslash, printable⟩ := bare
    rw [Piece.write, List.cons_append, finish?_cons,
      step?_plain soFar quote backslash (Char.not_lt.mpr printable)]
    rfl
  | escape letter meant means =>
    have other : letter ≠ 'u' := by
      rintro rfl
      cases means
    have step : step? ⟨finished, .text soFar .backslash⟩ letter =
        some ⟨finished, .text (soFar.addCharacter meant) .outside⟩ := by
      change inText? finished soFar letter .backslash = _
      rw [inText?, if_neg other, means]
      rfl
    have opened : finish? ⟨finished, .text soFar .outside⟩ ('\\' :: letter :: rest) =
        finish? ⟨finished, .text soFar .backslash⟩ (letter :: rest) := rfl
    rw [Piece.write, List.cons_append, List.cons_append, List.nil_append, opened, finish?_cons,
      step]
    rfl
  | unit first second third fourth =>
    have opened : finish? ⟨finished, .text soFar .outside⟩
          ((Piece.unit first second third fourth).write ++ rest) =
        finish? ⟨finished, .text soFar (.unit 4 0)⟩ (first.character :: second.character ::
          third.character :: fourth.character :: rest) := rfl
    rw [opened, finish?_hexDigit, finish?_hexDigit, finish?_hexDigit, finish?_lastDigit,
      TextSoFar.addUnit_eq, Nat.mul_zero, Nat.zero_add]
    rfl

theorem finish?_pieces (soFar : TextSoFar) (pieces : List Piece) :
    finish? ⟨finished, .text soFar .outside⟩ (pieces.flatMap Piece.write ++ rest) =
      finish? ⟨finished, .text ((pieces.map Piece.sense).foldl .addSense soFar) .outside⟩ rest := by
  induction pieces generalizing soFar with
  | nil => rfl
  | cons piece pieces ih =>
    rw [List.flatMap_cons, List.append_assoc, finish?_piece, ih, List.map_cons, List.foldl_cons]

/-- Pieces in quotes are the text that they spell. -/
theorem finish?_quoted (pieces : List Piece) :
    finish? ⟨finished, .nothing⟩ (Piece.quoted pieces ++ rest) =
      finish? ⟨.text (Piece.content pieces) :: finished, .nothing⟩ rest := by
  have opened : finish? ⟨finished, .nothing⟩ (Piece.quoted pieces ++ rest) =
      finish? ⟨finished, .text .empty .outside⟩ (pieces.flatMap Piece.write ++ '"' :: rest) := by
    rw [Piece.quoted, List.cons_append, List.append_assoc]
    rfl
  have closed : ((pieces.map Piece.sense).foldl .addSense TextSoFar.empty).finish =
      Piece.content pieces :=
    TextSoFar.finish_foldl_addSense .empty pieces
  rw [opened, finish?_pieces, ← closed]
  rfl

end Scan

end Conntrack.Json
