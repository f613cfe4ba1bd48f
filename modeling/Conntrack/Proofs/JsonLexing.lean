import Conntrack.Json.Token
import Mathlib.Data.List.TakeDrop
import Mathlib.Data.List.TakeWhile

/-!
# Written tokens are found again

The text of a token is lexed as that token wherever a token may begin, in front
of anything that cannot go on with it: numbers and words are runs, and end only
at a character that belongs to neither (`Stops`); all other tokens end by
themselves (`finish?_token`). A text that spells tokens with any space between
them therefore has just these tokens (`tokens?_of_spells`).
-/

namespace Conntrack.Json

/-! ## Number literals are runs of number characters -/

/-- A text begins with a run of number characters, and `rest` follows it. -/
def RunsTo (text rest : List Char) : Prop :=
  ∃ run, text = run ++ rest ∧ ∀ character ∈ run, isNumberCharacter character

namespace RunsTo

theorem refl (text : List Char) : RunsTo text text := ⟨[], rfl, List.forall_mem_nil _⟩

theorem trans {text middle rest : List Char} (first : RunsTo text middle)
    (second : RunsTo middle rest) : RunsTo text rest := by
  obtain ⟨front, rfl, numeric⟩ := first
  obtain ⟨back, rfl, numeric'⟩ := second
  exact ⟨front ++ back, (List.append_assoc _ _ _).symm, List.forall_mem_append.mpr ⟨numeric, numeric'⟩⟩

theorem cons {character : Char} {text rest : List Char} (numeric : isNumberCharacter character)
    (runs : RunsTo text rest) : RunsTo (character :: text) rest := by
  obtain ⟨run, rfl, numeric'⟩ := runs
  exact ⟨character :: run, rfl, List.forall_mem_cons.mpr ⟨numeric, numeric'⟩⟩

end RunsTo

/-- Digits at the front are a run, and there is at least one. -/
theorem runsTo_of_afterDigits? {text rest : List Char} (read : afterDigits? text = some rest) :
    RunsTo text rest ∧ ∃ digit ∈ text.head?, digit.isDigit := by
  rw [afterDigits?, List.span_eq_takeWhile_dropWhile] at read
  split at read
  · cases read
  · next digit digits behind split =>
    obtain ⟨front, rfl⟩ := Prod.mk.inj split
    cases read
    have whole := text.takeWhile_append_dropWhile (p := Char.isDigit)
    rw [front] at whole
    have numeric : ∀ character ∈ digit :: digits, character.isDigit :=
      fun character member => List.mem_takeWhile_imp (front ▸ member)
    refine ⟨⟨digit :: digits, whole.symm, ?_⟩, digit, ?_, numeric digit List.mem_cons_self⟩
    · intro character member
      simp [isNumberCharacter, numeric character member]
    · rw [← whole]
      rfl

theorem runsTo_of_afterInteger? {text rest : List Char} (read : afterInteger? text = some rest) :
    RunsTo text rest ∧ ∃ digit ∈ text.head?, digit.isDigit := by
  rw [afterInteger?.eq_def] at read
  split at read
  · cases read
    exact ⟨.cons (by decide) (.refl _), '0', rfl, by decide⟩
  · exact runsTo_of_afterDigits? read

theorem runsTo_of_afterFraction? {text rest : List Char} (read : afterFraction? text = some rest) :
    RunsTo text rest := by
  rw [afterFraction?.eq_def] at read
  split at read
  · exact .cons (by decide) (runsTo_of_afterDigits? read).1
  · cases read
    exact .refl _

theorem runsTo_withoutSign (text : List Char) : RunsTo text (withoutSign text) := by
  rw [withoutSign.eq_def]
  split
  · exact .cons (by decide) (.refl _)
  · exact .cons (by decide) (.refl _)
  · exact .refl _

theorem runsTo_of_afterExponent? {text rest : List Char} (read : afterExponent? text = some rest) :
    RunsTo text rest := by
  rw [afterExponent?.eq_def] at read
  split at read
  · exact .cons (by decide) ((runsTo_withoutSign _).trans (runsTo_of_afterDigits? read).1)
  · exact .cons (by decide) ((runsTo_withoutSign _).trans (runsTo_of_afterDigits? read).1)
  · cases read
    exact .refl _

/-- A number literal is one run, and begins with a digit or a minus sign. -/
theorem run_of_isNumberLiteral {literal : List Char} (valid : isNumberLiteral literal) :
    (∀ character ∈ literal, isNumberCharacter character) ∧
      ∃ first more, literal = first :: more ∧ (first.isDigit ∨ first = '-') := by
  rw [isNumberLiteral, beq_iff_eq] at valid
  obtain ⟨before, begun, ended⟩ := Option.bind_eq_some_iff.mp valid
  obtain ⟨middle, integer, fraction⟩ := Option.bind_eq_some_iff.mp begun
  obtain ⟨whole, digit, front, isDigit⟩ := runsTo_of_afterInteger? integer
  obtain ⟨more, shape⟩ := List.head?_eq_some_iff.mp front
  have unsigned : RunsTo (withoutMinus literal) [] ∧ withoutMinus literal = digit :: more :=
    ⟨(whole.trans (runsTo_of_afterFraction? fraction)).trans (runsTo_of_afterExponent? ended), shape⟩
  have runs : RunsTo literal [] ∧
      ∃ first more, literal = first :: more ∧ (first.isDigit ∨ first = '-') := by
    rw [withoutMinus.eq_def] at unsigned
    split at unsigned
    · exact ⟨.cons (by decide) unsigned.1, '-', _, rfl, .inr rfl⟩
    · exact ⟨unsigned.1, digit, more, unsigned.2, .inl isDigit⟩
  obtain ⟨⟨run, same, numeric⟩, begins⟩ := runs
  rw [List.append_nil] at same
  exact ⟨same ▸ numeric, begins⟩

/-! ## Tokens as they are written -/

namespace Token

def write : Token → List Char
  | .openArray => ['[']
  | .closeArray => [']']
  | .openObject => ['\x7b']
  | .closeObject => ['\x7d']
  | .comma => [',']
  | .colon => [':']
  | .null => ['n', 'u', 'l', 'l']
  | .boolean true => ['t', 'r', 'u', 'e']
  | .boolean false => ['f', 'a', 'l', 's', 'e']
  | .number literal => literal
  | .text content => writeText content

/-- A number is a number literal. -/
def Proper : Token → Prop
  | .number literal => isNumberLiteral literal
  | _ => True

/-- Tokens that end where a character comes that does not belong to them. -/
def isRun : Token → Bool
  | .null => true
  | .boolean _ => true
  | .number _ => true
  | _ => false

end Token

/-- A text that no run can go on with. -/
def Stops (text : List Char) : Prop :=
  ∀ character ∈ text.head?, isNumberCharacter character = false ∧ character.isAlpha = false

namespace Scan

/-- The tokens, last first, when the scan goes on to the end of a text. -/
def finish? (scan : Scan) (text : List Char) : Option (List Token) :=
  (text.foldlM step? scan).bind flush?

theorem finish?_cons (scan : Scan) (character : Char) (text : List Char) :
    scan.finish? (character :: text) = (scan.step? character).bind (·.finish? text) := by
  rw [finish?, List.foldlM_cons, Option.bind_eq_bind, Option.bind_assoc]
  rfl

variable {finished : List Token} {reversed run rest : List Char}

/-- A run that ends is the token that it spells. -/
theorem finish?_of_flush? {scan : Scan} {tokens : List Token} (stops : Stops rest)
    (flushed : scan.flush? = some tokens)
    (ends : ∀ character, isNumberCharacter character = false → character.isAlpha = false →
      scan.step? character = scan.flush?.bind (begin? · character)) :
    scan.finish? rest = finish? ⟨tokens, .nothing⟩ rest := by
  cases rest with
  | nil => exact flushed
  | cons character rest =>
    obtain ⟨numeric, letter⟩ := stops character rfl
    rw [finish?_cons, finish?_cons, ends character numeric letter, flushed]
    rfl

theorem finish?_number_run (numeric : ∀ character ∈ run, isNumberCharacter character) :
    finish? ⟨finished, .number reversed⟩ (run ++ rest) =
      finish? ⟨finished, .number (run.reverse ++ reversed)⟩ rest := by
  induction run generalizing reversed with
  | nil => rfl
  | cons character run ih =>
    rw [List.forall_mem_cons] at numeric
    have step : step? ⟨finished, .number reversed⟩ character =
        some ⟨finished, .number (character :: reversed)⟩ := if_pos numeric.1
    rw [List.cons_append, finish?_cons, step, Option.bind_some, ih numeric.2, List.reverse_cons,
      List.append_assoc]
    rfl

theorem finish?_word_run (letters : ∀ character ∈ run, character.isAlpha) :
    finish? ⟨finished, .word reversed⟩ (run ++ rest) =
      finish? ⟨finished, .word (run.reverse ++ reversed)⟩ rest := by
  induction run generalizing reversed with
  | nil => rfl
  | cons character run ih =>
    rw [List.forall_mem_cons] at letters
    have step : step? ⟨finished, .word reversed⟩ character =
        some ⟨finished, .word (character :: reversed)⟩ := if_pos letters.1
    rw [List.cons_append, finish?_cons, step, Option.bind_some, ih letters.2, List.reverse_cons,
      List.append_assoc]
    rfl

theorem begin?_of_number {character : Char} (first : character.isDigit ∨ character = '-') :
    begin? finished character = some ⟨finished, .number [character]⟩ := by
  have other : isSpace character = false ∧ character ≠ '"' := by
    rcases first with digit | rfl
    · constructor
      · cases space : isSpace character with
        | false => rfl
        | true =>
          simp only [isSpace, Bool.or_eq_true, beq_iff_eq] at space
          rcases space with ((rfl | rfl) | rfl) | rfl <;> cases digit
      · rintro rfl
        cases digit
    · decide
  rw [begin?, if_neg (by simp [other.1]), if_neg other.2, if_pos first]

theorem finish?_number {literal : List Char} (valid : isNumberLiteral literal)
    (stops : Stops rest) : finish? ⟨finished, .nothing⟩ (literal ++ rest) =
      finish? ⟨.number literal :: finished, .nothing⟩ rest := by
  obtain ⟨numeric, first, more, rfl, begins⟩ := run_of_isNumberLiteral valid
  rw [List.forall_mem_cons] at numeric
  have step : step? ⟨finished, .nothing⟩ first = some ⟨finished, .number [first]⟩ :=
    begin?_of_number begins
  rw [List.cons_append, finish?_cons, step, Option.bind_some, finish?_number_run numeric.2]
  apply finish?_of_flush? stops
  · simp [flush?, valid]
  · intro character numeric _
    exact if_neg (by simp [numeric])

theorem finish?_word {first : Char} {more : List Char} {token : Token}
    (begins : begin? finished first = some ⟨finished, .word [first]⟩)
    (letters : ∀ character ∈ more, character.isAlpha)
    (spelled : word? (first :: more) = some token) (stops : Stops rest) :
    finish? ⟨finished, .nothing⟩ (first :: more ++ rest) =
      finish? ⟨token :: finished, .nothing⟩ rest := by
  have step : step? ⟨finished, .nothing⟩ first = some ⟨finished, .word [first]⟩ := begins
  rw [List.cons_append, finish?_cons, step, Option.bind_some, finish?_word_run letters]
  apply finish?_of_flush? stops
  · simp [flush?, spelled]
  · intro character _ letter
    exact if_neg (by simp [letter])

/-! ## Texts -/

theorem hexDigit?_digitChar : ∀ digit < 16, hexDigit? (Nat.digitChar digit) = some digit := by
  decide

theorem step?_unit (soFar : TextSoFar) (missing value : Nat) {digit : Nat} (small : digit < 16) :
    step? ⟨finished, .text soFar (.unit missing value)⟩ (Nat.digitChar digit) =
      if missing ≤ 1 then some ⟨finished, .text (soFar.addUnit (16 * value + digit)) .outside⟩
      else some ⟨finished, .text soFar (.unit (missing - 1) (16 * value + digit))⟩ := by
  change (hexDigit? (Nat.digitChar digit)).map _ = _
  rw [hexDigit?_digitChar digit small, Option.map_some]
  exact apply_ite some _ _ _

theorem addUnit_of_control (soFar : TextSoFar) {character : Char} (control : character.toNat < 32) :
    soFar.addUnit character.toNat = soFar.addCharacter character := by
  rw [TextSoFar.addUnit, if_neg (by omega), if_neg (by omega), Char.ofNat_toNat]

/-- A control character is read as the unit that it is written as. -/
theorem finish?_control (soFar : TextSoFar) {character : Char} (control : character.toNat < 32) :
    finish? ⟨finished, .text soFar .outside⟩
        (['\\', 'u', '0', '0'] ++ hexPair character.toNat ++ rest) =
      finish? ⟨finished, .text (soFar.addCharacter character) .outside⟩ rest := by
  have opened : finish? ⟨finished, .text soFar .outside⟩
        (['\\', 'u', '0', '0'] ++ hexPair character.toNat ++ rest) =
      finish? ⟨finished, .text soFar (.unit 2 0)⟩ (hexPair character.toNat ++ rest) := rfl
  have value : 16 * (16 * 0 + character.toNat / 16 % 16) + character.toNat % 16 =
      character.toNat := by
    omega
  rw [opened, hexPair, List.cons_append, List.cons_append, finish?_cons,
    step?_unit soFar 2 0 (Nat.mod_lt _ (by decide)), if_neg (by decide), Option.bind_some,
    finish?_cons, step?_unit soFar 1 _ (Nat.mod_lt _ (by decide)), if_pos (by decide),
    Option.bind_some, value, addUnit_of_control soFar control]
  rfl

/-- A character that can stand for itself does. -/
theorem step?_plain (soFar : TextSoFar) {character : Char} (quote : character ≠ '"')
    (backslash : character ≠ '\\') (printable : ¬ character < ' ') :
    step? ⟨finished, .text soFar .outside⟩ character =
      some ⟨finished, .text (soFar.addCharacter character) .outside⟩ := by
  change inText? finished soFar character .outside = _
  simp only [inText?, if_neg quote, if_neg backslash, if_neg printable]

/-- A character is read inside a text as it is written there. -/
theorem finish?_character (soFar : TextSoFar) (character : Char) :
    finish? ⟨finished, .text soFar .outside⟩ (writeCharacter character ++ rest) =
      finish? ⟨finished, .text (soFar.addCharacter character) .outside⟩ rest := by
  unfold writeCharacter
  -- the escapes of a single letter
  iterate 7
    split
    · next same =>
      subst same
      rfl
  split
  · next control => exact finish?_control soFar control
  · next quote backslash _ _ _ _ _ printable =>
    rw [List.cons_append, finish?_cons, step?_plain soFar quote backslash printable]
    rfl

theorem finish?_characters (soFar : TextSoFar) (characters : List Char) :
    finish? ⟨finished, .text soFar .outside⟩ (characters.flatMap writeCharacter ++ rest) =
      finish? ⟨finished, .text (characters.foldl .addCharacter soFar) .outside⟩ rest := by
  induction characters generalizing soFar with
  | nil => rfl
  | cons character characters ih =>
    rw [List.flatMap_cons, List.append_assoc, finish?_character, ih, List.foldl_cons]

end Scan

/-- Characters leave no surrogate waiting. -/
theorem TextSoFar.foldl_addCharacter (before characters : List Char) :
    characters.foldl addCharacter ⟨before, none, true⟩ =
      ⟨characters.reverse ++ before, none, true⟩ := by
  induction characters generalizing before with
  | nil => rfl
  | cons character characters ih =>
    rw [List.foldl_cons, List.reverse_cons, List.append_assoc]
    exact ih (character :: before)

namespace Scan

variable {finished : List Token} {rest : List Char}

theorem finish?_text (content : Option String) :
    finish? ⟨finished, .nothing⟩ (writeText content ++ rest) =
      finish? ⟨.text content :: finished, .nothing⟩ rest := by
  cases content with
  | none => rfl
  | some text =>
    have opened : finish? ⟨finished, .nothing⟩ (writeText (some text) ++ rest) =
        finish? ⟨finished, .text .empty .outside⟩
          (text.toList.flatMap writeCharacter ++ '"' :: rest) := by
      rw [writeText, List.cons_append, List.append_assoc]
      rfl
    have closed : (text.toList.foldl TextSoFar.addCharacter TextSoFar.empty).finish = some text := by
      have read := TextSoFar.foldl_addCharacter [] text.toList
      rw [List.append_nil] at read
      rw [TextSoFar.empty, read]
      simp [TextSoFar.finish, String.ofList_toList]
    rw [opened, finish?_characters, ← closed]
    rfl

/-- A written token is lexed in front of anything that it does not go on with. -/
theorem finish?_token {token : Token} (proper : token.Proper)
    (stops : token.isRun → Stops rest) : finish? ⟨finished, .nothing⟩ (token.write ++ rest) =
      finish? ⟨token :: finished, .nothing⟩ rest := by
  cases token with
  | openArray => rfl
  | closeArray => rfl
  | openObject => rfl
  | closeObject => rfl
  | comma => rfl
  | colon => rfl
  | null => exact finish?_word rfl (List.all_eq_true.mp rfl) rfl (stops rfl)
  | boolean value =>
    cases value with
    | false => exact finish?_word rfl (List.all_eq_true.mp rfl) rfl (stops rfl)
    | true => exact finish?_word rfl (List.all_eq_true.mp rfl) rfl (stops rfl)
  | number literal => exact finish?_number proper (stops rfl)
  | text content => exact finish?_text content

theorem finish?_space {character : Char} (blank : isSpace character) :
    finish? ⟨finished, .nothing⟩ (character :: rest) = finish? ⟨finished, .nothing⟩ rest := by
  have step : step? ⟨finished, .nothing⟩ character = some ⟨finished, .nothing⟩ := if_pos blank
  rw [finish?_cons, step]
  rfl

end Scan

/-- A text spells tokens one after the other, with any space between them. -/
inductive Spells : List Char → List Token → Prop
  | done : Spells [] []
  | space {character : Char} {text : List Char} {tokens : List Token}
      (blank : Scan.isSpace character) (more : Spells text tokens) :
      Spells (character :: text) tokens
  | token {token : Token} {text : List Char} {tokens : List Token} (proper : token.Proper)
      (apart : token.isRun → Stops text) (more : Spells text tokens) :
      Spells (token.write ++ text) (token :: tokens)

theorem finish?_of_spells {text : List Char} {tokens : List Token} (spells : Spells text tokens)
    (finished : List Token) :
    Scan.finish? ⟨finished, .nothing⟩ text = some (tokens.reverse ++ finished) := by
  induction spells generalizing finished with
  | done => rfl
  | space blank more ih => rw [Scan.finish?_space blank, ih]
  | token proper apart more ih =>
    rw [Scan.finish?_token proper apart, ih, List.reverse_cons, List.append_assoc]
    rfl

/-- What a text spells is what is found in it. -/
theorem tokens?_of_spells {text : List Char} {tokens : List Token} (spells : Spells text tokens) :
    tokens? text = some tokens := by
  have found : Scan.start.finish? text = some (tokens.reverse ++ []) := finish?_of_spells spells []
  change (Scan.start.finish? text).map List.reverse = _
  rw [found, List.append_nil, Option.map_some, List.reverse_reverse]

end Conntrack.Json
