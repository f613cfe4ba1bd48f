import Conntrack.Proofs.JsonReadBack
import Mathlib.Algebra.Ring.Nat
import Mathlib.Data.List.Forall2

/-!
# Values of plain and short text

A value is modest if all its tokens can be read back and are written in
printable ASCII, and its text has at most a given length (`Modest`). Decimal
numbers and texts without quotes and backslashes are, and an object is if its
keys and values are, with the sum of their lengths and of the punctuation
(`Modest.record`). The text of a modest value is printable and read back as
that value (`Modest.plain`, `Modest.read?_write`).
-/

namespace Conntrack.Json

open Text

def isPlain (character : Char) : Bool := 32 ≤ character.toNat && character.toNat < 127

/-- A plain character that stands for itself between quotes. -/
def isBare (character : Char) : Bool :=
  isPlain character && character != '"' && character != '\\'

/-- A token that is found again in a text, and that is written in plain characters. -/
structure Token.Clear (token : Token) : Prop where
  proper : token.Proper
  plain : ∀ character ∈ token.write, isPlain character

theorem Token.Clear.of_all {token : Token} (proper : token.Proper)
    (plain : token.write.all isPlain) : token.Clear :=
  ⟨proper, List.all_eq_true.mp plain⟩

structure Modest (json : Json) (size : Nat) : Prop where
  clear : ∀ token ∈ json.tokens, token.Clear
  short : json.write.length ≤ size

/-! ## The text of a value is that of its tokens -/

mutual

theorem write_eq_flatMap (json : Json) : json.write = json.tokens.flatMap Token.write := by
  match json with
  | .null => rfl
  | .boolean true => rfl
  | .boolean false => rfl
  | .number literal => exact (List.flatMap_singleton _ _).symm
  | .text content => exact (List.flatMap_singleton _ _).symm
  | .array [] => rfl
  | .array (item :: items) =>
    rw [write, tokens, List.flatMap_cons, List.flatMap_append, write_eq_flatMap item,
      writeItems_eq_flatMap items]
    rfl
  | .object [] => rfl
  | .object ((key, value) :: members) =>
    rw [write, tokens, List.flatMap_cons, List.flatMap_cons, List.flatMap_cons,
      List.flatMap_append, write_eq_flatMap value, writeMembers_eq_flatMap members]
    rfl

theorem writeItems_eq_flatMap (items : List Json) :
    writeItems items = (itemTokens items).flatMap Token.write := by
  match items with
  | [] => rfl
  | item :: items =>
    rw [writeItems, itemTokens, List.flatMap_cons, List.flatMap_append, write_eq_flatMap item,
      writeItems_eq_flatMap items]
    rfl

theorem writeMembers_eq_flatMap (members : List (Option String × Json)) :
    writeMembers members = (memberTokens members).flatMap Token.write := by
  match members with
  | [] => rfl
  | (key, value) :: members =>
    rw [writeMembers, memberTokens, List.flatMap_cons, List.flatMap_cons, List.flatMap_cons,
      List.flatMap_append, write_eq_flatMap value, writeMembers_eq_flatMap members]
    rfl

end

namespace Modest

variable {json : Json} {size : Nat}

theorem plain (modest : json.Modest size) : ∀ character ∈ json.write, isPlain character := by
  intro character member
  rw [write_eq_flatMap] at member
  obtain ⟨token, inside, member⟩ := List.mem_flatMap.mp member
  exact (modest.clear token inside).plain character member

/-- The text of a modest value is read back, with any space behind it. -/
theorem read?_write (modest : json.Modest size) {space : List Char}
    (blank : ∀ character ∈ space, Scan.isSpace character) :
    read? (json.write ++ space) = some json :=
  json.read?_write (fun token member => (modest.clear token member).proper) blank

theorem mono {larger : Nat} (modest : json.Modest size) (le : size ≤ larger) :
    json.Modest larger :=
  ⟨modest.clear, modest.short.trans le⟩

end Modest

/-! ## Numbers -/

theorem afterDigits?_of_digits {text : List Char} (filled : text ≠ [])
    (digits : ∀ character ∈ text, character.isDigit) : afterDigits? text = some [] := by
  obtain ⟨first, more, rfl⟩ := List.exists_cons_of_ne_nil filled
  have taken : (first :: more).takeWhile Char.isDigit = first :: more :=
    List.takeWhile_eq_self_iff.mpr digits
  have dropped : (first :: more).dropWhile Char.isDigit = [] :=
    List.dropWhile_eq_nil_iff.mpr digits
  rw [afterDigits?, List.span_eq_takeWhile_dropWhile, taken, dropped]

/-- A written number is a literal: it has no sign and no leading zero. -/
theorem isNumberLiteral_write (value : Nat) : isNumberLiteral (Decimal.write value) := by
  rcases Nat.eq_zero_or_pos value with rfl | positive
  · rfl
  · have digits : ∀ digit ∈ Decimal.write value, digit.isDigit :=
      fun _ member => Decimal.isDigit_of_mem_write member
    have run : afterDigits? (Decimal.write value) = some [] :=
      afterDigits?_of_digits (Decimal.write_ne_nil value) digits
    have leads : (Decimal.write value).head? ≠ some '0' := Decimal.head?_write_ne_zero positive
    have unsigned : withoutMinus (Decimal.write value) = Decimal.write value := by
      rw [withoutMinus.eq_def]
      split
      · next rest signed =>
        have digit : '-'.isDigit := digits '-' (signed ▸ List.mem_cons_self)
        cases digit
      · rfl
    have integer : afterInteger? (Decimal.write value) = some [] := by
      rw [afterInteger?.eq_def]
      split
      · next rest zero => exact absurd (congrArg List.head? zero) leads
      · exact run
    rw [isNumberLiteral, unsigned, integer]
    rfl

theorem toNat_of_isDigit {character : Char} (digit : character.isDigit) :
    48 ≤ character.toNat ∧ character.toNat ≤ 57 := by
  simp only [Char.isDigit, Bool.and_eq_true, decide_eq_true_eq, UInt32.le_iff_toNat_le] at digit
  exact digit

/-- Digits stand for themselves between quotes. -/
theorem isBare_of_isDigit {character : Char} (digit : character.isDigit) : isBare character := by
  obtain ⟨low, high⟩ := toNat_of_isDigit digit
  have other : ∀ mark : Char, mark.toNat < 48 ∨ 57 < mark.toNat → character ≠ mark := by
    rintro mark outside rfl
    omega
  simp only [isBare, isPlain, Bool.and_eq_true, decide_eq_true_eq, bne_iff_ne]
  exact ⟨⟨⟨by omega, by omega⟩, other _ (by decide)⟩, other _ (by decide)⟩

theorem modest_natural {value digits : Nat} (positive : 0 < digits) (small : value < 10 ^ digits) :
    (natural value).Modest digits where
  clear := by
    intro token member
    cases List.mem_singleton.mp member
    refine ⟨isNumberLiteral_write value, fun character member => ?_⟩
    have digit := isBare_of_isDigit (Decimal.isDigit_of_mem_write member)
    simp only [isBare, Bool.and_eq_true] at digit
    exact digit.1.1
  short := (Nat.length_toDigits_le_iff (by decide) positive).mpr small

theorem natural_inj {value value' : Nat} : natural value = natural value' ↔ value = value' := by
  constructor
  · intro same
    injection same with digits
    have read := congrArg Decimal.read? digits
    rw [Decimal.read?_write, Decimal.read?_write] at read
    exact Option.some.inj read
  · exact congrArg natural

theorem modest_byte (byte : UInt8) : (natural byte.toNat).Modest 3 :=
  modest_natural (by decide) (Nat.lt_trans byte.toNat_lt (by decide))

theorem modest_word16 (word : UInt16) : (natural word.toNat).Modest 5 :=
  modest_natural (by decide) (Nat.lt_trans word.toNat_lt (by decide))

theorem modest_word32 (word : UInt32) : (natural word.toNat).Modest 10 :=
  modest_natural (by decide) (Nat.lt_trans word.toNat_lt (by decide))

theorem modest_null : null.Modest 4 where
  clear := by
    intro token member
    cases List.mem_singleton.mp member
    exact Token.Clear.of_all trivial rfl
  short := Nat.le_refl 4

/-! ## Texts -/

theorem writeCharacter_of_bare {character : Char} (bare : isBare character) :
    writeCharacter character = [character] := by
  simp only [isBare, isPlain, Bool.and_eq_true, decide_eq_true_eq, bne_iff_ne] at bare
  obtain ⟨⟨⟨printable, -⟩, quote⟩, backslash⟩ := bare
  have other : ∀ control : Char, control.toNat < 32 → character ≠ control := by
    rintro control low rfl
    omega
  have space : ¬ character < ' ' := Nat.not_lt.mpr printable
  rw [writeCharacter, if_neg quote, if_neg backslash, if_neg (other _ (by decide)),
    if_neg (other _ (by decide)), if_neg (other _ (by decide)), if_neg (other _ (by decide)),
    if_neg (other _ (by decide)), if_neg space]

theorem writeText_of_bare {text : List Char} (bare : ∀ character ∈ text, isBare character) :
    writeText (some (String.ofList text)) = '"' :: (text ++ ['"']) := by
  have itself : text.flatMap writeCharacter = text := by
    induction text with
    | nil => rfl
    | cons first more ih =>
      rw [List.forall_mem_cons] at bare
      rw [List.flatMap_cons, writeCharacter_of_bare bare.1, ih bare.2]
      rfl
  rw [writeText, String.toList_ofList, itself]

theorem modest_string {text : List Char} (bare : ∀ character ∈ text, isBare character) :
    (string (String.ofList text)).Modest (text.length + 2) where
  clear := by
    intro token member
    cases List.mem_singleton.mp member
    refine ⟨trivial, fun character member => ?_⟩
    rw [Token.write, writeText_of_bare bare, List.mem_cons, List.mem_append,
      List.mem_singleton] at member
    rcases member with rfl | member | rfl
    · rfl
    · have inside := bare character member
      simp only [isBare, Bool.and_eq_true] at inside
      exact inside.1.1
    · rfl
  short := by
    rw [string, write, writeText_of_bare bare, List.length_cons, List.length_append]
    rfl

/-! ## Objects -/

/-- A key whose text is plain. -/
def isPlainKey (key : String) : Bool := (writeText (some key)).all isPlain

/-- What a key takes in the text of an object, with a colon and with a comma or
a brace. -/
def keySize (key : String) : Nat := (writeText (some key)).length + 2

theorem clear_memberTokens {members : List (String × Json)} {sizes : List Nat}
    (keys : ∀ member ∈ members, isPlainKey member.1)
    (values : List.Forall₂ (fun member size => member.2.Modest size) members sizes) :
    ∀ token ∈ memberTokens (members.map fun (key, value) => (some key, value)), token.Clear := by
  induction values with
  | nil =>
    intro token member
    cases List.mem_singleton.mp member
    exact Token.Clear.of_all trivial rfl
  | @cons member size members sizes value values ih =>
    rw [List.forall_mem_cons] at keys
    rw [List.map_cons, memberTokens]
    simp only [List.forall_mem_cons, List.forall_mem_append]
    exact ⟨.of_all trivial rfl, .of_all trivial keys.1, .of_all trivial rfl, value.clear, ih keys.2⟩

theorem length_writeMembers_le {members : List (String × Json)} {sizes : List Nat}
    (values : List.Forall₂ (fun member size => member.2.Modest size) members sizes) :
    (writeMembers (members.map fun (key, value) => (some key, value))).length ≤
      (members.map fun member => keySize member.1).sum + sizes.sum + 1 := by
  induction values with
  | nil => exact Nat.le_refl 1
  | @cons member size members sizes value values ih =>
    have short : member.2.write.length ≤ size := value.short
    rw [List.map_cons, List.map_cons, writeMembers, List.sum_cons, List.sum_cons, keySize,
      List.length_cons, List.length_append, List.length_cons, List.length_append]
    omega

theorem record_inj {members members' : List (String × Json)} :
    Json.record members = Json.record members' ↔ members = members' := by
  have pairs : Function.Injective fun member : String × Json => (some member.1, member.2) := by
    rintro ⟨key, value⟩ ⟨key', value'⟩ same
    cases same
    rfl
  constructor
  · intro same
    injection same with inside
    exact List.map_injective_iff.mpr pairs inside
  · exact congrArg Json.record

/-- An object whose keys are plain and whose values are modest. -/
theorem Modest.record {members : List (String × Json)} (keys : List String) {sizes : List Nat}
    {size : Nat} (named : members.map Prod.fst = keys) (filled : keys ≠ [])
    (plain : keys.all isPlainKey)
    (values : List.Forall₂ (fun member size => member.2.Modest size) members sizes)
    (total : (keys.map keySize).sum + sizes.sum + 1 = size) : (Json.record members).Modest size := by
  subst named
  rw [List.all_map, List.all_eq_true] at plain
  rw [List.map_map] at total
  obtain ⟨first, more, rfl⟩ := List.exists_cons_of_ne_nil (mt List.map_eq_nil_iff.mpr filled)
  -- the first member has a brace where the others have a comma
  have clear := clear_memberTokens plain values
  have short := length_writeMembers_le values
  rw [List.map_cons, memberTokens, List.forall_mem_cons] at clear
  exact ⟨List.forall_mem_cons.mpr ⟨.of_all trivial rfl, clear.2⟩, total ▸ short⟩

end Conntrack.Json
