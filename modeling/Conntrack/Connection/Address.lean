import Conntrack.Text.Decimal
import Conntrack.Wire.AttrTree

/-!
# IPv4 addresses

Four octets, in network order on the wire and dotted in text. Text is read
strictly: four numbers up to 255 of at most three digits and without leading
zeros, single dots between them and nothing around them. What is written is of
that form (`Address.read?_write`).
-/

namespace Conntrack.Connection

open Wire Text

structure Address where
  first : UInt8
  second : UInt8
  third : UInt8
  fourth : UInt8
  deriving DecidableEq, Repr

namespace Address

def bytes (address : Address) : Bytes :=
  [address.first, address.second, address.third, address.fourth]

/-- Exactly four bytes are an address. -/
def ofBytes? : Bytes → Option Address
  | [first, second, third, fourth] => some ⟨first, second, third, fourth⟩
  | _ => none

theorem ofBytes?_bytes (address : Address) : ofBytes? address.bytes = some address := rfl

def write (address : Address) : List Char :=
  Decimal.write address.first.toNat ++ '.' :: Decimal.write address.second.toNat ++
    '.' :: Decimal.write address.third.toNat ++ '.' :: Decimal.write address.fourth.toNat

/-- One octet off the front of a text: all the digits there, if they spell one. -/
def octet? (text : List Char) : Option (UInt8 × List Char) :=
  let digits := text.takeWhile Char.isDigit
  if digits.length ≤ 3 ∧ (digits.length = 1 ∨ digits.head? ≠ some '0') then
    (Decimal.readBelow? 256 digits).map fun value =>
      (UInt8.ofNat value, text.dropWhile Char.isDigit)
  else none

def dot? : List Char → Option (List Char)
  | '.' :: text => some text
  | _ => none

def read? (text : List Char) : Option Address := do
  let (first, text) ← octet? text
  let (second, text) ← octet? (← dot? text)
  let (third, text) ← octet? (← dot? text)
  let (fourth, text) ← octet? (← dot? text)
  if text = [] then some ⟨first, second, third, fourth⟩ else none

/-- A written octet is read back in front of anything that is no digit. -/
theorem octet?_write (octet : UInt8) {rest : List Char}
    (stops : rest.takeWhile Char.isDigit = []) :
    octet? (Decimal.write octet.toNat ++ rest) = some (octet, rest) := by
  have small : octet.toNat < 256 := octet.toNat_lt
  have digits : ∀ digit ∈ Decimal.write octet.toNat, digit.isDigit :=
    fun _ member => Decimal.isDigit_of_mem_write member
  have front : (Decimal.write octet.toNat ++ rest).takeWhile Char.isDigit =
      Decimal.write octet.toNat := by
    rw [List.takeWhile_append_of_pos digits, stops, List.append_nil]
  have behind : (Decimal.write octet.toNat ++ rest).dropWhile Char.isDigit = rest := by
    have whole := rest.takeWhile_append_dropWhile (p := Char.isDigit)
    rw [stops, List.nil_append] at whole
    rw [List.dropWhile_append_of_pos digits, whole]
  have short : (Decimal.write octet.toNat).length ≤ 3 := Decimal.length_write_le_three (by omega)
  have plain : (Decimal.write octet.toNat).length = 1 ∨
      (Decimal.write octet.toNat).head? ≠ some '0' := by
    rcases Nat.eq_zero_or_pos octet.toNat with zero | positive
    · rw [zero]
      exact .inl rfl
    · exact .inr (Decimal.head?_write_ne_zero positive)
  rw [octet?, front, behind, if_pos ⟨short, plain⟩, Decimal.readBelow?_write small,
    Option.map_some, UInt8.ofNat_toNat]

/-- A written address is read back. -/
theorem read?_write (address : Address) : read? address.write = some address := by
  have dotted : ∀ (octet : UInt8) (rest : List Char),
      octet? (Decimal.write octet.toNat ++ '.' :: rest) = some (octet, '.' :: rest) :=
    fun octet rest => octet?_write octet rfl
  have last : ∀ octet : UInt8, octet? (Decimal.write octet.toNat) = some (octet, []) := by
    intro octet
    have ended : octet? (Decimal.write octet.toNat ++ []) = some (octet, []) :=
      octet?_write octet rfl
    rwa [List.append_nil] at ended
  simp only [read?, write, List.append_assoc, List.cons_append, dotted, last, dot?,
    Option.bind_eq_bind, Option.bind_some, if_true]

end Address

/-- The address in a value of exactly four bytes. -/
def addressOf? (attr : Attr) : Option Address := Address.ofBytes? attr.payload

/-- An attribute with an address as its value. -/
def addressLeaf (type : UInt16) (address : Address) : AttrTree := .leaf type address.bytes

end Conntrack.Connection
