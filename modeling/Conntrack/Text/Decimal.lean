/-!
# Decimal numbers

Numbers are written without sign or leading zeros (`head?_write_ne_zero`); any
run of digits is read back, leading zeros included (`read?_write`).
-/

namespace Conntrack.Text.Decimal

def write (value : Nat) : List Char := Nat.toDigits 10 value

/-- The number that a non-empty run of ASCII digits spells. -/
def read? (text : List Char) : Option Nat :=
  if text ≠ [] ∧ text.all Char.isDigit then some (Nat.ofDigitChars 10 text 0) else none

/-- A number below a bound. -/
def readBelow? (bound : Nat) (text : List Char) : Option Nat :=
  (read? text).filter (· < bound)

/-- A number below a bound, with or without a plus sign. -/
def readSignedBelow? (bound : Nat) : List Char → Option Nat
  | '+' :: text => readBelow? bound text
  | text => readBelow? bound text

theorem write_ne_nil (value : Nat) : write value ≠ [] :=
  List.ne_nil_of_length_pos Nat.length_toDigits_pos

theorem isDigit_of_mem_write {value : Nat} {digit : Char} (member : digit ∈ write value) :
    digit.isDigit :=
  Nat.isDigit_of_mem_toDigits (by decide) (by decide) member

theorem read?_write (value : Nat) : read? (write value) = some value := by
  have digits : (write value).all Char.isDigit :=
    List.all_eq_true.mpr fun _ member => isDigit_of_mem_write member
  rw [read?, if_pos ⟨write_ne_nil value, digits⟩]
  exact congrArg some (Nat.ofDigitChars_toDigits (by decide) (by decide))

theorem readBelow?_write {bound value : Nat} (small : value < bound) :
    readBelow? bound (write value) = some value := by
  simp [readBelow?, read?_write, small]

/-- A written number has no sign, so reading with or without one gives it back. -/
theorem readSignedBelow?_write {bound value : Nat} (small : value < bound) :
    readSignedBelow? bound (write value) = some value := by
  rw [readSignedBelow?]
  · exact readBelow?_write small
  · intro text signed
    have digit : '+'.isDigit := isDigit_of_mem_write (signed ▸ List.mem_cons_self)
    cases digit

theorem length_write_le_three {value : Nat} (small : value < 1000) : (write value).length ≤ 3 :=
  (Nat.length_toDigits_le_iff (by decide) (by decide)).mpr small

theorem head?_write_ne_zero {value : Nat} (positive : 0 < value) :
    (write value).head? ≠ some '0' := by
  induction value using Nat.strongRecOn with
  | ind value ih =>
    by_cases small : value < 10
    · have digits : ∀ digit < 10, 0 < digit → Nat.digitChar digit ≠ '0' := by decide
      rw [write, Nat.toDigits_of_lt_base small, List.head?_singleton]
      exact fun zero => digits value small positive (Option.some.inj zero)
    · -- the leading digit is that of the number without its last digit
      have split : write value = write (value / 10) ++ [(value % 10).digitChar] :=
        Nat.toDigits_of_base_le (by decide) (Nat.le_of_not_lt small)
      have kept := ih (value / 10) (by omega) (by omega)
      obtain ⟨lead, more, shape⟩ := List.exists_cons_of_ne_nil (write_ne_nil (value / 10))
      rw [shape] at kept
      rw [split, shape]
      exact kept

end Conntrack.Text.Decimal
