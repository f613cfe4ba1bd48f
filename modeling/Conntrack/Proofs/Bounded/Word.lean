import Conntrack.Wire.Bytes

/-!
# Checked steps on words of 64 bits

A machine of 64 bits counts and indexes with words. Here every step says whether
the machine could take it: a difference below zero, a sum beyond the word and an
index or a range outside the bytes are faults, and so is a loop that has used up
its rounds. Each step that is in bounds gives what the unbounded numbers give
(`add_of_lt`, `sub_of_le`, `align_of_lt`, `slice_of_le`).
-/

namespace Conntrack.Bounded

open Wire

/-- Why a machine cannot go on. -/
inductive Fault where
  | belowZero
  | beyondWord
  | outOfRange
  | endless
  deriving DecidableEq, Repr

abbrev Run (α : Type) := Except Fault α

/-- How many values a word has. -/
def wordSize : Nat := UInt64.size

/-- The most bytes that stand in one piece of memory. -/
def longest : Nat := wordSize / 2 - 1

/-! Steps that can fault. -/

def add (left right : Nat) : Run Nat :=
  if left + right < wordSize then .ok (left + right) else .error .beyondWord

def sub (left right : Nat) : Run Nat :=
  if right ≤ left then .ok (left - right) else .error .belowZero

/-- The next multiple of four: three is added and the two low bits are cleared. -/
def align (length : Nat) : Run Nat := do
  let sum ← add length 3
  .ok (sum &&& (wordSize - (3 + 1)))

/-- The bytes from one index up to another. -/
def slice (bytes : Bytes) (first last : Nat) : Run Bytes :=
  if first ≤ last ∧ last ≤ bytes.length then .ok ((bytes.take last).drop first)
  else .error .outOfRange

def byteAt (bytes : Bytes) (index : Nat) : Run UInt8 :=
  match bytes[index]? with
  | some byte => .ok byte
  | none => .error .outOfRange

/-- The bytes at `count` indices from the first on, each looked up on its own. -/
def bytesAt (bytes : Bytes) (first : Nat) : (count : Nat) → Run Bytes
  | 0 => .ok []
  | count + 1 => do
    let byte ← byteAt bytes first
    let more ← bytesAt bytes (first + 1) count
    .ok (byte :: more)

/-! Steps that refuse or give way instead. -/

def sum? (left right : Nat) : Option Nat :=
  if left + right < wordSize then some (left + right) else none

def saturatingSum (left right : Nat) : Nat := min (left + right) (wordSize - 1)

def slice? (bytes : Bytes) (first last : Nat) : Option Bytes :=
  if first ≤ last ∧ last ≤ bytes.length then some ((bytes.take last).drop first) else none

def from? (bytes : Bytes) (first : Nat) : Option Bytes :=
  if first ≤ bytes.length then some (bytes.drop first) else none

@[simp] theorem ok_bind {α β : Type} (value : α) (next : α → Run β) :
    ((.ok value : Run α) >>= next) = next value := rfl

theorem add_of_lt {left right : Nat} (inside : left + right < wordSize) :
    add left right = .ok (left + right) := if_pos inside

theorem sub_of_le {left right : Nat} (le : right ≤ left) : sub left right = .ok (left - right) :=
  if_pos le

theorem slice_of_le {bytes : Bytes} {first last : Nat} (le : first ≤ last)
    (inside : last ≤ bytes.length) :
    slice bytes first last = .ok ((bytes.drop first).take (last - first)) := by
  rw [slice, if_pos ⟨le, inside⟩, List.drop_take]

/-- A range that is in bounds if its bytes are there. -/
theorem slice?_eq_take? {bytes : Bytes} {first count : Nat}
    (inside : first ≤ bytes.length ∨ 0 < count) :
    slice? bytes first (first + count) = (take? count (bytes.drop first)).map (·.1) := by
  have left : (bytes.drop first).length = bytes.length - first := List.length_drop
  by_cases present : first + count ≤ bytes.length
  · have enough : count ≤ bytes.length - first := by omega
    simp [slice?, present, take?, enough, List.drop_take]
  · have refused : take? count (bytes.drop first) = none := by
      rw [take?_eq_none]
      omega
    simp [slice?, present, refused]

theorem byteAt_of_lt {bytes : Bytes} {index : Nat} (inside : index < bytes.length) :
    byteAt bytes index = .ok bytes[index] := by
  rw [byteAt, List.getElem?_eq_getElem inside]

/-- The bytes at the indices of a range are the range. -/
theorem bytesAt_of_le {bytes : Bytes} {first count : Nat} (inside : first + count ≤ bytes.length) :
    bytesAt bytes first count = .ok ((bytes.drop first).take count) := by
  induction count generalizing first with
  | zero => rfl
  | succ count ih =>
    have here : first < bytes.length := by omega
    have behind : first + 1 + count ≤ bytes.length := by omega
    rw [bytesAt, byteAt_of_lt here, ok_bind, ih behind, ok_bind,
      List.drop_eq_getElem_cons here, List.take_succ_cons]

/-- Nor does it matter where the bytes are cut off behind the range. -/
theorem bytesAt_take {bytes : Bytes} {width first count : Nat} (inside : first + count ≤ width)
    (present : width ≤ bytes.length) :
    bytesAt (bytes.take width) first count = .ok ((bytes.drop first).take count) := by
  have kept : min count (width - first) = count := by omega
  rw [bytesAt_of_le, List.drop_take, List.take_take, kept]
  rw [List.length_take_of_le present]
  exact inside

/-- The lowest two bits of the mask are clear and all others set. -/
theorem and_mask {value : Nat} (inside : value < wordSize) :
    value &&& (wordSize - (3 + 1)) = value / 4 * 4 := by
  have size : wordSize = 2 ^ 64 := rfl
  have three : (3 : Nat) < 2 ^ 64 := by decide
  have whole : value / 4 * 4 = (value >>> 2) <<< 2 := by
    rw [Nat.shiftRight_eq_div_pow, Nat.shiftLeft_eq]
  rw [whole]
  -- bit by bit: bits 0 and 1 are cleared, those up to 63 kept, and there are no others
  apply Nat.eq_of_testBit_eq
  intro bit
  have low : Nat.testBit 3 bit = decide (bit < 2) := Nat.testBit_two_pow_sub_one 2 bit
  rw [Nat.testBit_and, size, Nat.testBit_two_pow_sub_succ three, low, Nat.testBit_shiftLeft,
    Nat.testBit_shiftRight]
  by_cases cleared : bit < 2
  · have below : ¬ 2 ≤ bit := Nat.not_le.mpr cleared
    simp [cleared, below]
  · have kept : 2 + (bit - 2) = bit := by omega
    have above : 2 ≤ bit := Nat.not_lt.mp cleared
    by_cases within : bit < 64
    · simp [cleared, within, kept, above]
    · have beyond : value.testBit bit = false := by
        apply Nat.testBit_lt_two_pow
        rw [size] at inside
        calc value < 2 ^ 64 := inside
          _ ≤ 2 ^ bit := Nat.pow_le_pow_right (by decide) (by omega)
      simp [beyond, kept]

theorem align_of_lt {length : Nat} (inside : length + 3 < wordSize) :
    align length = .ok (roundUp4 length) := by
  rw [align, add_of_lt inside, ok_bind, and_mask inside]
  rfl

/-- Every length that is declared on the wire has 32 bits at most. -/
theorem align_of_declared {length : Nat} (declared : length < UInt32.size) :
    align length = .ok (roundUp4 length) ∧ roundUp4 length ≤ longest := by
  have near := roundUp4_lt length
  unfold UInt32.size at declared
  constructor
  · apply align_of_lt
    unfold wordSize UInt64.size
    omega
  · unfold longest wordSize UInt64.size
    omega

end Conntrack.Bounded
