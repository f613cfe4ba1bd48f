/-!
# Byte strings and fixed-width words

A message is a list of bytes that readers consume from the front. Words of the
netlink headers are in the order of the host, and words inside attribute values
and the resource id of the family header in that of the network, most significant
byte first. The host is taken to be one that puts the least significant byte
first, as x86-64 does: that is an assumption about the target, and nothing here
speaks of a host of the other order. Both orders are one width-generic pair of
functions on natural numbers, inverse to each other on words that fit
(`ofLittleEndian_littleEndian`, `littleEndian_ofLittleEndian`).
-/

namespace Conntrack.Wire

abbrev Bytes := List UInt8

/-- A reader takes a value off the front, or refuses and takes nothing. -/
abbrev Reader (α : Type) := Bytes → Option (α × Bytes)

/-- The first `count` bytes and what follows them, if that many are there. -/
def take? (count : Nat) : Reader Bytes := fun bytes =>
  let front := bytes.take count
  if front.length = count then some (front, bytes.drop count) else none

/-- The word of the given width, least significant byte first; higher digits are dropped. -/
def littleEndian : (width : Nat) → Nat → Bytes
  | 0, _ => []
  | width + 1, value => UInt8.ofNat value :: littleEndian width (value / 256)

/-- How many values a word of the given width can have. -/
def capacity : (width : Nat) → Nat
  | 0 => 1
  | width + 1 => 256 * capacity width

def ofLittleEndian : Bytes → Nat
  | [] => 0
  | byte :: rest => byte.toNat + 256 * ofLittleEndian rest

/-- The word of the given width, most significant byte first. -/
def bigEndian (width value : Nat) : Bytes := (littleEndian width value).reverse

def ofBigEndian (bytes : Bytes) : Nat := ofLittleEndian bytes.reverse

/-- A 16-bit word in the order of the host, which is assumed to be least significant byte first. -/
def hostWord16? : Reader UInt16 := fun bytes =>
  (take? 2 bytes).map fun (word, rest) => (UInt16.ofNat (ofLittleEndian word), rest)

/-- A 32-bit word in the order of the host, under the same assumption. -/
def hostWord32? : Reader UInt32 := fun bytes =>
  (take? 4 bytes).map fun (word, rest) => (UInt32.ofNat (ofLittleEndian word), rest)

/-- A 16-bit word in network order. -/
def networkWord16? : Reader UInt16 := fun bytes =>
  (take? 2 bytes).map fun (word, rest) => (UInt16.ofNat (ofBigEndian word), rest)

def byte? : Reader UInt8
  | [] => none
  | byte :: rest => some (byte, rest)

def hostWord16 (value : UInt16) : Bytes := littleEndian 2 value.toNat

def hostWord32 (value : UInt32) : Bytes := littleEndian 4 value.toNat

def networkWord16 (value : UInt16) : Bytes := bigEndian 2 value.toNat

def networkWord32 (value : UInt32) : Bytes := bigEndian 4 value.toNat

/-- Messages and attributes start at multiples of four: the next such multiple. -/
def roundUp4 (length : Nat) : Nat := (length + 3) / 4 * 4

theorem le_roundUp4 (length : Nat) : length ≤ roundUp4 length := by
  unfold roundUp4
  omega

theorem roundUp4_lt (length : Nat) : roundUp4 length < length + 4 := by
  unfold roundUp4
  omega

theorem four_dvd_roundUp4 (length : Nat) : 4 ∣ roundUp4 length :=
  Nat.dvd_mul_left 4 _

theorem roundUp4_of_dvd {length : Nat} (aligned : 4 ∣ length) : roundUp4 length = length := by
  unfold roundUp4
  omega

theorem take?_eq_some {count : Nat} {bytes front rest : Bytes}
    (taken : take? count bytes = some (front, rest)) :
    bytes = front ++ rest ∧ front.length = count := by
  simp only [take?] at taken
  split at taken
  · simp only [Option.some.injEq, Prod.mk.injEq] at taken
    obtain ⟨rfl, rfl⟩ := taken
    exact ⟨(List.take_append_drop count bytes).symm, by assumption⟩
  · cases taken

/-- A reader of `front` stops where the rest begins. -/
theorem take?_append (front rest : Bytes) :
    take? front.length (front ++ rest) = some (front, rest) := by
  simp [take?]

theorem take?_eq_none {count : Nat} {bytes : Bytes} :
    take? count bytes = none ↔ bytes.length < count := by
  simp only [take?, List.length_take]
  split
  · next enough =>
    constructor
    · intro refused
      cases refused
    · intro short
      omega
  · next short => exact ⟨fun _ => by omega, fun _ => rfl⟩

theorem length_of_take? {count : Nat} {bytes front rest : Bytes}
    (taken : take? count bytes = some (front, rest)) :
    bytes.length = count + rest.length := by
  obtain ⟨joined, width⟩ := take?_eq_some taken
  rw [joined, List.length_append, width]

theorem drop_of_take? {count : Nat} {bytes front rest : Bytes}
    (taken : take? count bytes = some (front, rest)) : bytes.drop count = rest := by
  obtain ⟨joined, width⟩ := take?_eq_some taken
  rw [joined, ← width, List.drop_left]

@[simp] theorem length_littleEndian (width value : Nat) :
    (littleEndian width value).length = width := by
  induction width generalizing value with
  | zero => rfl
  | succ width ih => simp [littleEndian, ih]

@[simp] theorem length_bigEndian (width value : Nat) : (bigEndian width value).length = width := by
  simp [bigEndian]

theorem ofLittleEndian_lt (bytes : Bytes) : ofLittleEndian bytes < capacity bytes.length := by
  induction bytes with
  | nil => decide
  | cons byte rest ih =>
    have small := byte.toNat_lt
    simp only [ofLittleEndian, List.length_cons, capacity]
    omega

/-- A value that fits its width is read back. -/
theorem ofLittleEndian_littleEndian (width value : Nat) (fits : value < capacity width) :
    ofLittleEndian (littleEndian width value) = value := by
  induction width generalizing value with
  | zero =>
    simp only [capacity] at fits
    simp only [littleEndian, ofLittleEndian]
    omega
  | succ width ih =>
    have shorter : value / 256 < capacity width := by
      rw [capacity] at fits
      exact Nat.div_lt_of_lt_mul fits
    simp only [littleEndian, ofLittleEndian, ih _ shorter, UInt8.toNat_ofNat']
    omega

/-- Every byte string is the word it spells. -/
theorem littleEndian_ofLittleEndian (bytes : Bytes) :
    littleEndian bytes.length (ofLittleEndian bytes) = bytes := by
  induction bytes with
  | nil => rfl
  | cons byte rest ih =>
    have small := byte.toNat_lt
    have high : (byte.toNat + 256 * ofLittleEndian rest) / 256 = ofLittleEndian rest := by omega
    have low : UInt8.ofNat (byte.toNat + 256 * ofLittleEndian rest) = byte := by
      apply UInt8.toNat_inj.mp
      rw [UInt8.toNat_ofNat']
      omega
    simp only [List.length_cons, littleEndian, ofLittleEndian, high, low, ih]

theorem ofBigEndian_bigEndian (width value : Nat) (fits : value < capacity width) :
    ofBigEndian (bigEndian width value) = value := by
  simp [ofBigEndian, bigEndian, ofLittleEndian_littleEndian width value fits]

theorem bigEndian_ofBigEndian (bytes : Bytes) :
    bigEndian bytes.length (ofBigEndian bytes) = bytes := by
  have spelled := littleEndian_ofLittleEndian bytes.reverse
  rw [List.length_reverse] at spelled
  simp [bigEndian, ofBigEndian, spelled]

/-! Each reader of a word undoes its writer, and takes nothing but what the writer makes. -/

theorem hostWord16?_append (value : UInt16) (rest : Bytes) :
    hostWord16? (hostWord16 value ++ rest) = some (value, rest) := by
  have taken := take?_append (hostWord16 value) rest
  rw [hostWord16, length_littleEndian] at taken
  have fits : value.toNat < capacity 2 := value.toNat_lt
  simp [hostWord16?, hostWord16, taken, ofLittleEndian_littleEndian 2 value.toNat fits]

theorem hostWord32?_append (value : UInt32) (rest : Bytes) :
    hostWord32? (hostWord32 value ++ rest) = some (value, rest) := by
  have taken := take?_append (hostWord32 value) rest
  rw [hostWord32, length_littleEndian] at taken
  have fits : value.toNat < capacity 4 := value.toNat_lt
  simp [hostWord32?, hostWord32, taken, ofLittleEndian_littleEndian 4 value.toNat fits]

theorem networkWord16?_append (value : UInt16) (rest : Bytes) :
    networkWord16? (networkWord16 value ++ rest) = some (value, rest) := by
  have taken := take?_append (networkWord16 value) rest
  rw [networkWord16, length_bigEndian] at taken
  have fits : value.toNat < capacity 2 := value.toNat_lt
  simp [networkWord16?, networkWord16, taken, ofBigEndian_bigEndian 2 value.toNat fits]

/-- Bytes that were read as a word are the word written, if words are written as they are read. -/
theorem eq_append_of_map_take? {α : Type} {width : Nat} {value : Bytes → α} {write : α → Bytes}
    (spelled : ∀ word, word.length = width → write (value word) = word)
    {found : α} {bytes rest : Bytes}
    (read : ((take? width bytes).map fun (word, rest) => (value word, rest)) =
      some (found, rest)) : bytes = write found ++ rest := by
  obtain ⟨⟨word, after⟩, taken, kept⟩ := Option.map_eq_some_iff.mp read
  cases kept
  obtain ⟨joined, whole⟩ := take?_eq_some taken
  rw [spelled word whole, joined]

theorem hostWord16_ofLittleEndian {word : Bytes} (whole : word.length = 2) :
    hostWord16 (UInt16.ofNat (ofLittleEndian word)) = word := by
  have small := ofLittleEndian_lt word
  have spelled := littleEndian_ofLittleEndian word
  rw [whole] at small spelled
  have fits : ofLittleEndian word % 2 ^ 16 = ofLittleEndian word := Nat.mod_eq_of_lt small
  rw [hostWord16, UInt16.toNat_ofNat', fits, spelled]

theorem hostWord32_ofLittleEndian {word : Bytes} (whole : word.length = 4) :
    hostWord32 (UInt32.ofNat (ofLittleEndian word)) = word := by
  have small := ofLittleEndian_lt word
  have spelled := littleEndian_ofLittleEndian word
  rw [whole] at small spelled
  have fits : ofLittleEndian word % 2 ^ 32 = ofLittleEndian word := Nat.mod_eq_of_lt small
  rw [hostWord32, UInt32.toNat_ofNat', fits, spelled]

theorem networkWord16_ofBigEndian {word : Bytes} (whole : word.length = 2) :
    networkWord16 (UInt16.ofNat (ofBigEndian word)) = word := by
  have small := ofLittleEndian_lt word.reverse
  have spelled := bigEndian_ofBigEndian word
  rw [List.length_reverse, whole] at small
  rw [whole] at spelled
  have fits : ofBigEndian word % 2 ^ 16 = ofBigEndian word := Nat.mod_eq_of_lt small
  rw [networkWord16, UInt16.toNat_ofNat', fits, spelled]

theorem hostWord16?_eq_some {bytes rest : Bytes} {value : UInt16}
    (read : hostWord16? bytes = some (value, rest)) : bytes = hostWord16 value ++ rest :=
  eq_append_of_map_take? (fun _ => hostWord16_ofLittleEndian) read

theorem hostWord32?_eq_some {bytes rest : Bytes} {value : UInt32}
    (read : hostWord32? bytes = some (value, rest)) : bytes = hostWord32 value ++ rest :=
  eq_append_of_map_take? (fun _ => hostWord32_ofLittleEndian) read

theorem networkWord16?_eq_some {bytes rest : Bytes} {value : UInt16}
    (read : networkWord16? bytes = some (value, rest)) : bytes = networkWord16 value ++ rest :=
  eq_append_of_map_take? (fun _ => networkWord16_ofBigEndian) read

theorem byte?_eq_some {bytes rest : Bytes} {value : UInt8}
    (read : byte? bytes = some (value, rest)) : bytes = value :: rest := by
  cases bytes with
  | nil => cases read
  | cons byte bytes =>
    simp only [byte?, Option.some.injEq, Prod.mk.injEq] at read
    obtain ⟨rfl, rfl⟩ := read
    rfl

end Conntrack.Wire
