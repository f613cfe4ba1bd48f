import Conntrack.Config.Basic
import Mathlib.Data.Nat.Bitwise

/-!
# The mask of a list of groups

Group `n` from 1 to 32 has bit `n - 1`, and every other group has none. A mask
is built one group after the other, and each only adds its own bit; so a bit of
the mask is set exactly if its group is listed (`Config.testBit_mask`). The mask
therefore tells which groups with a bit are listed and nothing else
(`Config.mask_eq_iff`): it is zero exactly if no listed group can be joined
(`Config.mask_eq_zero_iff`), and the mask of two lists together has the bits of
both (`Config.mask_append`).
-/

namespace Conntrack

/-- A group that has a bit in the mask. -/
def Joinable (group : UInt32) : Prop := 1 ≤ group ∧ group ≤ 32

instance (group : UInt32) : Decidable (Joinable group) := inferInstanceAs (Decidable (_ ∧ _))

theorem joinable_iff {group : UInt32} : Joinable group ↔ 1 ≤ group.toNat ∧ group.toNat ≤ 32 := by
  simp only [Joinable, UInt32.le_iff_toNat_le]
  rfl

theorem testBit_groupMask (group : UInt32) {bit : Nat} (within : bit < 32) :
    (groupMask group).toNat.testBit bit ↔ group.toNat = bit + 1 := by
  rw [groupMask]
  split
  · next joinable =>
    obtain ⟨positive, small⟩ := joinable_iff.mp joinable
    have below : (group - 1).toNat = group.toNat - 1 := UInt32.toNat_sub_of_le _ _ joinable.1
    have shifted : (1 <<< (group - 1) : UInt32).toNat = 2 ^ (group.toNat - 1) := by
      have bits : group.toNat - 1 < 32 := by omega
      rw [UInt32.toNat_shiftLeft, below, Nat.mod_eq_of_lt bits, Nat.shiftLeft_eq]
      exact (congrArg (· % 2 ^ 32) (Nat.one_mul _)).trans
        (Nat.mod_eq_of_lt (Nat.pow_lt_pow_right (by decide) bits))
    rw [shifted, Nat.testBit_two_pow, decide_eq_true_eq]
    omega
  · next other =>
    have outside := mt joinable_iff.mpr other
    simp only [UInt32.toNat_zero, Nat.zero_testBit, Bool.false_eq_true, false_iff]
    omega

/-- Groups behind a mask add their bits to it. -/
theorem testBit_foldl_groupMask (groups : List UInt32) (mask : UInt32) {bit : Nat}
    (within : bit < 32) :
    (groups.foldl (fun mask group => mask ||| groupMask group) mask).toNat.testBit bit ↔
      mask.toNat.testBit bit ∨ ∃ group ∈ groups, group.toNat = bit + 1 := by
  induction groups generalizing mask with
  | nil => simp
  | cons group groups ih =>
    rw [List.foldl_cons, ih, UInt32.toNat_or, Nat.testBit_or, Bool.or_eq_true,
      testBit_groupMask group within, or_assoc]
    simp only [List.mem_cons, exists_eq_or_imp]

theorem mask_eq_of_testBit {mask other : UInt32}
    (same : ∀ bit < 32, mask.toNat.testBit bit ↔ other.toNat.testBit bit) : mask = other := by
  apply UInt32.toBitVec_inj.mp
  apply BitVec.eq_of_getLsbD_eq
  intro bit within
  exact Bool.eq_iff_iff.mpr (same bit within)

namespace Config

/-- A bit of the mask is set exactly if its group is listed. -/
theorem testBit_mask (config : Config) {bit : Nat} (within : bit < 32) :
    config.mask.toNat.testBit bit ↔ ∃ group ∈ config.groups, group.toNat = bit + 1 := by
  rw [mask, testBit_foldl_groupMask _ _ within, UInt32.toNat_zero, Nat.zero_testBit]
  exact or_iff_right nofun

theorem mem_groups_iff (config : Config) {group : UInt32} (joinable : Joinable group) :
    group ∈ config.groups ↔ config.mask.toNat.testBit (group.toNat - 1) := by
  obtain ⟨positive, small⟩ := joinable_iff.mp joinable
  have within : group.toNat - 1 < 32 := by omega
  rw [config.testBit_mask within]
  constructor
  · intro listed
    exact ⟨group, listed, by omega⟩
  · rintro ⟨other, listed, number⟩
    have same : other = group := UInt32.toNat_inj.mp (by omega)
    exact same ▸ listed

/-- Two masks are the same exactly if no group that has a bit tells their lists apart. -/
theorem mask_eq_iff {config other : Config} :
    config.mask = other.mask ↔
      ∀ group, Joinable group → (group ∈ config.groups ↔ group ∈ other.groups) := by
  constructor
  · intro same group joinable
    rw [config.mem_groups_iff joinable, other.mem_groups_iff joinable, same]
  · intro listed
    apply mask_eq_of_testBit
    intro bit within
    rw [config.testBit_mask within, other.testBit_mask within]
    refine exists_congr fun group => and_congr_left fun number => ?_
    exact listed group (joinable_iff.mpr (by omega))

theorem mask_eq_zero_iff {config : Config} :
    config.mask = 0 ↔ ∀ group ∈ config.groups, ¬ Joinable group := by
  calc
    config.mask = 0 ↔ config.mask = ({} : Config).mask := Iff.rfl
    _ ↔ ∀ group, Joinable group → group ∉ config.groups := by
      simp only [mask_eq_iff, List.not_mem_nil, iff_false]
    _ ↔ ∀ group ∈ config.groups, ¬ Joinable group := forall_congr' fun _ => imp_not_comm

/-- The mask of two lists one behind the other has the bits of both. -/
theorem mask_append (config more : Config) :
    { config with groups := config.groups ++ more.groups }.mask = config.mask ||| more.mask := by
  apply mask_eq_of_testBit
  intro bit within
  rw [UInt32.toNat_or, Nat.testBit_or, Bool.or_eq_true, testBit_mask _ within,
    testBit_mask _ within, testBit_mask _ within]
  simp only [List.mem_append, or_and_right, exists_or]

/-- A mask is the set of the listed groups that have a bit: bit `b` stands for
group `b + 1`. So a list behind another adds the bits of its own mask. Where a
group stands and how often does not matter: two masks are the same exactly if the
same groups from 1 to 32 occur in both lists. All other groups can be left out of
a list, from wherever they stand in it, and its mask stays the same. -/
theorem mask_tells_listed (config : Config) :
    (∀ bit < 32, config.mask.toNat.testBit bit ↔
        ∃ group ∈ config.groups, group.toNat = bit + 1) ∧
      (∀ more : Config, { config with groups := config.groups ++ more.groups }.mask =
        config.mask ||| more.mask) ∧
      (∀ other : Config, config.mask = other.mask ↔
        ∀ group, Joinable group → (group ∈ config.groups ↔ group ∈ other.groups)) ∧
      { config with groups := config.groups.filter (Joinable ·) }.mask = config.mask := by
  refine ⟨fun bit within => config.testBit_mask within, config.mask_append,
    fun other => mask_eq_iff, ?_⟩
  rw [mask_eq_iff]
  intro group joinable
  rw [List.mem_filter, decide_eq_true_eq, and_iff_left joinable]

/-- Groups 32 and 3, the latter twice, between groups that have no bit. -/
def scattered : Config := { groups := [32, 0, 3, 33, 3, 4294967295] }

theorem mask_tells_listed_scattered :
    31 < 32 ∧ scattered.mask.toNat.testBit 31 ∧ 0 < 32 ∧ ¬ scattered.mask.toNat.testBit 0 ∧
      scattered.mask = ({ groups := [3, 32] } : Config).mask := by
  obtain ⟨bits, -, same, -⟩ := mask_tells_listed scattered
  refine ⟨by decide, (bits 31 (by decide)).mpr (by decide), by decide,
    mt (bits 0 (by decide)).mp (by decide), (same _).mpr ?_⟩
  intro group joinable
  have listed : group ∈ scattered.groups.filter (Joinable ·) ↔ group ∈ [3, 32] := by
    simp [scattered, Joinable, or_comm]
  rwa [List.mem_filter, decide_eq_true_eq, and_iff_left joinable] at listed

end Config

end Conntrack
