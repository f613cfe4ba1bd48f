import Conntrack.Proofs.GroupMask
import Conntrack.Proofs.SocketLifeCycle

/-!
# What a monitor listens to and how long it waits

A monitor never waits without end, so it can always be stopped: whatever its
configuration file says, its receive timeout is one second at least, and so is
the one that the socket is given. What it listens to is left to the file: an
empty list of groups stands for the groups of all connection events, any other
list is taken as it is. A list of groups that have no bit in the mask therefore
gives a monitor that is bound to no group, and only such a list does
(`waits_and_listens`).
-/

namespace Conntrack.Command

open Wire

/-- A configuration as it was written, but for a timeout of zero and an empty list of groups. -/
structure Mended (written config : Config) : Prop where
  receiveBuffer : config.receiveBuffer = written.receiveBuffer
  timeout_kept : written.receiveTimeout ≠ 0 → config.receiveTimeout = written.receiveTimeout
  timeout_zero : written.receiveTimeout = 0 → config.receiveTimeout = 1
  groups_kept : written.groups ≠ [] → config.groups = written.groups
  groups_empty : written.groups = [] → config.groups = [1, 2, 3]

theorem mended_forMonitor (written : Config) : Mended written written.forMonitor where
  receiveBuffer := rfl
  timeout_kept := fun positive => if_neg positive
  timeout_zero := fun zero => if_pos zero
  groups_kept := fun filled => if_neg filled
  groups_empty := fun empty => if_pos empty

namespace Mended

variable {written config : Config}

theorem one_le_receiveTimeout (mended : Mended written config) :
    1 ≤ config.receiveTimeout.toNat := by
  by_cases zero : written.receiveTimeout = 0
  · rw [mended.timeout_zero zero]
    decide
  · rw [mended.timeout_kept zero]
    have other : written.receiveTimeout.toNat ≠ UInt64.toNat 0 := mt UInt64.toNat_inj.mp zero
    exact Nat.one_le_iff_ne_zero.mpr other

/-- Only a list that was written down, and of which no group can be joined, joins none. -/
theorem mask_eq_zero_iff (mended : Mended written config) :
    config.mask = 0 ↔ written.groups ≠ [] ∧ ∀ group ∈ written.groups, ¬ Joinable group := by
  rw [Config.mask_eq_zero_iff]
  by_cases empty : written.groups = []
  · rw [mended.groups_empty empty]
    constructor
    · intro unjoinable
      exact absurd (by decide) (unjoinable 1 List.mem_cons_self)
    · exact fun filled => absurd empty filled.1
  · rw [mended.groups_kept empty, and_iff_right empty]

end Mended

variable {host : Host} {path : Option String} {config : Config}

/-- The configuration of a monitor is that of all events or a mended one. -/
theorem events_or_mended (loaded : monitorConfig host.files path = .ok config) :
    (path = none ∧ config = .events) ∨ ∃ name text written, path = some name ∧
      readText host.files name = .ok text ∧ Config.read? text = some written ∧
      Mended written config := by
  cases path with
  | none =>
    cases loaded
    exact .inl ⟨rfl, rfl⟩
  | some name =>
    rw [monitorConfig] at loaded
    split at loaded
    · cases loaded
    · next text readable =>
      split at loaded
      · cases loaded
      · next written decoded =>
        cases loaded
        exact .inr ⟨name, text, written, rfl, readable, decoded, mended_forMonitor written⟩

theorem openingCalls_eq (config : Config) : config.openingCalls = [
    .socket 16 524291 12, .bind ⟨16, 0, config.mask⟩,
    .setReceiveBuffer (min config.receiveBuffer.toNat 2147483647),
    .setReceiveTimeout (min config.receiveTimeout.toNat 9223372036854775807) 0] := rfl

/-- Of the calls of a monitor only those of the opening set its socket up. -/
theorem mem_openingCalls_of_made {made : List Call} (cycle : host.LifeCycle config made)
    {call : Call} (member : call ∈ made) (setting : call.isExchange = false)
    (other : call ≠ .close) : call ∈ config.openingCalls := by
  obtain ⟨exchanged, rfl, only⟩ := cycle.between
  rcases List.mem_append.mp member with early | last
  · rcases List.mem_append.mp early with opening | between
    · exact (upToFault_isPrefix _ _).subset opening
    · cases setting.symm.trans (only call between)
  · exact absurd (Host.mem_closing last) other

/-- A monitor waits at most for the seconds of its timeout, which are one at
least, and is bound to the groups that it is given. Its configuration is what was
written, with a timeout of zero and an empty list of groups mended; so the mask
is zero only for a list of groups none of which can be joined. -/
theorem waits_and_listens (loaded : monitorConfig host.files path = .ok config) :
    1 ≤ config.receiveTimeout.toNat ∧
      (path = none → config = ⟨32768, 1, [1, 2, 3]⟩ ∧ config.mask ≠ 0) ∧
      (∀ name, path = some name → ∃ text written, readText host.files name = .ok text ∧
        Config.read? text = some written ∧ Mended written config ∧
        (config.mask = 0 ↔ written.groups ≠ [] ∧ ∀ group ∈ written.groups, ¬ Joinable group)) ∧
      ∃ made, (run (.monitor path) host).2.calls.toList = host.calls.toList ++ made ∧
        (∀ address, .bind address ∈ made → address = ⟨16, 0, config.mask⟩) ∧
        (∀ seconds micro, .setReceiveTimeout seconds micro ∈ made →
          1 ≤ seconds ∧ seconds = min config.receiveTimeout.toNat 9223372036854775807) ∧
        (host.Opens → ∃ size more, made = .socket 16 524291 12 :: .bind ⟨16, 0, config.mask⟩ ::
          .setReceiveBuffer size :: .setReceiveTimeout
            (min config.receiveTimeout.toNat 9223372036854775807) 0 :: more) := by
  have waits : 1 ≤ config.receiveTimeout.toNat := by
    rcases events_or_mended loaded with ⟨-, rfl⟩ | ⟨_, _, _, -, -, -, mended⟩
    · decide
    · exact mended.one_le_receiveTimeout
  refine ⟨waits, ?_, ?_, ?_⟩
  · rintro rfl
    cases loaded
    exact ⟨rfl, by decide⟩
  · rintro name rfl
    rcases events_or_mended loaded with ⟨none, -⟩ | ⟨_, text, written, same, readable, decoded, mended⟩
    · cases none
    · cases same
      exact ⟨text, written, readable, decoded, mended, mended.mask_eq_zero_iff⟩
  · rw [run_monitor_of_loaded loaded]
    obtain ⟨made, logged, cycle⟩ :=
      (opensOnce_withOpen host config socketError (exchanges_monitorEvents config)).logged
    refine ⟨made, logged, ?_, ?_, ?_⟩
    · intro address bound
      have member := mem_openingCalls_of_made cycle bound rfl nofun
      simpa [openingCalls_eq] using member
    · intro seconds micro set
      have member := mem_openingCalls_of_made cycle set rfl nofun
      have same : seconds = min config.receiveTimeout.toNat 9223372036854775807 ∧ micro = 0 := by
        simpa [openingCalls_eq] using member
      exact ⟨same.1 ▸ Nat.le_min.mpr ⟨waits, by decide⟩, same.1⟩
    · intro opens
      obtain ⟨exchanged, rfl, -⟩ := cycle.between
      rw [opens.opening, openingCalls_eq]
      exact ⟨_, _, rfl⟩

/-! A file with the timeout zero and the groups 0 and 32, and one with group 33 alone. -/

def mendedFile : Bytes := [
  123, 34, 114, 101, 99, 118, 95, 116, 105, 109, 101, 111, 117, 116, 95, 115, 101, 99, 115, 34, 58,
  48, 44, 34, 103, 114, 111, 117, 112, 115, 34, 58, 91, 48, 44, 51, 50, 93, 125]

def unjoinableFile : Bytes :=
  [123, 34, 103, 114, 111, 117, 112, 115, 34, 58, 91, 51, 51, 93, 125]

/-- A directory of these two files. -/
def monitorFiles (name : String) : Except Errno Bytes :=
  if name = "mended.json" then .ok mendedFile
  else if name = "unjoinable.json" then .ok unjoinableFile
  else .error Errno.noEntry

def monitorHost : Host where
  files := monitorFiles

theorem waits_and_listens_mended :
    monitorConfig monitorHost.files (some "mended.json") = .ok ⟨32768, 1, [0, 32]⟩ ∧
      1 ≤ (⟨32768, 1, [0, 32]⟩ : Config).receiveTimeout.toNat ∧
      (⟨32768, 1, [0, 32]⟩ : Config).mask ≠ 0 ∧
      ∃ size more, (run (.monitor (some "mended.json")) monitorHost).2.calls.toList =
        .socket 16 524291 12 :: .bind ⟨16, 0, 2147483648⟩ :: .setReceiveBuffer size ::
          .setReceiveTimeout 1 0 :: more := by
  have loaded : monitorConfig monitorHost.files (some "mended.json") =
      .ok ⟨32768, 1, [0, 32]⟩ := rfl
  obtain ⟨waits, -, written, made, logged, -, -, opened⟩ := waits_and_listens loaded
  refine ⟨loaded, waits, ?_, ?_⟩
  · obtain ⟨text, source, readable, decoded, -, masked⟩ := written _ rfl
    cases readable
    cases decoded
    exact mt masked.mp fun unjoinable => unjoinable.2 32 (by decide) (by decide)
  · obtain ⟨size, more, rfl⟩ := opened ⟨rfl, rfl, rfl, rfl⟩
    exact ⟨size, more, logged⟩

/-- It is not so that every configuration that is loaded joins a group. -/
theorem unjoinable_groups_join_none :
    monitorConfig monitorFiles (some "unjoinable.json") = .ok ⟨32768, 1, [33]⟩ ∧
      (⟨32768, 1, [33]⟩ : Config).mask = 0 ∧
      ¬ ∀ (files : String → Except Errno Bytes) (path : Option String) (config : Config),
        monitorConfig files path = .ok config →
          1 ≤ config.receiveTimeout.toNat ∧ config.mask ≠ 0 := by
  have loaded : monitorConfig monitorFiles (some "unjoinable.json") = .ok ⟨32768, 1, [33]⟩ := rfl
  have joins_none : (⟨32768, 1, [33]⟩ : Config).mask = 0 := by decide
  exact ⟨loaded, joins_none, fun claim => (claim _ _ _ loaded).2 joins_none⟩

end Conntrack.Command
