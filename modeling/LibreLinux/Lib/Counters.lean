import Mathlib.Data.List.Basic
import Mathlib.Data.List.Pairwise
import Mathlib.Algebra.Order.Group.Nat

/-!
# Counters of 64 bits

A counter that is only ever incremented is at the number of its increments, reduced
to 64 bits. Behind its last value it starts again from zero. As long as there were
fewer than `2 ^ 64` increments its value tells their number, so equal values were
read with no increment in between, and the values it went through increase.
-/

namespace LibreLinux.Counters

/-- One more increment. -/
theorem count_succ (count : Nat) : UInt64.ofNat (count + 1) = UInt64.ofNat count + 1 := by
  rw [UInt64.ofNat_add, UInt64.ofNat_one]

/-- Increments after an increment. -/
theorem count_from (start : UInt64) (count : Nat) :
    start + 1 + UInt64.ofNat count = start + UInt64.ofNat (count + 1) := by
  rw [count_succ, UInt64.add_assoc, UInt64.add_comm 1]

/-- A counter does not come back to a value before it went through all values. -/
theorem count_apart (start : UInt64) (count : Nat) (moved : 0 < count) (below : count < 2 ^ 64) :
    start + UInt64.ofNat count ≠ start := by
  intro same
  have value := congrArg UInt64.toNat same
  rw [UInt64.toNat_add, UInt64.toNat_ofNat'] at value
  have bounded := UInt64.toNat_lt start
  omega

/-- Below the limit a value tells the number of increments. -/
theorem count_unique (earlier later : Nat) (ordered : earlier ≤ later) (below : later < 2 ^ 64)
    (same : UInt64.ofNat earlier = UInt64.ofNat later) : earlier = later := by
  have values := congrArg UInt64.toNat same
  rwa [UInt64.toNat_ofNat_of_lt' below,
    UInt64.toNat_ofNat_of_lt' (Nat.lt_of_le_of_lt ordered below)] at values

/-- Below the limit the values from one on increase. -/
theorem counts_increasing (count : Nat) (below : count < 2 ^ 64) :
    ((List.range count).map (fun index => UInt64.ofNat (index + 1))).Pairwise (· < ·) := by
  rw [List.pairwise_map]
  refine List.pairwise_lt_range.imp_of_mem ?_
  intro first second firstMember secondMember ordered
  have firstBounded := List.mem_range.mp firstMember
  have secondBounded := List.mem_range.mp secondMember
  have limit : UInt64.size = 2 ^ 64 := rfl
  exact (UInt64.ofNat_lt_iff_lt (by omega) (by omega)).mpr (Nat.succ_lt_succ ordered)

end LibreLinux.Counters
