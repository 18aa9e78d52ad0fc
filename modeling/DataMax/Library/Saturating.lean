import Mathlib.Tactic.Common

/-! Counters that stay at their largest value. -/

namespace DataMax.Library

def saturatingAddU32 (left right : UInt32) : UInt32 := .ofNat (min (left.toNat + right.toNat) 0xFFFFFFFF)

def saturatingAddU64 (left right : UInt64) : UInt64 := .ofNat (min (left.toNat + right.toNat) 0xFFFFFFFFFFFFFFFF)

@[simp] theorem saturatingAddU32_toNat (left right : UInt32) :
    (saturatingAddU32 left right).toNat = min (left.toNat + right.toNat) 0xFFFFFFFF := by
  rw [saturatingAddU32, UInt32.toNat_ofNat_of_lt']
  exact Nat.lt_of_le_of_lt (Nat.min_le_right ..) (by decide)

@[simp] theorem saturatingAddU64_toNat (left right : UInt64) :
    (saturatingAddU64 left right).toNat = min (left.toNat + right.toNat) 0xFFFFFFFFFFFFFFFF := by
  rw [saturatingAddU64, UInt64.toNat_ofNat_of_lt']
  exact Nat.lt_of_le_of_lt (Nat.min_le_right ..) (by decide)

end DataMax.Library
