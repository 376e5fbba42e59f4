import Mathlib.Algebra.GroupWithZero.Nat

/-! Unsigned machine words, as the naturals below a power of two. -/

namespace Rust

/-- The largest unsigned number of 64 bits. -/
def u64Max : Nat := 2 ^ 64 - 1

/-- Addition that stops at the largest number. -/
def saturatingAdd (left right : Nat) : Nat := min (left + right) u64Max

/-- Multiplication that stops at the largest number. -/
def saturatingMul (left right : Nat) : Nat := min (left * right) u64Max

/-- Sum of numbers, cut to 64 bits. -/
def sumU64 (numbers : List Nat) : Nat := numbers.sum % 2 ^ 64

/-- A sum below the bound is the true sum. -/
theorem saturatingAdd_eq {left right : Nat} (small : left + right ≤ u64Max) :
    saturatingAdd left right = left + right := Nat.min_eq_left small

/-- A product that stops at the largest number gives the smaller of two quotients. -/
theorem saturatingMul_div (left right divisor : Nat) :
    saturatingMul left right / divisor = min (left * right / divisor) (u64Max / divisor) := by
  simp only [saturatingMul]
  rcases Nat.le_total (left * right) u64Max with fits | large
  · rw [Nat.min_eq_left fits, Nat.min_eq_left (Nat.div_le_div_right fits)]
  · rw [Nat.min_eq_right large, Nat.min_eq_right (Nat.div_le_div_right large)]

/-- Cutting to 64 bits never makes a sum larger. -/
theorem sumU64_le (numbers : List Nat) : sumU64 numbers ≤ numbers.sum := Nat.mod_le _ _

end Rust
