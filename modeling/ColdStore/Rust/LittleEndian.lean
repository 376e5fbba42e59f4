import Mathlib.Data.Nat.Basic
import Mathlib.Tactic.Ring

/-! Fixed-width unsigned integers as little-endian bytes. -/

namespace Rust

/-- The low bytes of a number, least significant first. -/
def toLeBytes : Nat → Nat → List UInt8
  | 0, _ => []
  | width + 1, value => UInt8.ofNat (value % 256) :: toLeBytes width (value / 256)

/-- The number little-endian bytes stand for. -/
def fromLeBytes : List UInt8 → Nat
  | [] => 0
  | byte :: rest => byte.toNat + 256 * fromLeBytes rest

/-- The encoding takes exactly the width it was asked for. -/
@[simp] theorem toLeBytes_length (width value : Nat) : (toLeBytes width value).length = width := by
  induction width generalizing value with
  | zero => rfl
  | succ width ih => simp [toLeBytes, ih]

/-- A number that fits the width reads back as itself. -/
theorem fromLeBytes_toLeBytes (width value : Nat) (fits : value < 256 ^ width) :
    fromLeBytes (toLeBytes width value) = value := by
  -- Each byte carries one base-256 digit, and the rest is the same claim one width down.
  induction width generalizing value with
  | zero =>
    simp only [Nat.pow_zero] at fits
    simp only [toLeBytes, fromLeBytes]
    omega
  | succ width ih =>
    have tail : value / 256 < 256 ^ width := by
      rw [Nat.pow_succ] at fits
      exact Nat.div_lt_of_lt_mul (by rw [Nat.mul_comm]; exact fits)
    have low : (UInt8.ofNat (value % 256)).toNat = value % 256 := by simp
    simp only [toLeBytes, fromLeBytes, low, ih _ tail]
    omega

end Rust
