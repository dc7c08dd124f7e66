/-!
# Powers of ten and of two

Places after a point shift a number by a power of ten, and widths in bits bound it by a
power of two.
-/

namespace VenueLink.Number

/-- Ten to the power of `n`. -/
def pow10 (n : Nat) : Nat := Nat.pow 10 n

/-- Two to the power of `n`, the first number that does not fit `n` bits. -/
def pow2 (n : Nat) : Nat := Nat.pow 2 n

theorem pow10_zero :
  pow10 0 = 1
  := rfl

theorem pow10_succ (n : Nat) :
  pow10 (n + 1) = pow10 n * 10
  := rfl

theorem pow10_pos (n : Nat) :
  0 < pow10 n
  := Nat.pow_pos (by decide)

theorem pow2_pos (n : Nat) :
  0 < pow2 n
  := Nat.pow_pos (by decide)

/-- Shifts add up. -/
theorem pow10_add (m n : Nat) :
  pow10 (m + n) = pow10 m * pow10 n
  := Nat.pow_add 10 m n

end VenueLink.Number
