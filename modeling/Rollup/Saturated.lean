/-
  Saturating 64-bit arithmetic.

  Times and row counts live in the signed 64-bit range.  They are held as `Int`, and an operation
  that would leave the range answers the nearer end of it: the exact result, then `clamp`.  The
  exact operation stays inside the definition, so a closed form is one `min` and one `max` away.
-/
namespace Rollup.Saturated

/-- The least integer of the range, `-2 ^ 63`. -/
def least : Int := -9223372036854775808

/-- The greatest integer of the range, `2 ^ 63 - 1`. -/
def greatest : Int := 9223372036854775807

/-- The integer of the range nearest to `n`. -/
def clamp (n : Int) : Int := max least (min greatest n)

/-- Difference, held in the range. -/
def sub (a b : Int) : Int := clamp (a - b)

/-- Product, held in the range. -/
def mul (a b : Int) : Int := clamp (a * b)

theorem least_le_clamp (n : Int) : least ≤ clamp n := by
  unfold clamp; omega

theorem clamp_le_greatest (n : Int) : clamp n ≤ greatest := by
  unfold clamp least greatest; omega

theorem clamp_eq_self {n : Int} (hl : least ≤ n) (hg : n ≤ greatest) : clamp n = n := by
  unfold clamp; omega

end Rollup.Saturated
