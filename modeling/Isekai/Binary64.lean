import Mathlib.Data.Int.Log
import Mathlib.Data.Rat.Floor

/-! Rounding of rational numbers to double precision: the nearest multiple of the unit in the
last place, and of two nearest ones the even one. The exponent has no upper end, so a result that
overflows stays a very large number. -/

namespace Isekai.Binary64

/-- The nearest integer, and of two nearest ones the even one. -/
def halfEven (value : ℚ) : ℤ :=
  let low := ⌊value⌋
  if value - low < 1 / 2 then low
  else if 1 / 2 < value - low then low + 1
  else if low % 2 = 0 then low
  else low + 1

/-- The exponent of the unit in the last place: 53 bits of precision, and no less than the
exponent of the subnormal numbers. -/
def unitExponent (value : ℚ) : ℤ := max (Int.log 2 |value| - 52) (-1074)

/-- The double that the exact result of an operation is rounded to. -/
def round (value : ℚ) : ℚ :=
  halfEven (value / 2 ^ unitExponent value) * 2 ^ unitExponent value

/-- The double nearest to the square root of a positive number. The root is taken in whole units
finer than those of the result, and half a unit stands for what is left. -/
def sqrt (value : ℚ) : ℚ :=
  let places := 60 - Int.log 2 value / 2
  let scaled := value * 4 ^ places
  let root := Nat.sqrt ⌊scaled⌋.toNat
  round ((root + if (root : ℚ) ^ 2 = scaled then 0 else 1 / 2) / 2 ^ places)

@[simp] theorem halfEven_intCast (value : ℤ) : halfEven value = value := by
  simp [halfEven]

end Isekai.Binary64
