/-!
# Rounding a quotient

`roundQuotient num den` is the natural number nearest to `num / den`; a half goes to the even
neighbour. It is the only rounding of this library: decimals become binary numbers by it, and
binary numbers become decimals with a fixed number of places.
-/

namespace Stencil.Numeric

/-- The natural number nearest to `num / den`, the even one of two that are equally near. -/
def roundQuotient (num den : Nat) : Nat :=
  let q := num / den
  let r := num % den
  if 2 * r < den then q
  else if den < 2 * r then q + 1
  else q + q % 2

/-- A quotient without remainder is not changed. -/
@[simp] theorem roundQuotient_mul_right (n : Nat) {den : Nat} (h : 0 < den) :
    roundQuotient (n * den) den = n := by
  simp [roundQuotient, Nat.mul_div_cancel n h, h]

end Stencil.Numeric
