import MethodRoutes.Decimal.Shortest

/-!
# The floating-point number of a decimal

A decimal is converted in machine arithmetic. Its digits are rounded to a floating-point number, and
this is multiplied by a power of ten, or divided by one, where the power is rounded as well. What
comes of it need not be the number that is nearest to the decimal, and a decimal that lies below the
greatest number may turn out to be beyond it.

## Main definitions

* `powerOfTen` — the powers of ten as floating-point numbers
* `Decimal.toFloat?` — the floating-point number that a decimal is converted to, if it is finite
-/

namespace MethodRoutes

/-- The floating-point number nearest to a power of ten. -/
def powerOfTen (n : Nat) : Float := .ofScientific 1 false n

namespace Decimal

/-- The powers of ten up to this one are at hand; the next one is infinite. -/
def greatestPower : Nat := 308

/-- Divide a number by `10 ^ n`. Beyond the greatest power this is done step by step, until there is
nothing left of the number. -/
def scaleDown (x : Float) (n : Nat) : Float :=
  if n ≤ greatestPower then x / powerOfTen n
  else if x == 0 then x
  else scaleDown (x / powerOfTen greatestPower) (n - greatestPower)
termination_by n
decreasing_by
  rw [greatestPower] at *
  omega

/-- Multiply a number by `10 ^ n`, unless this is too great. -/
def scaleUp? (x : Float) (n : Nat) : Option Float :=
  if n ≤ greatestPower then
    let y := x * powerOfTen n
    if y.isInf then none else some y
  else if x == 0 then some x
  else none

/-- The number that a decimal is converted to, or nothing if that is infinite. The digits have to
fit in a machine word. -/
def toFloat? (d : Decimal) : Option Float :=
  let x := d.digits.toUInt64.toFloat
  if d.exponent < 0 then some (scaleDown x d.exponent.natAbs)
  else scaleUp? x d.exponent.natAbs

end Decimal

end MethodRoutes
