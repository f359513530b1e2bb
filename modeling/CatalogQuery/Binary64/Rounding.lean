/-
Rounding of exact quotients to floating point numbers.  The nearest number is
chosen, and of two equally near the one whose significand is even.  Integers and
quotients of numbers go through the same rounding.
-/
import CatalogQuery.Binary64.Basic

namespace CatalogQuery

/-- The integer nearest to `n / d`, an exact half going to the even one. -/
def roundToEven (n d : Nat) : Nat :=
  let q := n / d
  let doubled := 2 * (n % d)
  if doubled < d then q
  else if d < doubled then q + 1
  else if q % 2 = 0 then q else q + 1

namespace Binary64

/-- The magnitude nearest to `n / d` units of `2 ^ -1074`, without a bound from
above.  A quotient of more than fifty-three binary digits is rounded in steps of
the power of two that leaves fifty-three. -/
def nearest (n d : Nat) : Nat :=
  let step := (n / d).log2 - 52
  roundToEven n (d <<< step) + step * binade

/-- The number nearest to `n / d` units; quotients past the largest finite
number become infinite. -/
def ofUnits (negative : Bool) (n d : Nat) : Binary64 :=
  ofMagnitude negative (min (nearest n d) infiniteMagnitude)

/-- The number nearest to an integer. -/
def ofInt (n : Int) : Binary64 :=
  ofUnits (n < 0) (n.natAbs * unitsInOne) 1

/-- The correctly rounded quotient of two finite numbers, the second not zero. -/
def quotient (x y : Binary64) : Binary64 :=
  ofUnits (x.isNegative != y.isNegative) (x.units * unitsInOne) y.units

end Binary64

end CatalogQuery
