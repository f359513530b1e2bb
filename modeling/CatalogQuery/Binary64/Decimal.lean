/-
Decimal numbers and the floating point numbers they stand for.  A decimal is an
integer coefficient times a power of ten.  It is read by rounding its exact
value; going the other way, `shortest` finds the fewest digits that are read back
as the same number, and of those the nearest to it.
-/
import CatalogQuery.Binary64.Rounding

namespace CatalogQuery

/-- The decimal `± coefficient * 10 ^ exponent`. -/
structure Decimal where
  negative : Bool
  coefficient : Nat
  exponent : Int
deriving DecidableEq, Inhabited

namespace Binary64

/-- The power of ten with an exponent. -/
def tenTo (exponent : Nat) : Nat := Nat.pow 10 exponent

/-- The magnitude nearest to `coefficient * 10 ^ exponent`. -/
def nearestDecimal (coefficient : Nat) (exponent : Int) : Nat :=
  match exponent with
  | .ofNat e => nearest (coefficient * tenTo e * unitsInOne) 1
  | .negSucc e => nearest (coefficient * unitsInOne) (tenTo (e + 1))

/-- Decimal exponents beyond this bound decide a number by their size alone. -/
def farExponent : Nat := 400

/-- Reads a decimal as the nearest number; `none` when that is not finite.
Exponents so large or so small that the coefficient cannot matter are settled
before any power of ten is computed. -/
def ofDecimal? (d : Decimal) : Option Binary64 :=
  if d.coefficient = 0 then some (ofMagnitude d.negative 0)
  else if (farExponent : Int) < d.exponent then none
  else if d.exponent < -((farExponent + d.coefficient.log2 : Nat) : Int) then
    some (ofMagnitude d.negative 0)
  else
    let magnitude := nearestDecimal d.coefficient d.exponent
    if magnitude < infiniteMagnitude then some (ofMagnitude d.negative magnitude) else none

/-- The number of decimal digits of a natural number; zero has none. -/
def digitCount (n : Nat) : Nat :=
  if n = 0 then 0 else (Nat.toDigits 10 n).length

/-- The decade of a positive value: the exponent `p` with
`10 ^ p ≤ units / 2 ^ 1074 < 10 ^ (p + 1)`. -/
def decade (units : Nat) : Int :=
  if unitsInOne ≤ units then (digitCount (units / unitsInOne) : Int) - 1
  else -(digitCount ((unitsInOne + units - 1) / units - 1) : Int)

/-- How an exact tie between two equally short decimals is broken. -/
inductive Tie
  | up
  | toEven
deriving DecidableEq

/-- The coefficient on the grid of multiples of `10 ^ exponent` that is read back
as the given magnitude, the nearer one if both neighbours are. -/
def onGrid? (tie : Tie) (magnitude : Nat) (exponent : Int) : Option Nat :=
  let units := unitsOf magnitude
  let n := match exponent with
    | .ofNat _ => units
    | .negSucc e => units * tenTo (e + 1)
  let d := match exponent with
    | .ofNat e => unitsInOne * tenTo e
    | .negSucc _ => unitsInOne
  let below := n / d
  let above := below + 1
  let doubled := 2 * (n % d)
  let nearer :=
    if doubled < d then below
    else if d < doubled then above
    else match tie with
      | .up => above
      | .toEven => if below % 2 = 0 then below else above
  let farther := if nearer = below then above else below
  [nearer, farther].find? fun c => nearestDecimal c exponent == magnitude

/-- The first of the grids with one, two, ... digits that holds a decimal which
is read back, with that decimal's coefficient and exponent. -/
def firstGrid? (tie : Tie) (magnitude : Nat) : Option (Nat × Int) :=
  let top := decade (unitsOf magnitude)
  (List.range 17).findSome? fun (n : Nat) =>
    let exponent := top - n
    (onGrid? tie magnitude exponent).map fun c => (c, exponent)

/-- Moves the zeros at the end of a coefficient into the exponent. -/
def stripZeros : Nat → Nat → Int → Nat × Int
  | 0, c, e => (c, e)
  | fuel + 1, c, e =>
    if c ≠ 0 ∧ c % 10 = 0 then stripZeros fuel (c / 10) (e + 1) else (c, e)

/-- The shortest decimal that is read back as a finite number.  Should no grid of
at most seventeen digits hold one, the exact decimal expansion is given, so the
result is read back whatever the number is. -/
def shortest (tie : Tie) (x : Binary64) : Decimal :=
  if x.magnitude = 0 then ⟨x.isNegative, 0, 0⟩
  else
    let (c, e) := (firstGrid? tie x.magnitude).getD (x.units * Nat.pow 5 1074, -1074)
    let (c, e) := stripZeros (digitCount c) c e
    ⟨x.isNegative, c, e⟩

end Binary64

end CatalogQuery
