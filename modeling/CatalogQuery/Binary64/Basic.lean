/-
Floating point numbers of sixty-four bits, kept as bit patterns and compared as
integers.  Every finite number is a whole multiple of `2 ^ -1074`, the smallest
positive one, so its value is the integer `signedUnits` in that unit; the two
infinities get the next power of two and compare correctly with all the others.
No operation here goes through machine floating point.
-/

namespace CatalogQuery

/-- A floating point number in the sixty-four bit binary format. -/
structure Binary64 where
  /-- Sign, exponent and significand, from the highest bit down. -/
  bits : UInt64
deriving DecidableEq, Inhabited

namespace Binary64

def signBit : Nat := 0x8000000000000000

/-- How many magnitudes have the same exponent, `2 ^ 52`. -/
def binade : Nat := 0x10000000000000

/-- The number one in units of `2 ^ -1074`. -/
def unitsInOne : Nat := 1 <<< 1074

/-- The bit pattern without its sign bit. -/
def magnitude (x : Binary64) : Nat :=
  x.bits.toNat % signBit

/-- Whether the sign bit is set. -/
def isNegative (x : Binary64) : Bool :=
  signBit ≤ x.bits.toNat

/-- The magnitude of the infinities; larger magnitudes are not numbers. -/
def infiniteMagnitude : Nat :=
  2047 * binade

/-- Whether the pattern stands for no number at all. -/
def isNaN (x : Binary64) : Bool :=
  infiniteMagnitude < x.magnitude

/-- Whether the pattern stands for a finite number. -/
def isFinite (x : Binary64) : Bool :=
  x.magnitude < infiniteMagnitude

/-- The number with the given sign and magnitude. -/
def ofMagnitude (negative : Bool) (magnitude : Nat) : Binary64 :=
  ⟨UInt64.ofNat (magnitude + if negative then signBit else 0)⟩

def infinity : Binary64 :=
  ofMagnitude false infiniteMagnitude

def negativeInfinity : Binary64 :=
  ofMagnitude true infiniteMagnitude

/-- The usual pattern that stands for no number. -/
def notANumber : Binary64 :=
  ofMagnitude false (infiniteMagnitude + binade / 2)

/-- The value of a magnitude in units of `2 ^ -1074`.  The magnitudes below
`2 ^ 53` are their own values; above, each run of `2 ^ 52` magnitudes doubles
the step of the one before. -/
def unitsOf (magnitude : Nat) : Nat :=
  let step := magnitude / binade - 1
  (magnitude - step * binade) <<< step

/-- The absolute value in units of `2 ^ -1074`. -/
def units (x : Binary64) : Nat :=
  unitsOf x.magnitude

/-- The value in units of `2 ^ -1074`; both zeros are `0`. -/
def signedUnits (x : Binary64) : Int :=
  if x.isNegative then -(x.units : Int) else x.units

/-- Orders two numbers by value.  A pattern that is not a number is not
comparable, not even with itself. -/
def compare? (x y : Binary64) : Option Ordering :=
  if x.isNaN || y.isNaN then none else some (compare x.signedUnits y.signedUnits)

/-- Equality of values: the two zeros are equal and a pattern that is not a
number equals nothing. -/
def equals (x y : Binary64) : Bool :=
  x.compare? y == some .eq

/-- Whether the value of `x` is below the value of `y`. -/
def isBelow (x y : Binary64) : Bool :=
  x.compare? y == some .lt

/-- Whether the value of `x` is at most the value of `y`. -/
def isAtMost (x y : Binary64) : Bool :=
  match x.compare? y with
  | some o => o != .gt
  | none => false

/-- The integer that the number is, when it is one. -/
def toInt? (x : Binary64) : Option Int :=
  if x.isFinite && x.units % unitsInOne == 0 then some (x.signedUnits / unitsInOne) else none

end Binary64

end CatalogQuery
