/-
Atoms: leaves whose operands have been checked and whose patterns have been read.
The negation of an atom is again an atom; it holds of a document only where the field
has a value of the right type, so an atom and its negation may both fail.
-/
import CatalogQuery.Failure
import CatalogQuery.Pattern.Basic
import CatalogQuery.Predicate.Basic

namespace CatalogQuery

/-- A test of a single value. -/
inductive ScalarTest
  | compare (c : Comparison) (value : Constant)
  | matching (pattern : Pattern) (negated : Bool)
  | inRange (low high : Constant)
  | notInRange (low high : Constant)
  | inSet (values : List Constant)
  | notInSet (values : List Constant)

/-- The test that an atom makes of its field. -/
inductive Test
  /-- A test of what the accessor finds in the field. -/
  | scalar (accessor : Accessor) (test : ScalarTest)
  | present
  | notPresent
  /-- The field is an array and the constant is one of its items. -/
  | contains (value : Constant)
  /-- The field is an array and the constant is none of its items. -/
  | notContains (value : Constant)

/-- A single test of a metadata field. -/
structure Atom where
  field : String
  test : Test

def sameConstants : List Constant → List Constant → Bool
  | [], [] => true
  | a :: as, b :: bs => a.equals b && sameConstants as bs
  | _, _ => false

namespace ScalarTest

/-- Whether two tests are of the same kind with equal operands. -/
def equals : ScalarTest → ScalarTest → Bool
  | .compare c v, .compare d w => c == d && v.equals w
  | .matching p m, .matching q n => p.equals q && m == n
  | .inRange a b, .inRange c d => a.equals c && b.equals d
  | .notInRange a b, .notInRange c d => a.equals c && b.equals d
  | .inSet vs, .inSet ws => sameConstants vs ws
  | .notInSet vs, .notInSet ws => sameConstants vs ws
  | _, _ => false

/-- The test that holds of a value of the right type exactly if the given one fails. -/
def negate : ScalarTest → ScalarTest
  | .compare c v => .compare c.negate v
  | .matching p negated => .matching p (!negated)
  | .inRange low high => .notInRange low high
  | .notInRange low high => .inRange low high
  | .inSet vs => .notInSet vs
  | .notInSet vs => .inSet vs

/-- Whether the test only has integers for operands. -/
def isIntegral : ScalarTest → Bool
  | .compare _ v => v.isInt
  | .matching _ _ => false
  | .inRange low high | .notInRange low high => low.isInt && high.isInt
  | .inSet vs | .notInSet vs => vs.all Constant.isInt

def passes (t : ScalarTest) (value : Json) : Bool :=
  match t with
  | .compare c v =>
    match v.order? value with
    | some o => c.accepts o
    | none => false
  | .matching p negated =>
    match value with
    | .string s => p.isMatch s != negated
    | _ => false
  | .inRange low high =>
    match low.order? value, high.order? value with
    | some below, some above => below != .lt && above != .gt
    | _, _ => false
  | .notInRange low high =>
    match low.order? value, high.order? value with
    | some below, some above => below == .lt || above == .gt
    | _, _ => false
  | .inSet vs => vs.any fun v => v.isEqualTo value
  | .notInSet vs => !vs.any fun v => v.isEqualTo value

/-- The test as it is written after the scalar. -/
def describe : ScalarTest → String
  | .compare c v => c.symbol ++ " " ++ v.describe
  | .matching p negated => patternSymbol p.ignoreCase negated ++ " " ++ Text.quoted p.source
  | .inRange low high => "in " ++ low.describe ++ ":" ++ high.describe
  | .notInRange low high => "not in " ++ low.describe ++ ":" ++ high.describe
  | .inSet vs => "in (" ++ describeSet vs ++ ")"
  | .notInSet vs => "not in (" ++ describeSet vs ++ ")"

end ScalarTest

namespace Accessor

/-- The accessor under which a negated test is made: "some item" and "every item" change
places. -/
def dual : Accessor → Accessor
  | .any => .all
  | .all => .any
  | accessor => accessor

/-- The item at a position, counted from the end if the position is negative. -/
def itemAt? (items : List Json) (i : Int) : Option Json :=
  if 0 ≤ i then items[i.toNat]?
  else if i.natAbs ≤ items.length then items[items.length - i.natAbs]?
  else none

/-- Whether what the accessor finds in a value passes a test. -/
def meets (accessor : Accessor) (t : ScalarTest) (value : Json) : Bool :=
  match accessor, value with
  | .value, v => t.passes v
  | .index i, .array items =>
    match itemAt? items i.toInt with
    | some item => t.passes item
    | none => false
  | .key k, .object members =>
    match Assoc.get? k members with
    | some member => t.passes member
    | none => false
  | .any, .array items => items.any t.passes
  | .all, .array items => items.all t.passes
  | .length, .array items => t.passes (.int items.length)
  | _, _ => false

end Accessor

namespace Test

/-- Whether two tests are the same. -/
def equals : Test → Test → Bool
  | .scalar a s, .scalar b t => a == b && s.equals t
  | .present, .present => true
  | .notPresent, .notPresent => true
  | .contains v, .contains w => v.equals w
  | .notContains v, .notContains w => v.equals w
  | _, _ => false

/-- The negation of a test. -/
def negate : Test → Test
  | .scalar accessor t => .scalar accessor.dual t.negate
  | .present => .notPresent
  | .notPresent => .present
  | .contains v => .notContains v
  | .notContains v => .contains v

/-- Whether the test holds of a field, given its value if there is one. -/
def holds (t : Test) (found : Option Json) : Bool :=
  match t, found with
  | .present, found => found.isSome
  | .notPresent, found => found.isNone
  | .scalar accessor t, some value => accessor.meets t value
  | .contains v, some (.array items) => items.any fun item => v.isEqualTo item
  | .notContains v, some (.array items) => !items.any fun item => v.isEqualTo item
  | _, _ => false

end Test

namespace Atom

/-- Whether two atoms make the same test of the same field. -/
def equals (a b : Atom) : Bool :=
  a.field == b.field && a.test.equals b.test

/-- The negation. -/
def negate (a : Atom) : Atom :=
  ⟨a.field, a.test.negate⟩

def describe (a : Atom) : String :=
  match a.test with
  | .scalar accessor t => Scalar.describe ⟨a.field, accessor⟩ ++ " " ++ t.describe
  | .present => a.field ++ " present"
  | .notPresent => a.field ++ " not present"
  | .contains v => v.describe ++ " in " ++ a.field
  | .notContains v => v.describe ++ " not in " ++ a.field

def holds (a : Atom) (metadata : Metadata) : Bool :=
  a.test.holds (Assoc.get? a.field metadata)

end Atom

namespace Leaf

/-- Refuses a predicate without a field name. -/
def checkField (l : Leaf) (name : String) : Except Failure Unit :=
  if name.isEmpty then .error (.malformedPredicate l.describe .emptyField) else .ok ()

/-- Refuses operands that are not finite. -/
def checkConstant (l : Leaf) (c : Constant) : Except Failure Unit :=
  if c.isProper then .ok () else .error (.malformedPredicate l.describe .notFinite)

def ofScalar (l : Leaf) (scalar : Scalar) (test : ScalarTest) : Except Failure Atom := do
  l.checkField scalar.name
  if scalar.accessor = .length ∧ !test.isIntegral then
    .error (.malformedPredicate l.describe .lengthNotInteger)
  else .ok ⟨scalar.name, .scalar scalar.accessor test⟩

def ofField (l : Leaf) (name : String) (test : Test) : Except Failure Atom := do
  l.checkField name
  .ok ⟨name, test⟩

/-- Refuses bounds that are neither both numbers nor both texts. -/
def checkBounds (l : Leaf) (low high : Constant) : Except Failure Unit := do
  l.checkConstant low
  l.checkConstant high
  match low, high with
  | .text _, .text _ => .ok ()
  | low, high =>
    if low.isNumeric && high.isNumeric then .ok ()
    else .error (.malformedPredicate l.describe (.unlikeBounds low.typeName high.typeName))

/-- Refuses a set without members or with one that is not finite. -/
def checkSet (l : Leaf) (values : List Constant) : Except Failure Unit :=
  if values.isEmpty then .error (.malformedPredicate l.describe .emptySet)
  else values.forM l.checkConstant

def comparisonTest (l : Leaf) (op : Operator) (value : Constant) :
    Except Failure ScalarTest :=
  match op, value with
  | .pattern ignoreCase negated, .text source =>
    match Pattern.compile? ignoreCase source with
    | some pattern => .ok (.matching pattern negated)
    | none => .error (.malformedPredicate l.describe .invalidPattern)
  | .pattern _ _, _ => .error (.malformedPredicate l.describe .patternNotText)
  | .order c, value => do
    l.checkConstant value
    match value with
    | .bool _ =>
      if c = .eq ∨ c = .ne then .ok (.compare c value)
      else .error (.malformedPredicate l.describe .booleanOrder)
    | value => .ok (.compare c value)

/-- Checks the operands of a leaf and makes its atom. -/
def toAtom (l : Leaf) : Except Failure Atom :=
  match l with
  | .compare scalar op value => do
    let test ← l.comparisonTest op value
    l.ofScalar scalar test
  | .inRange scalar low high => do
    l.checkBounds low high
    l.ofScalar scalar (.inRange low high)
  | .notInRange scalar low high => do
    l.checkBounds low high
    l.ofScalar scalar (.notInRange low high)
  | .inSet scalar values => do
    l.checkSet values
    l.ofScalar scalar (.inSet values)
  | .notInSet scalar values => do
    l.checkSet values
    l.ofScalar scalar (.notInSet values)
  | .present name => l.ofField name .present
  | .notPresent name => l.ofField name .notPresent
  | .arrayContains name value => do
    l.checkConstant value
    l.ofField name (.contains value)
  | .arrayNotContains name value => do
    l.checkConstant value
    l.ofField name (.notContains value)

end Leaf

end CatalogQuery
