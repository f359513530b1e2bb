/-
Metadata predicates: comparisons of metadata fields with constants, joined by the
boolean operators.  Constants keep the type they are written with and nothing is
converted between types.
-/
import CatalogQuery.Json.Basic
import CatalogQuery.Text.Quoted
import CatalogQuery.Word64

namespace CatalogQuery

/-- A literal operand. -/
inductive Constant
  | bool (b : Bool)
  | int (n : Int64)
  | float (x : Binary64)
  | text (s : String)
deriving DecidableEq, Inhabited

/-- How a metadata field is looked at. -/
inductive Accessor
  | value
  /-- Some item of an array. -/
  | any
  /-- Every item of an array. -/
  | all
  /-- The item at a position, counted from the end if negative. -/
  | index (i : Int64)
  /-- The member of an object. -/
  | key (k : String)
  /-- The number of items of an array. -/
  | length
deriving DecidableEq, Inhabited

/-- A metadata field and how to look at it. -/
structure Scalar where
  name : String
  accessor : Accessor
deriving DecidableEq, Inhabited

inductive Comparison
  | eq
  | ne
  | lt
  | le
  | gt
  | ge
deriving DecidableEq

/-- An operator between a field and a constant. -/
inductive Operator
  | order (c : Comparison)
  | pattern (ignoreCase negated : Bool)
deriving DecidableEq

/-- A predicate without boolean operators. -/
inductive Leaf
  | compare (scalar : Scalar) (op : Operator) (value : Constant)
  | inRange (scalar : Scalar) (low high : Constant)
  | notInRange (scalar : Scalar) (low high : Constant)
  | inSet (scalar : Scalar) (values : List Constant)
  | notInSet (scalar : Scalar) (values : List Constant)
  | present (name : String)
  | notPresent (name : String)
  | arrayContains (name : String) (value : Constant)
  | arrayNotContains (name : String) (value : Constant)
deriving DecidableEq

/-- A predicate on metadata, the `MetaExpr` of a query. -/
inductive Predicate
  | and (args : List Predicate)
  | or (args : List Predicate)
  | not (arg : Predicate)
  | leaf (l : Leaf)

namespace Constant

/-- The name of the type of a constant. -/
def typeName : Constant → String
  | .bool _ => "bool"
  | .int _ => "int"
  | .float _ => "float"
  | .text _ => "string"

/-- Whether the constant is a number. -/
def isNumeric : Constant → Bool
  | .int _ | .float _ => true
  | .bool _ | .text _ => false

/-- Whether the constant is an integer. -/
def isInt : Constant → Bool
  | .int _ => true
  | _ => false

/-- Whether the constant is not an infinite or undefined number. -/
def isProper : Constant → Bool
  | .float x => x.isFinite
  | _ => true

/-- The constant as it is written in predicates. -/
def describe : Constant → String
  | .bool b => if b then "true" else "false"
  | .int n => toString n.toInt
  | .float x => Notation.plain.write x
  | .text s => Text.quoted s

/-- Whether two constants have the same type and value; numbers are compared as
numbers, so the two zeros are the same. -/
def equals : Constant → Constant → Bool
  | .bool a, .bool b => a == b
  | .int m, .int n => m == n
  | .float x, .float y => x.equals y
  | .text s, .text t => s == t
  | _, _ => false

/-- Orders a JSON value against a constant of the same type; values of different types
are not comparable.  An integer that does not fit sixty-four signed bits is compared
as a floating point number. -/
def order? (value : Json) (c : Constant) : Option Ordering :=
  match value, c with
  | .number (.int m), .int n =>
    if fitsInt64 m then some (compare m n.toInt)
    else (Binary64.ofInt m).compare? (.ofInt n.toInt)
  | .number (.float x), .int n => x.compare? (.ofInt n.toInt)
  | .number (.int m), .float y => (Binary64.ofInt m).compare? y
  | .number (.float x), .float y => x.compare? y
  | .string s, .text t => some (compare s t)
  | .bool a, .bool b => some (compare a b)
  | _, _ => none

def isEqualTo (value : Json) (c : Constant) : Bool :=
  order? value c == some .eq

end Constant

namespace Comparison

def symbol : Comparison → String
  | .eq => "="
  | .ne => "!="
  | .lt => "<"
  | .le => "<="
  | .gt => ">"
  | .ge => ">="

/-- The comparison that holds of comparable values exactly if the given one fails. -/
def negate : Comparison → Comparison
  | .eq => .ne
  | .ne => .eq
  | .lt => .ge
  | .ge => .lt
  | .le => .gt
  | .gt => .le

/-- Whether the comparison holds of values in this order. -/
def accepts (c : Comparison) (o : Ordering) : Bool :=
  match c with
  | .eq => o == .eq
  | .ne => o != .eq
  | .lt => o == .lt
  | .le => o != .gt
  | .gt => o == .gt
  | .ge => o != .lt

end Comparison

def patternSymbol (ignoreCase negated : Bool) : String :=
  match negated, ignoreCase with
  | false, false => "~"
  | false, true => "~*"
  | true, false => "!~"
  | true, true => "!~*"

def Operator.symbol : Operator → String
  | .order c => c.symbol
  | .pattern ignoreCase negated => patternSymbol ignoreCase negated

/-- The field as it is written in predicates. -/
def Scalar.describe (s : Scalar) : String :=
  match s.accessor with
  | .value => s.name
  | .any => s.name ++ "[any]"
  | .all => s.name ++ "[all]"
  | .index i => s.name ++ "[" ++ toString i.toInt ++ "]"
  | .key k => s.name ++ "[" ++ Text.quoted k ++ "]"
  | .length => "len(" ++ s.name ++ ")"

/-- Constants with commas between them. -/
def describeSet (values : List Constant) : String :=
  ", ".intercalate (values.map Constant.describe)

def Leaf.describe : Leaf → String
  | .compare scalar op value => scalar.describe ++ " " ++ op.symbol ++ " " ++ value.describe
  | .inRange scalar low high =>
    scalar.describe ++ " in " ++ low.describe ++ ":" ++ high.describe
  | .notInRange scalar low high =>
    scalar.describe ++ " not in " ++ low.describe ++ ":" ++ high.describe
  | .inSet scalar values => scalar.describe ++ " in (" ++ describeSet values ++ ")"
  | .notInSet scalar values => scalar.describe ++ " not in (" ++ describeSet values ++ ")"
  | .present name => name ++ " present"
  | .notPresent name => name ++ " not present"
  | .arrayContains name value => value.describe ++ " in " ++ name
  | .arrayNotContains name value => value.describe ++ " not in " ++ name

end CatalogQuery
