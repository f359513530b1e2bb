/-
Comparisons with constants.  A value that fits a constant compares with it as the test
says; what type it has is told by a name, or by no value where there is nothing.
-/
import CatalogQuery.Proofs.Comparing
import CatalogQuery.Proofs.Sql.Selection

namespace CatalogQuery.Sql

def Value.ofScalar : Json → Value
  | .bool b => .truth b
  | .number n => .number n
  | .string s => .text s
  | .null | .array _ | .object _ => .null

def Value.ofConstant : Constant → Value
  | .bool b => .truth b
  | .int n => .int n.toInt
  | .float x => .number (.float x)
  | .text s => .text s

variable {db : Database} {scope : Scope}

theorem eval_literal (c : Constant) :
    (literal c).eval db scope = some (Value.ofConstant c) := by
  cases c <;> simp only [literal, Expr.eval, Value.ofConstant]

theorem apply_operatorOf (op : Comparison) (v w : Value) :
    (operatorOf op).apply db v w = compareValues db.dialect op v w := by
  cases op <;> rfl

theorem accepts_eq_compare (s t : String) :
    Comparison.accepts .eq (compare s t) = decide (s = t) := by
  simp only [Comparison.accepts]
  by_cases h : s = t
  · subst h
    simp
  · simp [h]

theorem compareValues_text (dialect : Dialect) (s t : String) :
    compareValues dialect .eq (.text s) (.text t) = some (.truth (decide (s = t))) := by
  simp only [compareValues, accepts_eq_compare]

/-- Values of the same type compare as the test says. -/
theorem compareValues_of_fits {c : Constant} {v : Json} (h : c.fits v = true)
    (dialect : Dialect) (op : Comparison) :
    compareValues dialect op (.ofScalar v) (.ofConstant c) =
      some (.truth ((ScalarTest.compare op c).passes v)) := by
  cases c with
  | bool b =>
      cases v <;> first | rfl | cases h
  | text s =>
      cases v <;> first | rfl | cases h
  | int n =>
      cases v with
      | number k =>
          have horder : orderNumbers? k (.int n.toInt) = (Constant.int n).order? (.number k) := by
            cases k <;> rfl
          simp only [Value.ofScalar, Value.ofConstant, Value.int, compareValues, horder,
            ScalarTest.passes]
          cases (Constant.int n).order? (.number k) <;> rfl
      | null | bool | string | array | object => cases h
  | float x =>
      cases v with
      | number k =>
          have horder : orderNumbers? k (.float x) = (Constant.float x).order? (.number k) := by
            cases k <;> rfl
          simp only [Value.ofScalar, Value.ofConstant, compareValues, horder, ScalarTest.passes]
          cases (Constant.float x).order? (.number k) <;> rfl
      | null | bool | string | array | object => cases h

theorem amongValues_text (dialect : Dialect) (s : String) (ts : List String) :
    amongValues dialect (.text s) (ts.map .text) = some (.ofBool (ts.contains s)) := by
  induction ts with
  | nil => rfl
  | cons t rest ih =>
      simp only [List.map_cons, amongValues, compareValues_text, ih, List.contains_cons]
      by_cases h : s = t
      · simp [h, Value.truth?, Truth.ofBool, Truth.or]
      · simp [h, Value.truth?, Truth.ofBool, Truth.or]

theorem amongValues_null (dialect : Dialect) (t : String) (ts : List String) :
    amongValues dialect .null ((t :: ts).map .text) = some .unknown := by
  induction ts generalizing t with
  | nil => rfl
  | cons next rest ih =>
      rw [List.map_cons, amongValues, ih]
      rfl

/-- The text of a type, where there is a value. -/
def kindOf (name : Json → String) (found : Option Json) : Value :=
  found.elim .null fun v => .text (name v)

theorem onJson_of_json? {w : Value} {v : Json} (h : w.json? = some v) (f : Json → Option Value) :
    onJson f w = f v := by
  cases w with
  | json u =>
      cases h
      rfl
  | document d =>
      cases h
      rfl
  | null | truth | number | text => cases h

namespace Expr

variable {e : Expr} {name : Json → String} {found : Option Json}

theorem selects_equal (h : e.eval db scope = some (kindOf name found)) (s : String) :
    (e.equal (.text s)).Selects db scope found.isSome (found.any fun v => decide (name v = s)) := by
  cases found with
  | none =>
      apply Selects.of_unknown
      simp [truth, Expr.equal, eval, h, kindOf, BinaryOp.apply, compareValues, Value.truth?]
  | some v =>
      apply Selects.of_truth
      apply truth_of_eval_truth
      simp [Expr.equal, eval, h, kindOf, BinaryOp.apply, compareValues_text]

theorem selects_oneOf (h : e.eval db scope = some (kindOf name found)) (s : String)
    (ss : List String) :
    (Expr.oneOf e (s :: ss)).Selects db scope found.isSome
      (found.any fun v => (s :: ss).contains (name v)) := by
  cases found with
  | none =>
      apply Selects.of_unknown
      apply truth_of_eval
      simp only [eval, h, kindOf, Option.elim, Option.bind_eq_bind, Option.bind_some,
        amongValues_null]
      rfl
  | some v =>
      apply Selects.of_truth
      apply truth_of_eval
      simp only [eval, h, kindOf, Option.elim, Option.bind_eq_bind, Option.bind_some,
        amongValues_text]
      rfl

theorem selects_isNotNull (h : e.eval db scope = some (kindOf name found)) :
    (Expr.isNotNull e).Selects db scope known found.isSome := by
  apply Selects.of_truth
  apply truth_of_eval_truth
  cases found <;> simp [eval, h, kindOf, Value.isNull]

theorem selects_isNull (h : e.eval db scope = some (kindOf name found)) :
    (Expr.isNull e).Selects db scope known found.isNone := by
  apply Selects.of_truth
  apply truth_of_eval_truth
  cases found <;> simp [eval, h, kindOf, Value.isNull]

end Expr

/-- The names that a document column has for the type of a constant. -/
def typeNames : Constant → List String
  | .int _ | .float _ => ["integer", "real"]
  | .text _ => ["text"]
  | .bool _ => ["true", "false"]

theorem fits_eq_typeName (c : Constant) :
    c.fits = fun v => (typeNames c).contains (typeName v) := by
  funext v
  fun_cases typeName v <;> cases c <;> rfl

/-- The name that the binary JSON type has for the type of a constant. -/
def binaryName : Constant → String
  | .int _ | .float _ => "number"
  | .text _ => "string"
  | .bool _ => "boolean"

theorem fits_eq_binaryTypeName (c : Constant) :
    c.fits = fun v => decide (binaryTypeName v = binaryName c) := by
  funext v
  fun_cases binaryTypeName v <;> cases c <;> rfl

theorem fits_text_eq_typeName (t : String) :
    (Constant.text t).fits = fun v => decide (typeName v = "text") := by
  funext v
  fun_cases typeName v <;> rfl

end CatalogQuery.Sql
