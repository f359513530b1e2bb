/-
Normal forms as conditions on a document column.  A condition is true of a row exactly
where the form holds of the document: tests are guarded by the type of the value, so a
missing field or a value of another type makes them false or unknown and never an
error.  Where a store may evaluate operands in any order the guard is a `case`, as a
cast must not see a value of another type.
-/
import CatalogQuery.Predicate.NormalForm
import CatalogQuery.Sql.Text

namespace CatalogQuery.Sql

def truth : Dialect → Bool → Expr
  | .sqlite, true => .integer 1
  | .sqlite, false => .integer 0
  | .postgres, b => .boolean b

def literal : Constant → Expr
  | .bool b => .boolean b
  | .int n => .integer n.toInt
  | .float x => .real x
  | .text s => .text s

def operatorOf : Comparison → BinaryOp
  | .eq => .eq
  | .ne => .ne
  | .lt => .lt
  | .le => .le
  | .gt => .gt
  | .ge => .ge

/-- A single value that a test is made of. -/
inductive Slot
  /-- A value with an expression for its type. -/
  | typed (value kind : Expr)
  /-- A binary JSON value. -/
  | jsonb (value : Expr)
  /-- An integer that is not part of the document. -/
  | count (value : Expr)

namespace Slot

/-- The expression for the type of the value, if the value has one. -/
def kind? : Slot → Option Expr
  | .typed _ kind => some kind
  | .jsonb value => some (.jsonbType value)
  | .count _ => none

/-- The condition that the value has the type of a constant. -/
def guard? : Slot → Constant → Option Expr
  | .typed _ kind, .int _ | .typed _ kind, .float _ => some (.oneOf kind ["integer", "real"])
  | .typed _ kind, .text _ => some (.equal kind (.text "text"))
  | .typed _ kind, .bool _ => some (.oneOf kind ["true", "false"])
  | .jsonb value, .int _ | .jsonb value, .float _ =>
    some (.equal (.jsonbType value) (.text "number"))
  | .jsonb value, .text _ => some (.equal (.jsonbType value) (.text "string"))
  | .jsonb value, .bool _ => some (.equal (.jsonbType value) (.text "boolean"))
  | .count _, _ => none

/-- The value as one of the type of a constant. -/
def valueAs : Slot → Constant → Expr
  | .typed value _, _ => value
  | .count value, _ => value
  | .jsonb value, .text _ => .jsonbText value
  | .jsonb value, .bool _ => .jsonbCast value .boolean
  | .jsonb value, _ => .jsonbCast value .numeric

/-- The test, made only where the value has the type of a constant. -/
def guarded (s : Slot) (c : Constant) (test : Expr) : Expr :=
  match s, s.guard? c with
  | _, none => test
  | .jsonb _, some guard => .guarded guard test
  | _, some guard => guard.and test

/-- Compares the value with a constant.  In a document without a boolean type of its own
the type of the value says which of the two it is. -/
def compare (s : Slot) (c : Comparison) (constant : Constant) : Expr :=
  match s, constant with
  | .typed _ kind, .bool expected =>
    let wanted := if c = .ne then !expected else expected
    .equal kind (.text (if wanted then "true" else "false"))
  | s, constant =>
    s.guarded constant (.binary (operatorOf c) (s.valueAs constant) (literal constant))

def matching (s : Slot) (p : Pattern) (negated : Bool) : Expr :=
  let value := s.valueAs (.text "")
  let test := match s with
    | .jsonb _ => .binary (.matching p.ignoreCase negated) value (.text p.source)
    | _ =>
      let source := if p.ignoreCase then "(?i)" ++ p.source else p.source
      let test := .binary .regexp value (.text source)
      if negated then .not (.group test) else test
  s.guarded (.text "") test

def inRange (s : Slot) (low high : Constant) : Expr :=
  s.guarded low ((Expr.binary .ge (s.valueAs low) (literal low)).and
    (.binary .le (s.valueAs high) (literal high)))

def notInRange (s : Slot) (low high : Constant) : Expr :=
  s.guarded low (.group (.binary .or (.binary .lt (s.valueAs low) (literal low))
    (.binary .gt (s.valueAs high) (literal high))))

/-- Expressions with an operator between them; without any it is the last argument. -/
def joined (op : BinaryOp) (none : Expr) : List Expr → Expr
  | [] => none
  | [e] => e
  | e :: f :: rest => .binary op e (joined op none (f :: rest))

def inSet (s : Slot) (values : List Constant) : Expr :=
  .group (joined .or (.boolean false) (values.map fun v => .group (s.compare .eq v)))

/-- Whether there is a value and it is not in a set. -/
def notInSet (s : Slot) (values : List Constant) : Expr :=
  match s.kind? with
  | some kind => (Expr.isNotNull kind).and (.not (s.inSet values))
  | none => .not (s.inSet values)

def test (s : Slot) : ScalarTest → Expr
  | .compare c constant => s.compare c constant
  | .matching p negated => s.matching p negated
  | .inRange low high => s.inRange low high
  | .notInRange low high => s.notInRange low high
  | .inSet values => s.inSet values
  | .notInSet values => s.notInSet values

end Slot

/-- Where a value is in a document. -/
inductive Location
  | path (document : Expr) (steps : List PathStep)
  | jsonb (value : Expr)

namespace Location

def ofField (dialect : Dialect) (document : Expr) (field : String) : Location :=
  match dialect with
  | .sqlite => .path document [.key field]
  | .postgres => .jsonb (.jsonbMember document field)

def item (l : Location) (i : Int) : Location :=
  match l with
  | .path document steps => .path document (steps ++ [.item i])
  | .jsonb value => .jsonb (.jsonbItem value i)

def member (l : Location) (key : String) : Location :=
  match l with
  | .path document steps => .path document (steps ++ [.key key])
  | .jsonb value => .jsonb (.jsonbMember value key)

def kind : Location → Expr
  | .path document steps => .jsonType document steps
  | .jsonb value => .jsonbType value

/-- The value itself. -/
def slot : Location → Slot
  | .path document steps => .typed (.jsonExtract document steps) (.jsonType document steps)
  | .jsonb value => .jsonb value

def length : Location → Slot
  | .path document steps => .count (.jsonArrayLength document steps)
  | .jsonb value => .count (.jsonbArrayLength value)

/-- The test, made only where the value is an array. -/
def whenArray (l : Location) (test : Expr) : Expr :=
  let isArray := Expr.equal l.kind (.text "array")
  match l with
  | .path .. => isArray.and test
  | .jsonb _ => .guarded isArray test

def items : Location → Source
  | .path document steps => .jsonItems document steps .e
  | .jsonb value => .jsonbItems value .e

/-- An item of the array at this place. -/
def element : Location → Slot
  | .path .. => .typed (.column .e .value) (.column .e .type)
  | .jsonb _ => .jsonb (.column .e .item)

def someItem (l : Location) (condition : Slot → Expr) : Expr :=
  .exists_ (.selectWhere [.one] l.items (condition l.element))

/-- What an accessor and a test say about the value at this place. -/
def meets (l : Location) (accessor : Accessor) (t : ScalarTest) : Expr :=
  match accessor with
  | .value => l.slot.test t
  | .index i => (l.item i.toInt).slot.test t
  | .key k => (l.member k).slot.test t
  | .any => l.whenArray (l.someItem fun item => item.test t)
  | .all => l.whenArray (.not (l.someItem fun item => .not (.group (item.test t))))
  | .length => l.whenArray (l.length.test t)

end Location

def atomCondition (dialect : Dialect) (document : Expr) (a : Atom) : Expr :=
  let l := Location.ofField dialect document a.field
  .group <| match a.test with
    | .scalar accessor t => l.meets accessor t
    | .present => .isNotNull l.kind
    | .notPresent => .isNull l.kind
    | .contains v => l.whenArray (l.someItem fun item => item.compare .eq v)
    | .notContains v => l.whenArray (.not (l.someItem fun item => item.compare .eq v))

/-- Whether the path to the value of an atom can be written. -/
def isAddressable (dialect : Dialect) (a : Atom) : Bool :=
  match dialect with
  | .postgres => true
  | .sqlite =>
    !a.field.contains '"' &&
      match a.test with
      | .scalar (.key k) _ => !k.contains '"'
      | _ => true

/-- The condition of a normal form, where all of its atoms can be written. -/
def condition (dialect : Dialect) (document : Expr) : Dnf → Expr
  | .always => truth dialect true
  | .never => truth dialect false
  | .anyOf conjunctions =>
    Slot.joined .or (truth dialect false) (conjunctions.map fun atoms =>
      .group (Slot.joined .and (truth dialect true)
        (atoms.map (atomCondition dialect document))))

/-- The condition of a normal form.  The first atom that cannot be written is the
failure. -/
def condition? (dialect : Dialect) (document : Expr) (d : Dnf) : Except Failure Expr :=
  match d.conjunctions.flatten.find? fun a => !isAddressable dialect a with
  | some a => .error (.malformedPredicate a.describe .unaddressableKey)
  | none => .ok (condition dialect document d)

end CatalogQuery.Sql
