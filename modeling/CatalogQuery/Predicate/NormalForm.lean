/-
Normal forms of predicates.  Pushing negations down to the atoms leaves `and` and `or`
only; distributing `and` over `or` then gives a disjunction of conjunctions of atoms.
Both forms hold of the same documents as the predicate.  While distributing, no term
at all stands for false and a term without atoms for true.
-/
import CatalogQuery.Predicate.Atom

namespace CatalogQuery

/-- Negation normal form: negations only inside atoms.  An empty `and` is true and an
empty `or` false. -/
inductive Nnf
  | atom (a : Atom)
  | and (args : List Nnf)
  | or (args : List Nnf)

namespace Nnf

mutual

def holds (metadata : Metadata) : Nnf → Bool
  | .atom a => a.holds metadata
  | .and args => allHold metadata args
  | .or args => anyHolds metadata args

def allHold (metadata : Metadata) : List Nnf → Bool
  | [] => true
  | n :: rest => n.holds metadata && allHold metadata rest

def anyHolds (metadata : Metadata) : List Nnf → Bool
  | [] => false
  | n :: rest => n.holds metadata || anyHolds metadata rest

end

end Nnf

namespace Predicate

mutual

/-- The negation normal form of a predicate, or of its negation.  The first fault from
left to right is the failure. -/
def toNnfUnder (negated : Bool) : Predicate → Except Failure Nnf
  | .not p => toNnfUnder (!negated) p
  | .and args => do
    let args ← toNnfsUnder negated args
    return if negated then .or args else .and args
  | .or args =>
    if args.isEmpty then .error (.malformedPredicate "or()" .emptyDisjunction)
    else do
      let args ← toNnfsUnder negated args
      return if negated then .and args else .or args
  | .leaf l => do
    let a ← l.toAtom
    return .atom (if negated then a.negate else a)

/-- The negation normal forms of several predicates. -/
def toNnfsUnder (negated : Bool) : List Predicate → Except Failure (List Nnf)
  | [] => .ok []
  | p :: rest => do
    let n ← toNnfUnder negated p
    let ns ← toNnfsUnder negated rest
    return n :: ns

end

def toNnf (p : Predicate) : Except Failure Nnf :=
  p.toNnfUnder false

/-- Whether a predicate holds of a document. -/
def evaluate (p : Predicate) (metadata : Metadata) : Except Failure Bool :=
  p.toNnf.map fun n => n.holds metadata

end Predicate

/-- Disjunctive normal form. -/
inductive Dnf
  | always
  | never
  | anyOf (conjunctions : List (List Atom))

namespace Dnf

def holds (metadata : Metadata) : Dnf → Bool
  | .always => true
  | .never => false
  | .anyOf conjunctions => conjunctions.any fun atoms => atoms.all fun a => a.holds metadata

/-- The conjunctions that are left to be tested. -/
def conjunctions : Dnf → List (List Atom)
  | .always | .never => []
  | .anyOf conjunctions => conjunctions

/-- Adds an atom to a conjunction that does not have it yet. -/
def addAtom (atoms : List Atom) (a : Atom) : List Atom :=
  if atoms.any fun b => b.equals a then atoms else atoms ++ [a]

/-- The conjunction of two conjunctions. -/
def join (left right : List Atom) : List Atom :=
  right.foldl addAtom left

/-- Whether two conjunctions have equal atoms in the same order. -/
def sameTerm : List Atom → List Atom → Bool
  | [], [] => true
  | a :: as, b :: bs => a.equals b && sameTerm as bs
  | _, _ => false

/-- Adds a term to a disjunction that does not have it yet. -/
def addTerm (terms : List (List Atom)) (term : List Atom) : List (List Atom) :=
  if terms.any fun t => sameTerm t term then terms else terms ++ [term]

/-- The conjunctions of each left term with each right term. -/
def product (left right : List (List Atom)) : List (List Atom) :=
  left.flatMap fun l => right.map (join l)

mutual

def distribute : Nnf → Except Failure (List (List Atom))
  | .atom a => .ok [[a]]
  | .or args => distributeOr [] args
  | .and args => distributeAnd [[]] args

/-- Adds the terms of each argument to those there are. -/
def distributeOr (terms : List (List Atom)) : List Nnf → Except Failure (List (List Atom))
  | [] => .ok terms
  | n :: rest => do
    let more ← distribute n
    let terms := more.foldl addTerm terms
    if maxConjunctions < terms.length then .error .predicateTooComplex
    else distributeOr terms rest

/-- Multiplies the terms there are with those of each argument.  An argument that is
false settles the matter. -/
def distributeAnd (terms : List (List Atom)) : List Nnf → Except Failure (List (List Atom))
  | [] => .ok terms
  | n :: rest => do
    let right ← distribute n
    if right.isEmpty then .ok []
    else if maxConjunctions < terms.length * right.length then .error .predicateTooComplex
    else distributeAnd (product terms right) rest

end

def ofTerms (terms : List (List Atom)) : Dnf :=
  if terms.isEmpty then .never
  else if terms.any List.isEmpty then .always
  else .anyOf terms

end Dnf

def Predicate.normalize (p : Predicate) : Except Failure Dnf := do
  let n ← p.toNnf
  let terms ← Dnf.distribute n
  return Dnf.ofTerms terms

end CatalogQuery
