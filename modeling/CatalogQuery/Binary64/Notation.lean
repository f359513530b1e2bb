/-
How floating point numbers are written.  The digits are always the shortest that
are read back; a `Notation` says up to which decades they are written out
positionally and how an exponent looks otherwise.  Metadata texts and query texts
use one notation each.
-/
import CatalogQuery.Binary64.Decimal

namespace CatalogQuery

/-- The choices a format makes in writing a number whose digits are known. -/
structure Notation where
  /-- The lowest and the highest decade that are written without an exponent. -/
  lowest : Int
  highest : Int
  /-- What stands before an exponent that is not negative. -/
  plus : String
  tie : Binary64.Tie

namespace Notation

/-- The notation of numbers inside query texts and messages: an exponent from
`1e16` up and below `0.0001`, without a plus sign. -/
def plain : Notation := ⟨-4, 15, "", .up⟩

/-- The notation of numbers in encoded metadata: an exponent from `1e+16` up and
below `0.00001`, with a plus sign. -/
def encoded : Notation := ⟨-5, 15, "+", .toEven⟩

def zeros (n : Nat) : String :=
  String.ofList (List.replicate n '0')

/-- Writes the digits of a positive decimal without an exponent, at least one
digit on either side of the point. -/
def positional (digits : List Char) (exponent : Int) : String :=
  match exponent with
  | .ofNat e => String.ofList digits ++ zeros e ++ ".0"
  | .negSucc e =>
    let places := e + 1
    if places < digits.length then
      let whole := digits.length - places
      String.ofList (digits.take whole) ++ "." ++ String.ofList (digits.drop whole)
    else "0." ++ zeros (places - digits.length) ++ String.ofList digits

/-- Writes the digits of a positive decimal with one digit before the point and an
exponent. -/
def scientific (plus : String) (digits : List Char) (decade : Int) : String :=
  let fraction := digits.drop 1
  let point := if fraction.isEmpty then "" else "."
  let sign := if decade < 0 then "-" else plus
  String.ofList (digits.take 1) ++ point ++ String.ofList fraction ++ "e" ++ sign ++
    toString decade.natAbs

/-- Writes a number. -/
def write (n : Notation) (x : Binary64) : String :=
  if x.isNaN then "NaN"
  else
    let sign := if x.isNegative then "-" else ""
    if !x.isFinite then sign ++ "inf"
    else
      let d := Binary64.shortest n.tie x
      if d.coefficient = 0 then sign ++ "0.0"
      else
        let digits := Nat.toDigits 10 d.coefficient
        let decade := d.exponent + digits.length - 1
        if n.lowest ≤ decade ∧ decade ≤ n.highest then sign ++ positional digits d.exponent
        else sign ++ scientific n.plus digits decade

end Notation

end CatalogQuery
