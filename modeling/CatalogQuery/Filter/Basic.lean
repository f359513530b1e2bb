/-
Filters: programs that make a stream of records out of sets of files.  They are known by
name and take constants for arguments.
-/
import CatalogQuery.FileSet.Basic
import CatalogQuery.Query.Node

namespace CatalogQuery

namespace Arguments

/-- The keyword argument of a name if it is given, or else the argument at a position. -/
def get? (args : Arguments) (position : Nat) (name : String) : Option Constant :=
  args.keyword.get? name <|> args.positional[position]?

/-- The argument, if it is an integer. -/
def int? (args : Arguments) (position : Nat) (name : String) : Option Int64 :=
  match args.get? position name with
  | some (.int n) => some n
  | _ => none

/-- The argument as a floating point number, if it is a number. -/
def float? (args : Arguments) (position : Nat) (name : String) : Option Binary64 :=
  match args.get? position name with
  | some (.int n) => some (.ofInt n.toInt)
  | some (.float x) => some x
  | _ => none

end Arguments

/-- A filter.  Applying it may ask stores and may fail; what comes out is a stream that
does the rest of the work when its records are pulled. -/
abbrev Filter := List FileSet → Arguments → Action (Except Failure RecordStream)

namespace Filter

def singleInput (name : String) : List FileSet → Except Failure FileSet
  | [input] => .ok input
  | inputs =>
    .error (.filter (name ++ " takes exactly one input query, got " ++ toString inputs.length))

/-- A failure among the records of a filter as one of the filter, unless it has been
attributed already. -/
def attributed (name : String) (f : Failure) : Failure :=
  if f.isCatalogued then f else .filterFailure name f.description

/-- The records of a filter that is applied when the first of them is pulled. -/
def run (filter : Filter) (name : String) (inputs : List FileSet) (args : Arguments) :
    RecordStream :=
  (Flow.ofAction (filter inputs args)).bind fun applied =>
    match applied with
    | .error f => RecordStream.fail (.filterFailure name f.description)
    | .ok records => records.mapItems fun item => item.mapError (attributed name)

end Filter

/-- The filters that queries can name. -/
abbrev FilterRegistry := Dict String Filter

def FilterRegistry.describe (filters : FilterRegistry) : String :=
  "FilterRegistry \x7b filters: [" ++ ", ".intercalate (filters.keys.map Text.quoted) ++
    "] \x7d"

end CatalogQuery
