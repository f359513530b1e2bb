/-
What can go wrong with a query, as a catalogue of causes.  Every cause belongs to one
of three stages and has a stable code; its wording is written down here once.  Errors
that a store or a filter raises on its own are outside of the catalogue until they
are attributed to the step of the query that met them.
-/
import CatalogQuery.Store.Cell

namespace CatalogQuery

/-- The stage of a query that a failure belongs to. -/
inductive Stage
  /-- Operators of different query types are mixed. -/
  | compatibility
  /-- The query has no meaning; found before any storage is touched. -/
  | compilation
  /-- A store or a filter failed. -/
  | execution
deriving DecidableEq

def Stage.name : Stage → String
  | .compatibility => "SyntaxCompatibilityError"
  | .compilation => "CompilationError"
  | .execution => "ExecutionError"

/-- The codes of the catalogue. -/
inductive ErrorCode
  | queryTypeMismatch
  | unknownNamedQuery
  | namedQueryCycle
  | invalidNamedQuerySource
  | unknownFilter
  | malformedPredicate
  | predicateTooComplex
  | invalidOperand
  | missingNamespace
  | storeFailure
  | filterFailure
  | invalidRow
deriving DecidableEq

namespace ErrorCode

/-- The whole catalogue. -/
def all : List ErrorCode :=
  [.queryTypeMismatch, .unknownNamedQuery, .namedQueryCycle, .invalidNamedQuerySource,
    .unknownFilter, .malformedPredicate, .predicateTooComplex, .invalidOperand,
    .missingNamespace, .storeFailure, .filterFailure, .invalidRow]

def text : ErrorCode → String
  | .queryTypeMismatch => "MQL_ERROR_QUERY_TYPE_MISMATCH"
  | .unknownNamedQuery => "MQL_ERROR_UNKNOWN_NAMED_QUERY"
  | .namedQueryCycle => "MQL_ERROR_NAMED_QUERY_CYCLE"
  | .invalidNamedQuerySource => "MQL_ERROR_INVALID_NAMED_QUERY_SOURCE"
  | .unknownFilter => "MQL_ERROR_UNKNOWN_FILTER"
  | .malformedPredicate => "MQL_ERROR_MALFORMED_PREDICATE"
  | .predicateTooComplex => "MQL_ERROR_PREDICATE_TOO_COMPLEX"
  | .invalidOperand => "MQL_ERROR_INVALID_OPERAND"
  | .missingNamespace => "MQL_ERROR_MISSING_NAMESPACE"
  | .storeFailure => "MQL_ERROR_STORE_FAILURE"
  | .filterFailure => "MQL_ERROR_FILTER_FAILURE"
  | .invalidRow => "MQL_ERROR_INVALID_ROW"

def stage : ErrorCode → Stage
  | .queryTypeMismatch => .compatibility
  | .storeFailure | .filterFailure | .invalidRow => .execution
  | _ => .compilation

def title : ErrorCode → String
  | .queryTypeMismatch => "Operator does not fit the query type"
  | .unknownNamedQuery => "Unknown named query"
  | .namedQueryCycle => "Named query cycle"
  | .invalidNamedQuerySource => "Stored query cannot be decoded"
  | .unknownFilter => "Unknown filter"
  | .malformedPredicate => "Malformed metadata predicate"
  | .predicateTooComplex => "Metadata predicate too complex"
  | .invalidOperand => "Invalid operand"
  | .missingNamespace => "Namespace required"
  | .storeFailure => "Store call failed"
  | .filterFailure => "Filter failed"
  | .invalidRow => "Row does not match the column contract"

end ErrorCode

/-- Stands in a message where it would repeat what the reader of another language (of
JSON texts, patterns or globs) says about a text it refuses.  The readers of this
library only refuse. -/
def elidedDetail : String := "<detail>"

/-- The largest number of conjunctions a predicate may be distributed to. -/
def maxConjunctions : Nat := 4096

/-- Why a metadata predicate has no meaning. -/
inductive PredicateFault
  | emptyField
  | notFinite
  | patternNotText
  | invalidPattern
  | booleanOrder
  | unlikeBounds (low high : String)
  | emptySet
  | lengthNotInteger
  | emptyDisjunction
  | unaddressableKey
deriving DecidableEq

def PredicateFault.text : PredicateFault → String
  | .emptyField => "field name is empty"
  | .notFinite => "floating point operand must be finite"
  | .patternNotText => "pattern operand must be a string"
  | .invalidPattern => "invalid pattern: " ++ elidedDetail
  | .booleanOrder => "booleans only support = and !="
  | .unlikeBounds low high =>
    "range bounds must both be numbers or both be strings, got " ++ low ++ " and " ++ high
  | .emptySet => "set must not be empty"
  | .lengthNotInteger => "len() can only be compared with integers"
  | .emptyDisjunction => "disjunction needs at least one operand"
  | .unaddressableKey => "metadata keys containing `\"` cannot be addressed in SQL"

/-- Why an operand of a query has no meaning. -/
inductive OperandFault
  | emptyIds
  | emptyDids
  | emptyNames
  | noOperand
  | noDataset
  | invalidGlob
deriving DecidableEq

def OperandFault.text : OperandFault → String
  | .emptyIds => "id list is empty"
  | .emptyDids => "did list is empty"
  | .emptyNames => "name list is empty"
  | .noOperand => "needs at least one operand"
  | .noDataset => "needs at least one dataset"
  | .invalidGlob => elidedDetail

/-- Why a row of a store is not a record. -/
inductive RowFault
  | tooShort (expected found : Nat)
  | notText (column : String) (found : Cell)
  | notJson (column : String)
  | notJsonText (column : String) (found : Cell)
  | metadataNotObject (id : String) (found : Json)
  | notArray (column : String)

def RowFault.text : RowFault → String
  | .tooShort expected found =>
    "expected " ++ toString expected ++ " columns, got " ++ toString found
  | .notText column found => "column `" ++ column ++ "` must be text, got " ++ found.describe
  | .notJson column => "column `" ++ column ++ "` is not JSON: " ++ elidedDetail
  | .notJsonText column found =>
    "column `" ++ column ++ "` must be JSON text, got " ++ found.describe
  | .metadataNotObject id found =>
    "metadata of `" ++ id ++ "` is not an object: " ++ found.write
  | .notArray column => "column `" ++ column ++ "` must be a JSON array"

/-- A failure and its cause. -/
inductive Failure
  | queryTypeMismatch (expected found : String)
  | unknownNamedQuery (space name : String)
  | namedQueryCycle (chain : List String)
  | invalidNamedQuerySource (space name : String)
  | unknownFilter (name : String)
  | malformedPredicate (subject : String) (fault : PredicateFault)
  | predicateTooComplex
  | invalidOperand (subject : String) (fault : OperandFault)
  | missingNamespace (subject : String)
  /-- A store call failed; the statement is known when it is to be shown. -/
  | storeFailure (context : String) (statement : Option String) (cause : String)
  | filterFailure (name cause : String)
  | invalidRow (context : String) (fault : RowFault)
  /-- An error raised by a store. -/
  | store (description : String)
  /-- An error raised by a filter. -/
  | filter (description : String)
  /-- An error of another origin. -/
  | foreign (stage : Stage) (code title description : String)

namespace Failure

/-- The code of a failure of the catalogue. -/
def code? : Failure → Option ErrorCode
  | .queryTypeMismatch .. => some .queryTypeMismatch
  | .unknownNamedQuery .. => some .unknownNamedQuery
  | .namedQueryCycle .. => some .namedQueryCycle
  | .invalidNamedQuerySource .. => some .invalidNamedQuerySource
  | .unknownFilter .. => some .unknownFilter
  | .malformedPredicate .. => some .malformedPredicate
  | .predicateTooComplex => some .predicateTooComplex
  | .invalidOperand .. => some .invalidOperand
  | .missingNamespace .. => some .missingNamespace
  | .storeFailure .. => some .storeFailure
  | .filterFailure .. => some .filterFailure
  | .invalidRow .. => some .invalidRow
  | .store _ | .filter _ | .foreign .. => none

def codeText (f : Failure) : String :=
  match f with
  | .store _ => "MQL_ERROR_STORE"
  | .filter _ => "MQL_ERROR_FILTER"
  | .foreign _ code _ _ => code
  | f => (f.code?.map ErrorCode.text).getD ""

/-- Whether the failure carries a code of the catalogue. -/
def isCatalogued (f : Failure) : Bool :=
  ErrorCode.all.any fun code => code.text == f.codeText

def stage (f : Failure) : Stage :=
  match f with
  | .foreign stage _ _ _ => stage
  | f => (f.code?.map ErrorCode.stage).getD .execution

def title (f : Failure) : String :=
  match f with
  | .store _ => ErrorCode.title .storeFailure
  | .filter _ => ErrorCode.title .filterFailure
  | .foreign _ _ title _ => title
  | f => (f.code?.map ErrorCode.title).getD ""

/-- What happened, in words. -/
def description : Failure → String
  | .queryTypeMismatch expected found =>
    "`" ++ found ++ "` cannot appear where a " ++ expected ++ " query is expected"
  | .unknownNamedQuery space name =>
    "named query `" ++ space ++ ":" ++ name ++ "` is not registered"
  | .namedQueryCycle chain => "named query cycle: " ++ " -> ".intercalate chain
  | .invalidNamedQuerySource space name =>
    "named query `" ++ space ++ ":" ++ name ++ "`: " ++ elidedDetail
  | .unknownFilter name => "unknown filter " ++ name
  | .malformedPredicate subject fault => "`" ++ subject ++ "`: " ++ fault.text
  | .predicateTooComplex =>
    "normal form would exceed " ++ toString maxConjunctions ++ " conjunctions"
  | .invalidOperand subject fault => "`" ++ subject ++ "`: " ++ fault.text
  | .missingNamespace subject =>
    subject ++ " has no namespace and no default namespace is configured"
  | .storeFailure context none cause => context ++ ": " ++ cause
  | .storeFailure context (some statement) cause =>
    context ++ ": " ++ cause ++ "\n-- fragment --\n" ++ statement
  | .filterFailure name cause => "filter " ++ name ++ ": " ++ cause
  | .invalidRow context fault => context ++ ": " ++ fault.text
  | .store description => description
  | .filter description => description
  | .foreign _ _ _ description => description

def message (f : Failure) : String :=
  f.stage.name ++ ": " ++ f.title ++ ": " ++ f.description

/-- Whether the failure is found without touching any storage. -/
def isCompilation (f : Failure) : Bool :=
  f.stage != .execution

end Failure

end CatalogQuery
