import DocSearch.Json.Decode
import DocSearch.Operator

/-!
What can go wrong with a query and with the calls made for it.
-/

namespace DocSearch

/-- What is wrong with a query, told before any call is made for it. -/
inductive ValidationError where
  | invalidOperator (context : Context) (field operator : String)
  | incompatibleValue (field : String) (operator : Operator) (value : String)
  | unsupportedValue (field : String)
  | unrangeableValue (field : String) (operator : Operator)
  | unknownField (field : String)
  | invalidLimit (limit : Int64)
  | invalidOffset (offset : Int64)
  | pageSizeOutOfRange (size max : UInt64)
  | missingSort
  | emptySortField
  | incompleteNestedSort (field : String)
  | malformedNestedPath (field : String)
  | emptyGroupBy
  | missingAggregation
  | emptyScriptParams
  | invalidScriptParam (name : String)
  deriving Repr, DecidableEq

def ValidationError.message : ValidationError → String
  | .invalidOperator context field operator =>
    "Invalid operator '" ++ operator ++ "' for " ++ context.name ++ " on field '" ++ field ++ "'"
  | .incompatibleValue field operator value =>
    "Value (" ++ value ++ ") and operator (" ++ operator.text ++
      ") are incompatible on field '" ++ field ++ "'"
  | .unsupportedValue field => "Value for field '" ++ field ++ "' is neither numeric nor a string"
  | .unrangeableValue field operator =>
    "Range operator '" ++ operator.text ++ "' on field '" ++ field ++
      "' needs a numeric or date value"
  | .unknownField field => "Unknown field: " ++ field
  | .invalidLimit limit => "Limit must be greater than 0, got " ++ toString limit.toInt
  | .invalidOffset offset =>
    "Offset must be greater than or equal to 0, got " ++ toString offset.toInt
  | .pageSizeOutOfRange size max =>
    "Cursor page size must be greater than 0 and less than or equal to " ++ toString max.toNat ++
      ", got " ++ toString size.toNat
  | .missingSort => "Cursor pagination requires at least one sort field"
  | .emptySortField => "Sort field cannot be empty"
  | .incompleteNestedSort field =>
    "Nested sort on '" ++ field ++ "' requires both a field and a path"
  | .malformedNestedPath field =>
    "Nested field '" ++ field ++ "' must use object.property notation"
  | .emptyGroupBy => "Group by requires at least one field"
  | .missingAggregation => "Aggregate requires a group by or stats directive"
  | .emptyScriptParams => "Update by query requires at least one parameter"
  | .invalidScriptParam name => "Invalid script parameter name: " ++ name

/-- What a search engine reports instead of an answer. -/
inductive EngineError where
  | transport (text : String)
  | status (code : UInt16) (body : String)
  | malformed (text : String)
  deriving Repr, DecidableEq

def EngineError.message : EngineError → String
  | .transport text => "Transport error: " ++ text
  | .status code body => "Engine returned status " ++ toString code.toNat ++ ": " ++ body
  | .malformed text => "Malformed engine response: " ++ text

/-- The operations on an index that call the engine. -/
inductive Operation where
  | find | insert | update | delete | get | count | aggregate | cursor | execute | destroy | minMax
  deriving Repr, DecidableEq

def Operation.name : Operation → String
  | .find => "find"
  | .insert => "insert"
  | .update => "update"
  | .delete => "delete"
  | .get => "get"
  | .count => "count"
  | .aggregate => "aggregate"
  | .cursor => "cursor"
  | .execute => "execute"
  | .destroy => "destroy"
  | .minMax => "min_max"

/-- The one that should have held something: the whole response, or a bucket. -/
inductive Owner where
  | response
  | bucket (key : Json)
  deriving Repr

def Owner.text : Owner → String
  | .response => "response"
  | .bucket key => "bucket " ++ key.compact

/-- Why an answer of the engine does not hold what was asked for. -/
inductive ExtractionError where
  | noProperties
  | noAggregations
  | missingAggregation (field : String)
  | noBuckets (field : String)
  | bucketWithoutKey
  | bucketWithoutCount (key : Json)
  | missingSubAggregation (key : Json) (field : String)
  | missingStats (owner : Owner) (name : String)
  | malformedStats (name : String) (e : DecodeError)
  | missingBoundAggregation (name : String)
  | missingBound (name : String)
  | undecodableDocument (id : String) (e : DecodeError)
  deriving Repr

def ExtractionError.message : ExtractionError → String
  | .noProperties => "mapping has no properties object"
  | .noAggregations => "No aggregations returned"
  | .missingAggregation field => "response lacks aggregation '" ++ field ++ "'"
  | .noBuckets field => "aggregation '" ++ field ++ "' has no bucket list"
  | .bucketWithoutKey => "bucket without key"
  | .bucketWithoutCount key => "bucket " ++ key.compact ++ " without doc_count"
  | .missingSubAggregation key field =>
    "bucket " ++ key.compact ++ " lacks sub-aggregation '" ++ field ++ "'"
  | .missingStats owner name => owner.text ++ " lacks stats aggregation '" ++ name ++ "'"
  | .malformedStats name e => "stats aggregation '" ++ name ++ "' is malformed: " ++ e.message
  | .missingBoundAggregation name => "response lacks '" ++ name ++ "' aggregation"
  | .missingBound name => "'" ++ name ++ "' bound is missing"
  | .undecodableDocument id e => "document '" ++ id ++ "' could not be decoded: " ++ e.message

/-- The failure of an operation. -/
inductive Error where
  | validation (e : ValidationError)
  | notFound (id : String)
  | countMismatch (expected actual : Nat)
  | engine (during : Operation) (e : EngineError)
  | extraction (e : ExtractionError)
  | cancelled
  | json (e : DecodeError)
  | noOutput (chunk : Nat)
  deriving Repr

namespace Error

def message : Error → String
  | .validation e => "Validation error: " ++ e.message
  | .notFound id => "No document found with id: " ++ id
  | .countMismatch expected actual =>
    "Bulk action count mismatch after dispatch: expected " ++ toString expected ++ ", got " ++
      toString actual
  | .engine during e => "Engine error during " ++ during.name ++ ": " ++ e.message
  | .extraction e => "Extraction error: " ++ e.message
  | .cancelled => "Operation cancelled"
  | .json e => "JSON error: " ++ e.message
  | .noOutput chunk => "Internal error: chunk " ++ toString chunk ++ " produced no result"

def kind : Error → String
  | .validation _ => "validation"
  | .notFound _ => "not_found"
  | .countMismatch _ _ => "count_mismatch"
  | .engine _ _ => "engine"
  | .extraction _ => "extraction"
  | .cancelled => "cancelled"
  | .json _ => "json"
  | .noOutput _ => "internal"

end Error

end DocSearch
