import DocSearch.Aggregation.Output
import DocSearch.Query.Compile
import DocSearch.Word

/-!
From the aggregations of an answer to the buckets and statistics that a query asked for. All that is
asked for must be there; what else the answer holds is passed over.
-/

namespace DocSearch

def Json.word? : Json → Option UInt64
  | .int n => Word.word64? n
  | _ => none

/-- A count in an answer, zero if there is none. -/
def Json.wordOrZero (j : Json) (name : String) : UInt64 := ((j.get? name).bind Json.word?).getD 0

namespace Flatten

/-- The statistics of fields, each under the name of its aggregation in `members`. -/
def stats (owner : Owner) (members : List (String × Json)) :
    List String → Named ExtendedStats → Except ExtractionError (Named ExtendedStats)
  | [], found => .ok found
  | field :: fields, found =>
    match List.lookup (statsName field) members with
    | none => .error (.missingStats owner (statsName field))
    | some raw =>
      match ExtendedStats.decode raw with
      | .error e => .error (.malformedStats (statsName field) e)
      | .ok s => stats owner members fields (found.insert field s)

/-- A bucket, with its content read by `inside`. -/
def bucket
    (inside : Json → Json → Except ExtractionError (Named BucketLevel × Named ExtendedStats))
    (raw : Json) : Except ExtractionError (Bucket BucketLevel) :=
  match raw.get? "key" with
  | none => .error .bucketWithoutKey
  | some key =>
    match (raw.get? "doc_count").bind Json.word? with
    | none => .error (.bucketWithoutCount key)
    | some docCount => do
      let (items, stats) ← inside key raw
      return ⟨key, (raw.get? "key_as_string").bind Json.string?, docCount, items, stats⟩

/-- Buckets in order, up to the first that cannot be read. -/
def buckets
    (inside : Json → Json → Except ExtractionError (Named BucketLevel × Named ExtendedStats)) :
    List Json → Except ExtractionError (List (Bucket BucketLevel))
  | [] => .ok []
  | raw :: rest => do
    let first ← bucket inside raw
    let others ← buckets inside rest
    return first :: others

/-- A level of buckets, with the content of each read by `inside`. -/
def levelWith (field : String) (raw : Json)
    (inside : Json → Json → Except ExtractionError (Named BucketLevel × Named ExtendedStats)) :
    Except ExtractionError BucketLevel :=
  match (raw.get? "buckets").bind Json.array? with
  | none => .error (.noBuckets field)
  | some raws => do
    let found ← buckets inside raws
    return .mk (raw.wordOrZero "doc_count_error_upper_bound")
      (raw.wordOrZero "sum_other_doc_count") found

/-- The buckets of a field, with those of further fields inside them. -/
def level (statFields : List String) :
    List String → String → Json → Except ExtractionError BucketLevel
  | [], field, raw =>
    levelWith field raw fun key b =>
      (stats (.bucket key) b.members statFields []).map fun s => ([], s)
  | next :: rest, field, raw =>
    levelWith field raw fun key b =>
      match b.get? next with
      | none => .error (.missingSubAggregation key next)
      | some sub => (level statFields rest next sub).map fun inner => ([(next, inner)], [])

def output (groupBy statFields : List String) (raw : Named Json) :
    Except ExtractionError AggregateOutput :=
  match groupBy with
  | [] => (stats .response raw statFields []).map fun s => { stats := s }
  | field :: further =>
    match List.lookup field raw with
    | none => .error (.missingAggregation field)
    | some top => (level statFields further field top).map fun l => { groups := [(field, l)] }

/-- One bound: a number, or the text of a date. -/
def bound (isDate : Bool) (raw : Named Json) (name : String) : Except ExtractionError Json :=
  match List.lookup name raw with
  | none => .error (.missingBoundAggregation name)
  | some agg =>
    match agg.get? (if isDate then "value_as_string" else "value") with
    | none | some .null => .error (.missingBound name)
    | some value => .ok value

/-- The least and the greatest value. -/
def bounds (isDate : Bool) (raw : Named Json) : Except ExtractionError Bounds := do
  return ⟨← bound isDate raw "min", ← bound isDate raw "max"⟩

end Flatten

end DocSearch
