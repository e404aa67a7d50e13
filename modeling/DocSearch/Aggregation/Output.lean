import DocSearch.Query.Wire

/-!
Aggregations in the form in which they are handed on: for each field to group by, the buckets of
its values, which hold the buckets of the next field or, innermost, the statistics.
-/

namespace DocSearch

/-- Statistics of a field; those that need a value are missing if there is none. -/
structure ExtendedStats where
  count : UInt64 := 0
  min : Option Float := none
  max : Option Float := none
  avg : Option Float := none
  sum : Float := 0.0
  sumOfSquares : Option Float := none
  variance : Option Float := none
  stdDeviation : Option Float := none
  deriving Repr, DecidableEq

/-- The documents with one value of a field, and what is inside: `α` stands for the buckets of
another field. -/
structure Bucket (α : Type) where
  key : Json
  keyAsString : Option String := none
  docCount : UInt64
  items : List (String × α) := []
  stats : Named ExtendedStats := []

/-- The buckets of a field. -/
inductive BucketLevel where
  | mk (errorBound otherCount : UInt64) (buckets : List (Bucket BucketLevel))

namespace BucketLevel

def errorBound : BucketLevel → UInt64
  | .mk e _ _ => e

/-- How many documents are in buckets that are not listed. -/
def otherCount : BucketLevel → UInt64
  | .mk _ o _ => o

def buckets : BucketLevel → List (Bucket BucketLevel)
  | .mk _ _ bs => bs

mutual

/-- How many levels of buckets there are, this one included. -/
def depth (level : BucketLevel) : Nat :=
  match level with
  | .mk _ _ bs => 1 + depthBuckets bs
termination_by structural level

/-- The greatest depth inside some buckets. -/
def depthBuckets (bs : List (Bucket BucketLevel)) : Nat :=
  match bs with
  | [] => 0
  | ⟨_, _, _, items, _⟩ :: bs => max (depthItems items) (depthBuckets bs)
termination_by structural bs

/-- The greatest depth of some named levels. -/
def depthItems (items : List (String × BucketLevel)) : Nat :=
  match items with
  | [] => 0
  | (_, level) :: items => max (depth level) (depthItems items)
termination_by structural items

end

end BucketLevel

/-- The outcome of a request for aggregations: buckets if there are fields to group by, statistics
of all documents if there are none. -/
structure AggregateOutput where
  groups : Named BucketLevel := []
  stats : Named ExtendedStats := []

/-- The least and the greatest value of a field. -/
structure Bounds where
  min : Json
  max : Json

/-! ### Data values -/

namespace ExtendedStats

def number (x : Option Float) : Json :=
  match x with
  | some x => .ofFloat x
  | none => .null

def toJson (s : ExtendedStats) : Json :=
  .object [("count", .ofWord s.count), ("min", number s.min), ("max", number s.max),
    ("avg", number s.avg), ("sum", .ofFloat s.sum), ("sum_of_squares", number s.sumOfSquares),
    ("variance", number s.variance), ("std_deviation", number s.stdDeviation)]

def decode (j : Json) : Except DecodeError ExtendedStats := do
  let r ← Decode.record "ExtendedStats"
    ["count", "min", "max", "avg", "sum", "sum_of_squares", "variance", "std_deviation"] j
  let count := r.slot "count" Decode.word64
  let min := r.slot "min" (Decode.option Decode.float)
  let max := r.slot "max" (Decode.option Decode.float)
  let avg := r.slot "avg" (Decode.option Decode.float)
  let sum := r.slot "sum" Decode.float
  let squares := r.slot "sum_of_squares" (Decode.option Decode.float)
  let variance := r.slot "variance" (Decode.option Decode.float)
  let deviation := r.slot "std_deviation" (Decode.option Decode.float)
  r.check [count.fault, min.fault, max.fault, avg.fault, sum.fault, squares.fault, variance.fault,
    deviation.fault]
  return ⟨count.getD 0, min.getD none, max.getD none, avg.getD none, sum.getD 0.0,
    squares.getD none, variance.getD none, deviation.getD none⟩

def toJsonAll (stats : Named ExtendedStats) : List (String × Json) :=
  stats.map fun s => (s.1, s.2.toJson)

end ExtendedStats

/-- The members of a bucket whose inner levels are already data values. -/
def Bucket.toJson (b : Bucket Json) : Json :=
  .object (("key", b.key) :: (Json.member? "key_as_string" (b.keyAsString.map Json.string) ++
    [("doc_count", .ofWord b.docCount)] ++ Json.objectMember? "items" b.items ++
    Json.objectMember? "stats" (ExtendedStats.toJsonAll b.stats)))

def Bucket.decode {α : Type} (level : Json → Except DecodeError α) (j : Json) :
    Except DecodeError (Bucket α) := do
  let r ← Decode.record "AggregationBucket"
    ["key", "key_as_string", "doc_count", "items", "stats"] j
  let key := r.slot "key" Decode.any
  let keyAsString := r.slot "key_as_string" (Decode.option Decode.string)
  let docCount := r.slot "doc_count" Decode.word64
  let items := r.slot "items" (Decode.named level)
  let stats := r.slot "stats" (Decode.named ExtendedStats.decode)
  r.check [key.fault, keyAsString.fault, docCount.fault, items.fault, stats.fault]
  return ⟨← r.required "key" key, keyAsString.getD none, ← r.required "doc_count" docCount,
    items.getD [], stats.getD []⟩

namespace BucketLevel

mutual

def toJson (level : BucketLevel) : Json :=
  match level with
  | .mk errorBound otherCount bs =>
    .object [("doc_count_error_upper_bound", .ofWord errorBound),
      ("sum_other_doc_count", .ofWord otherCount), ("buckets", .array (bucketsToJson bs))]
termination_by structural level

def bucketsToJson (bs : List (Bucket BucketLevel)) : List Json :=
  match bs with
  | [] => []
  | ⟨key, keyAsString, docCount, items, stats⟩ :: bs =>
    Bucket.toJson ⟨key, keyAsString, docCount, itemsToJson items, stats⟩ :: bucketsToJson bs
termination_by structural bs

def itemsToJson (items : List (String × BucketLevel)) : List (String × Json) :=
  match items with
  | [] => []
  | (field, level) :: items => (field, toJson level) :: itemsToJson items
termination_by structural items

end

/-- Reads a level in which levels stand inside each other at most `levels` deep. -/
def decodeAt : (levels : Nat) → Json → Except DecodeError BucketLevel
  | 0, j => .error (.wrongType j.found "struct AggregationResponse")
  | levels + 1, j => do
    let r ← Decode.record "AggregationResponse"
      ["doc_count_error_upper_bound", "sum_other_doc_count", "buckets"] j
    let errorBound := r.slot "doc_count_error_upper_bound" Decode.word64
    let otherCount := r.slot "sum_other_doc_count" Decode.word64
    let buckets := r.slot "buckets" (Decode.list (Bucket.decode (decodeAt levels)))
    r.check [errorBound.fault, otherCount.fault, buckets.fault]
    return .mk (errorBound.getD 0) (otherCount.getD 0) (← r.required "buckets" buckets)

def decode (j : Json) : Except DecodeError BucketLevel := decodeAt (j.depth + 1) j

end BucketLevel

namespace AggregateOutput

def toJson (o : AggregateOutput) : Json :=
  .object (Json.objectMember? "groups" (BucketLevel.itemsToJson o.groups) ++
    Json.objectMember? "stats" (ExtendedStats.toJsonAll o.stats))

def decode (j : Json) : Except DecodeError AggregateOutput := do
  let r ← Decode.record "AggregateOutput" ["groups", "stats"] j
  let groups := r.slot "groups" (Decode.named BucketLevel.decode)
  let stats := r.slot "stats" (Decode.named ExtendedStats.decode)
  r.check [groups.fault, stats.fault]
  return ⟨groups.getD [], stats.getD []⟩

end AggregateOutput

namespace Bounds

def toJson (b : Bounds) : Json := .object [("min", b.min), ("max", b.max)]

def decode (j : Json) : Except DecodeError Bounds := do
  let r ← Decode.record "MinMaxResponse" ["min", "max"] j
  let min := r.slot "min" Decode.any
  let max := r.slot "max" Decode.any
  r.check [min.fault, max.fault]
  return ⟨← r.required "min" min, ← r.required "max" max⟩

end Bounds

end DocSearch
