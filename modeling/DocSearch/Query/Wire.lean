import DocSearch.Json.Decode
import DocSearch.Query.Basic

/-!
Queries and requests as data values. Members that say nothing are left out when they are written,
and may be left out where they are read.
-/

namespace DocSearch

/-- A member for a list that is left out if the list is empty. -/
def Json.listMember? (name : String) (items : List Json) : List (String × Json) :=
  if items.isEmpty then [] else [(name, .array items)]

def Json.ofWord (n : UInt64) : Json := .int n.toNat

/-! ### Ranges -/

namespace RangeBounds

def toJson (r : RangeBounds) : Json :=
  .object (Json.member? "gte" r.gte ++ Json.member? "gt" r.gt ++ Json.member? "lte" r.lte ++
    Json.member? "lt" r.lt)

def decode (j : Json) : Except DecodeError RangeBounds := do
  let r ← Decode.record "RangeParams" ["gte", "gt", "lte", "lt"] j
  let gte := r.slot "gte" (Decode.option Decode.any)
  let gt := r.slot "gt" (Decode.option Decode.any)
  let lte := r.slot "lte" (Decode.option Decode.any)
  let lt := r.slot "lt" (Decode.option Decode.any)
  r.check [gte.fault, gt.fault, lte.fault, lt.fault]
  return ⟨gte.getD none, gt.getD none, lte.getD none, lt.getD none⟩

end RangeBounds

/-! ### Queries -/

/-- The text to look for, as an object. -/
def lookedFor (j : Json) : Json := .object [("query", j)]

def decodeLookedFor (j : Json) : Except DecodeError Json := do
  let r ← Decode.record "MatchQuery" ["query"] j
  let query := r.slot "query" Decode.any
  r.check [query.fault]
  r.required "query" query

def decodeBoost (j : Json) : Except DecodeError (Option Floating.Single) := do
  let r ← Decode.record "MatchAllQuery" ["boost"] j
  let boost := r.slot "boost" (Decode.option Decode.single)
  r.check [boost.fault]
  return boost.getD none

namespace BoolQuery

variable {α : Type}

/-- The members of a combination whose queries are already data values. -/
def members (q : BoolQuery Json) : List (String × Json) :=
  Json.listMember? "must" q.must ++ Json.listMember? "should" q.should ++
    Json.listMember? "must_not" q.mustNot ++ Json.listMember? "filter" q.filter ++
    Json.member? "minimum_should_match" (q.minimumShouldMatch.map fun n => .int n.toNat)

def decode (query : Json → Except DecodeError α) (j : Json) :
    Except DecodeError (BoolQuery α) := do
  let r ← Decode.record "BoolQuery"
    ["must", "should", "must_not", "filter", "minimum_should_match"] j
  let must := r.slot "must" (Decode.list query)
  let should := r.slot "should" (Decode.list query)
  let mustNot := r.slot "must_not" (Decode.list query)
  let filter := r.slot "filter" (Decode.list query)
  let minimum := r.slot "minimum_should_match" (Decode.option Decode.word32)
  r.check [must.fault, should.fault, mustNot.fault, filter.fault, minimum.fault]
  return ⟨must.getD [], should.getD [], mustNot.getD [], filter.getD [], minimum.getD none⟩

end BoolQuery

namespace Query

mutual

/-- A query as a data value: an object with one member, which names the kind. -/
def toJson (q : Query) : Json :=
  match q with
  | .matchAll boost =>
    .object [("match_all", .object (Json.member? "boost" (boost.map fun x => .ofFloat x.value)))]
  | .fullText fields => .object [("match", .object (fields.map fun f => (f.1, lookedFor f.2)))]
  | .phrase fields =>
    .object [("match_phrase", .object (fields.map fun f => (f.1, lookedFor f.2)))]
  | .term fields => .object [("term", .object fields)]
  | .terms fields => .object [("terms", .object (fields.map fun f => (f.1, .array f.2)))]
  | .range fields => .object [("range", .object (fields.map fun f => (f.1, f.2.toJson)))]
  | .bool ⟨must, should, mustNot, filter, minimum⟩ =>
    .object [("bool", .object (BoolQuery.members
      ⟨toJsonAll must, toJsonAll should, toJsonAll mustNot, toJsonAll filter, minimum⟩))]
  | .nested path query =>
    .object [("nested", .object [("path", .string path), ("query", toJson query)])]
termination_by structural q

def toJsonAll (qs : List Query) : List Json :=
  match qs with
  | [] => []
  | q :: qs => toJson q :: toJsonAll qs
termination_by structural qs

end

def kinds : List String :=
  ["match_all", "match", "match_phrase", "term", "terms", "range", "bool", "nested"]

def decodeNested (query : Json → Except DecodeError Query) (j : Json) :
    Except DecodeError Query := do
  let r ← Decode.record "NestedQuery" ["path", "query"] j
  let path := r.slot "path" Decode.string
  let inner := r.slot "query" query
  r.check [path.fault, inner.fault]
  return .nested (← r.required "path" path) (← r.required "query" inner)

/-- Reads a query in which queries stand inside each other at most `levels` deep. -/
def decodeAt : (levels : Nat) → Json → Except DecodeError Query
  | 0, j => .error (.wrongType j.found "string or map")
  | levels + 1, j => do
    let (kind, inside) ← Decode.choice j
    if kind = "match_all" then
      return .matchAll (← decodeBoost (← Decode.content inside))
    else if kind = "match" then
      return .fullText (← Decode.named decodeLookedFor (← Decode.content inside))
    else if kind = "match_phrase" then
      return .phrase (← Decode.named decodeLookedFor (← Decode.content inside))
    else if kind = "term" then
      return .term (← Decode.named Decode.any (← Decode.content inside))
    else if kind = "terms" then
      return .terms (← Decode.named (Decode.list Decode.any) (← Decode.content inside))
    else if kind = "range" then
      return .range (← Decode.named RangeBounds.decode (← Decode.content inside))
    else if kind = "bool" then
      return .bool (← BoolQuery.decode (decodeAt levels) (← Decode.content inside))
    else if kind = "nested" then
      decodeNested (decodeAt levels) (← Decode.content inside)
    else .error (.unknownName kind kinds)

/-- Reads a query. No query stands deeper than the arrays and objects around it. -/
def decode (j : Json) : Except DecodeError Query := decodeAt (j.depth + 1) j

end Query

/-! ### Sorting -/

namespace Direction

def name : Direction → String
  | .asc => "asc"
  | .desc => "desc"

def decode (j : Json) : Except DecodeError Direction := do
  let (name, inside) ← Decode.choice j
  if name = "asc" then
    Decode.noContent inside
    return .asc
  else if name = "desc" then
    Decode.noContent inside
    return .desc
  else .error (.unknownName name ["asc", "desc"])

end Direction

namespace SortOptions

def toJson (o : SortOptions) : Json :=
  .object (("order", .string o.order.name) ::
    Json.member? "nested" (o.nestedPath.map fun path => .object [("path", .string path)]))

def decodePath (j : Json) : Except DecodeError String := do
  let r ← Decode.record "NestedSort" ["path"] j
  let path := r.slot "path" Decode.string
  r.check [path.fault]
  r.required "path" path

def decode (j : Json) : Except DecodeError SortOptions := do
  let r ← Decode.record "SortOptions" ["order", "nested"] j
  let order := r.slot "order" Direction.decode
  let nested := r.slot "nested" (Decode.option decodePath)
  r.check [order.fault, nested.fault]
  return ⟨← r.required "order" order, nested.getD none⟩

end SortOptions

namespace SortClause

def ofKey (field : String) (ascending : Bool) (path : Option String) : SortClause :=
  [(field, ⟨if ascending then .asc else .desc, path⟩)]

def field? (c : SortClause) : Option String := c.head?.map Prod.fst

def options? (c : SortClause) : Option SortOptions := c.head?.map Prod.snd

def toJson (c : SortClause) : Json := .object (c.map fun f => (f.1, f.2.toJson))

def decode (j : Json) : Except DecodeError SortClause := Decode.named SortOptions.decode j

end SortClause

/-! ### Aggregations -/

/-- The field of a metric, as an object. -/
def metric (field : String) : Json := .object [("field", .string field)]

def decodeMetric (j : Json) : Except DecodeError String := do
  let r ← Decode.record "FieldAgg" ["field"] j
  let field := r.slot "field" Decode.string
  r.check [field.fault]
  r.required "field" field

namespace TermsAggregation

def toJson (t : TermsAggregation) : Json :=
  .object (("field", .string t.field) :: Json.member? "size" (t.size.map Json.ofWord))

def decode (j : Json) : Except DecodeError TermsAggregation := do
  let r ← Decode.record "TermsAgg" ["field", "size"] j
  let field := r.slot "field" Decode.string
  let size := r.slot "size" (Decode.option Decode.size64)
  r.check [field.fault, size.fault]
  return ⟨← r.required "field" field, size.getD none⟩

end TermsAggregation

/-- A member for an object that is left out if the object is empty. -/
def Json.objectMember? (name : String) (ms : List (String × Json)) : List (String × Json) :=
  if ms.isEmpty then [] else [(name, .object ms)]

namespace Aggregation

def ofTerms (field : String) (aggs : Named Aggregation) : Aggregation :=
  { terms := some ⟨field, none⟩, aggs := aggs }

def ofStats (field : String) : Aggregation := { extendedStats := some field }

/-- The least value of a field. -/
def ofMin (field : String) : Aggregation := { min := some field }

/-- The greatest value of a field. -/
def ofMax (field : String) : Aggregation := { max := some field }

mutual

def toJson (a : Aggregation) : Json :=
  match a with
  | ⟨terms, extendedStats, min, max, aggs⟩ =>
    .object (Json.member? "terms" (terms.map TermsAggregation.toJson) ++
      Json.member? "extended_stats" (extendedStats.map metric) ++
      Json.member? "min" (min.map metric) ++ Json.member? "max" (max.map metric) ++
      Json.objectMember? "aggs" (toJsonAll aggs))
termination_by structural a

def toJsonAll (as : List (String × Aggregation)) : List (String × Json) :=
  match as with
  | [] => []
  | (name, a) :: as => (name, toJson a) :: toJsonAll as
termination_by structural as

end

/-- Reads an aggregation in which aggregations stand inside each other at most `levels` deep. -/
def decodeAt : (levels : Nat) → Json → Except DecodeError Aggregation
  | 0, j => .error (.wrongType j.found "struct EsAggregation")
  | levels + 1, j => do
    let r ← Decode.record "EsAggregation" ["terms", "extended_stats", "min", "max", "aggs"] j
    let terms := r.slot "terms" (Decode.option TermsAggregation.decode)
    let stats := r.slot "extended_stats" (Decode.option decodeMetric)
    let min := r.slot "min" (Decode.option decodeMetric)
    let max := r.slot "max" (Decode.option decodeMetric)
    let aggs := r.slotAs "aggs" ["aggregations"] (Decode.named (decodeAt levels))
    r.check [terms.fault, stats.fault, min.fault, max.fault, aggs.fault]
    return ⟨terms.getD none, stats.getD none, min.getD none, max.getD none, aggs.getD []⟩

def decode (j : Json) : Except DecodeError Aggregation := decodeAt (j.depth + 1) j

end Aggregation

/-! ### Requests -/

namespace SearchRequest

def toJson (r : SearchRequest) : Json :=
  .object (("query", r.query.toJson) ::
    (Json.member? "from" (r.offset.map fun n => .int n.toInt) ++
      Json.member? "size" (r.size.map fun n => .int n.toInt) ++
      Json.listMember? "sort" (r.sort.map SortClause.toJson) ++
      Json.objectMember? "aggs" (Aggregation.toJsonAll r.aggs) ++
      Json.member? "search_after" (r.searchAfter.map Json.array)))

def decode (j : Json) : Except DecodeError SearchRequest := do
  let r ← Decode.record "SearchRequest"
    ["query", "from", "size", "sort", "aggs", "search_after"] j
  let query := r.slot "query" Query.decode
  let offset := r.slot "from" (Decode.option Decode.int64)
  let size := r.slot "size" (Decode.option Decode.int64)
  let sort := r.slot "sort" (Decode.list SortClause.decode)
  let aggs := r.slotAs "aggs" ["aggregations"] (Decode.named Aggregation.decode)
  let after := r.slot "search_after" (Decode.option (Decode.list Decode.any))
  r.check [query.fault, offset.fault, size.fault, sort.fault, aggs.fault, after.fault]
  return ⟨← r.required "query" query, offset.getD none, size.getD none, sort.getD [],
    aggs.getD [], after.getD none⟩

end SearchRequest

namespace Script

def toJson (s : Script) : Json :=
  .object [("source", .string s.source), ("lang", .string s.lang), ("params", .object s.params)]

def decode (j : Json) : Except DecodeError Script := do
  let r ← Decode.record "Script" ["source", "lang", "params"] j
  let source := r.slot "source" Decode.string
  let lang := r.slot "lang" Decode.string
  let params := r.slot "params" (Decode.named Decode.any)
  r.check [source.fault, lang.fault, params.fault]
  return ⟨← r.required "source" source, ← r.required "lang" lang, params.getD []⟩

end Script

namespace WriteByQueryRequest

def toJson (r : WriteByQueryRequest) : Json :=
  .object (("query", r.query.toJson) :: Json.member? "script" (r.script.map Script.toJson))

def decode (j : Json) : Except DecodeError WriteByQueryRequest := do
  let r ← Decode.record "WriteByQueryRequest" ["query", "script"] j
  let query := r.slot "query" Query.decode
  let script := r.slot "script" (Decode.option Script.decode)
  r.check [query.fault, script.fault]
  return ⟨← r.required "query" query, script.getD none⟩

end WriteByQueryRequest

end DocSearch
