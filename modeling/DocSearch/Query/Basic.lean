import DocSearch.Floating.Format
import DocSearch.Json.Basic

/-!
Queries and requests as the search engine takes them.
-/

namespace DocSearch

/-- The bounds of a range; those that are not given do not restrict it. -/
structure RangeBounds where
  gte : Option Json := none
  gt : Option Json := none
  lte : Option Json := none
  lt : Option Json := none
  deriving Repr

/-- A combination of queries: all of one list, some of another, none of a third; the last list has
no part in the score. -/
structure BoolQuery (α : Type) where
  must : List α := []
  should : List α := []
  mustNot : List α := []
  filter : List α := []
  minimumShouldMatch : Option UInt32 := none

/-- A query. -/
inductive Query where
  | matchAll (boost : Option Floating.Single)
  | fullText (fields : Named Json)
  | phrase (fields : Named Json)
  | term (fields : Named Json)
  | terms (fields : Named (List Json))
  | range (fields : Named RangeBounds)
  | bool (q : BoolQuery Query)
  | nested (path : String) (query : Query)

namespace BoolQuery

def isEmpty {α : Type} (q : BoolQuery α) : Bool :=
  q.must.isEmpty && q.should.isEmpty && q.mustNot.isEmpty && q.filter.isEmpty

/-- At least one of some queries. -/
def anyOf {α : Type} (alternatives : List α) : BoolQuery α :=
  { should := alternatives, minimumShouldMatch := some 1 }

end BoolQuery

/-- The direction of a sort. -/
inductive Direction where
  | asc | desc
  deriving Repr, DecidableEq

/-- How a field is sorted, with the path of the nested objects that hold it. -/
structure SortOptions where
  order : Direction
  nestedPath : Option String
  deriving Repr, DecidableEq

/-- A part of the sort order: a field with its options. -/
abbrev SortClause := Named SortOptions

/-- Buckets for the values of a field. -/
structure TermsAggregation where
  field : String
  size : Option UInt64
  deriving Repr, DecidableEq

/-- An aggregation with those inside each of its buckets. -/
structure Aggregation where
  terms : Option TermsAggregation := none
  extendedStats : Option String := none
  min : Option String := none
  max : Option String := none
  aggs : List (String × Aggregation) := []

/-- A request for documents and aggregations. -/
structure SearchRequest where
  query : Query
  offset : Option Int64 := none
  size : Option Int64 := none
  sort : List SortClause := []
  aggs : Named Aggregation := []
  searchAfter : Option (List Json) := none

/-- A script with the values of its parameters. -/
structure Script where
  source : String
  lang : String
  params : Named Json

/-- A request to change or to delete the documents that a query selects. -/
structure WriteByQueryRequest where
  query : Query
  script : Option Script := none

/-- A write that is sent together with others. -/
inductive BulkAction where
  | create (id : String) (doc : Json)
  | update (id : String) (doc : Json)
  | delete (id : String)

namespace BulkAction

def id : BulkAction → String
  | .create id _ => id
  | .update id _ => id
  | .delete id => id

def name : BulkAction → String
  | .create _ _ => "create"
  | .update _ _ => "update"
  | .delete _ => "delete"

end BulkAction

end DocSearch
