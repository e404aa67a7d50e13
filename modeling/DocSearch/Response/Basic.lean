import DocSearch.Floating.Format
import DocSearch.Json.Basic

/-!
The answers of the search engine.
-/

namespace DocSearch

/-- How many documents a search found, exactly or at least. -/
structure TotalHits where
  value : UInt64
  relation : String

/-- A document that a search found, with its place in the sort order if there is one. -/
structure Hit where
  index : String := ""
  id : String
  score : Option Floating.Single := none
  source : Json := .null
  sort : List Json := []

/-- The documents that a search found. -/
structure Hits where
  total : Option TotalHits := none
  maxScore : Option Floating.Single := none
  hits : List Hit := []

/-- The answer to a search. -/
structure SearchResponse where
  took : UInt64 := 0
  timedOut : Bool := false
  hits : Hits := {}
  aggregations : Option (Named Json) := none

/-- The answer to a request for one document. -/
structure GetResponse where
  index : String := ""
  id : String
  found : Bool := false
  source : Option Json := none

/-- The outcome of one write. -/
structure BulkResult where
  index : String := ""
  id : Option String := none
  status : UInt16
  result : Option String := none
  error : Option Json := none

/-- The outcome of one write under the name of its action. -/
abbrev BulkItem := Named BulkResult

/-- The answer to writes sent together. -/
structure WriteResponse where
  took : UInt64 := 0
  errors : Bool := false
  items : List BulkItem := []

def BulkItem.action? (item : BulkItem) : Option String := item.head?.map Prod.fst

def BulkItem.result? (item : BulkItem) : Option BulkResult := item.head?.map Prod.snd

def succeeded (status : UInt16) : Bool := decide (200 ≤ status.toNat ∧ status.toNat < 300)

def WriteResponse.failed (r : WriteResponse) : List BulkResult :=
  (r.items.filterMap BulkItem.result?).filter fun o => !succeeded o.status

/-- The answer to a request to change or to delete the documents that a query selects. -/
structure WriteByQueryResponse where
  took : UInt64 := 0
  timedOut : Bool := false
  total : UInt64 := 0
  updated : UInt64 := 0
  deleted : UInt64 := 0
  batches : UInt64 := 0
  versionConflicts : UInt64 := 0
  noops : UInt64 := 0
  failures : List Json := []

end DocSearch
