import DocSearch.Failure
import DocSearch.Query.Wire
import DocSearch.Response.Wire

/-!
The calls that a search engine answers.
-/

namespace DocSearch

/-- A call of the engine. -/
inductive Request where
  | search (request : SearchRequest)
  | count (query : Query)
  | get (id : String)
  | bulk (actions : List BulkAction) (refresh : Bool)
  | updateByQuery (request : WriteByQueryRequest) (refresh : Bool)
  | deleteByQuery (request : WriteByQueryRequest) (refresh : Bool)

def Request.Reply : Request → Type
  | .search _ => SearchResponse
  | .count _ => UInt64
  | .get _ => GetResponse
  | .bulk _ _ => WriteResponse
  | .updateByQuery _ _ => WriteByQueryResponse
  | .deleteByQuery _ _ => WriteByQueryResponse

def Request.decodeReply : (r : Request) → Json → Except DecodeError r.Reply
  | .search _ => SearchResponse.decode
  | .count _ => Decode.word64
  | .get _ => GetResponse.decode
  | .bulk _ _ => WriteResponse.decode
  | .updateByQuery _ _ => WriteByQueryResponse.decode
  | .deleteByQuery _ _ => WriteByQueryResponse.decode

/-- An engine with a state: it answers a call for an index, and the call may change the state. -/
abbrev Engine (σ : Type) :=
  σ → (index : String) → (r : Request) → σ × Except EngineError r.Reply

end DocSearch
