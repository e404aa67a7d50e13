import DocSearch.Aggregation.Flatten
import DocSearch.Chunks
import DocSearch.Config
import DocSearch.Engine
import DocSearch.Script

/-!
The operations on an index. Each is a plan: it is checked, makes one call, and turns the answer
into a result. What an operation depends on besides its arguments is the course of its run: the
order in which parallel work is done, how often the call waits, and when the token that cancels it
fires.
-/

namespace DocSearch

/-- The course of a run. The token is looked at once before the call, then after each of the waits
during the call, and then at each wait for the work on the answer. -/
structure Course where
  families : List FamilyKind := FamilyKind.all
  chunks : Nat → List Nat := List.range
  waits : Nat := 0
  fired : Nat → Bool := fun _ => false

/-- Whether the token has fired at one of the looks during the call. -/
def Course.interrupted (course : Course) : Bool :=
  (List.range course.waits).any fun wait => course.fired (wait + 1)

/-- A call with what is made of its answer. -/
structure Exchange (α : Type) where
  request : Request
  finish : Course → request.Reply → Except Error α

/-- An operation: its name, and the call that it comes to unless it is rejected. -/
structure Plan (α : Type) where
  operation : Operation
  prepare : Course → Except Error (Exchange α)

/-- Runs a plan. A call that is interrupted has reached the engine, but its answer is not waited
for. -/
def Plan.run {σ α : Type} (plan : Plan α) (engine : Engine σ) (index : String) (course : Course)
    (state : σ) : σ × Except Error α :=
  match plan.prepare course with
  | .error e => (state, .error e)
  | .ok exchange =>
    if course.fired 0 then (state, .error .cancelled)
    else
      let (state, answer) := engine state index exchange.request
      if course.interrupted then (state, .error .cancelled)
      else
        match answer with
        | .error e => (state, .error (.engine plan.operation e))
        | .ok reply => (state, exchange.finish course reply)

/-- The documents of hits, decoded one after the other. -/
def decodeSources {α : Type} (item : Json → Except DecodeError α) :
    List Hit → Except ExtractionError (List α)
  | [] => .ok []
  | h :: hs =>
    match item h.source with
    | .error e => .error (.undecodableDocument h.id e)
    | .ok a => (decodeSources item hs).map (a :: ·)

def Error.ofChunks : ChunkFailure ExtractionError → Error
  | .cancelled => .cancelled
  | .missing chunk => .noOutput chunk
  | .failed e => .extraction e

/-- The documents of hits, decoded in chunks. The first look of the coordinator has the number
`look`. -/
def extractSources {α : Type} (course : Course) (look batch : Nat)
    (item : Json → Except DecodeError α) (hits : List Hit) : Except Error (List α) :=
  let done := course.chunks (chunkRanges hits.length batch).length
  (process (fun n => course.fired (look + n)) done batch (decodeSources item) hits).mapError
    Error.ofChunks

/-- A page of a search that goes on, with the place from which it does. -/
structure CursorPage (α : Type) where
  items : List α
  next : Option (List Json)

/-- Whether no further page can hold documents: there is no next place, the page is not full, or
its next place is the one that it began from. -/
def CursorPage.exhausted {α : Type} (page : CursorPage α) (requested : UInt64)
    (previous : Option (List Json)) : Bool :=
  match page.next with
  | none => true
  | some next =>
    decide (page.items.length < requested.toNat) ||
      previous.any fun place => Json.sameItems place next

/-- An index: its name, its settings, and whether writes wait until they can be searched. -/
structure Index where
  name : String
  config : ExecutionConfig := {}
  refresh : Bool := true
  deriving Repr, DecidableEq

/-- Makes a call if the query passes, and takes the answer for the result. -/
def onCompiled {α : Type} (b : Builder) (course : Course)
    (exchange : Query → Exchange α) : Except Error (Exchange α) :=
  match b.compile course.families with
  | .error e => .error (.validation e)
  | .ok root => .ok (exchange (.bool root))

/-- The id under which a document is updated: its own, as text. -/
def ownId (doc : Json) : String :=
  match doc.get? "id" with
  | none => ""
  | some (.string s) => s
  | some other => other.compact

namespace Index

/-- The number of chunks that the work on an answer is divided into. -/
def batch (ix : Index) : Nat := ix.config.concurrentBatch.toNat

def find {α : Type} (item : Json → Except DecodeError α) (id : String) : Plan α where
  operation := .find
  prepare _ := .ok {
    request := .get id
    finish := fun _ (reply : GetResponse) =>
      match reply.found, reply.source with
      | true, some source => (item source).mapError .json
      | _, _ => .error (.notFound id) }

/-- Sends writes together; there must be an outcome for each. -/
def sendBulk (ix : Index) (operation : Operation) (actions : List BulkAction) :
    Plan WriteResponse where
  operation := operation
  prepare _ := .ok {
    request := .bulk actions ix.refresh
    finish := fun _ (reply : WriteResponse) =>
      if reply.items.length = actions.length then .ok reply
      else .error (.countMismatch actions.length reply.items.length) }

def insert (ix : Index) (fresh : Nat → String) (docs : List Json) : Plan WriteResponse :=
  ix.sendBulk .insert (docs.zipIdx.map fun d => .create (fresh d.2) d.1)

def update (ix : Index) (docs : List Json) : Plan WriteResponse :=
  ix.sendBulk .update (docs.map fun d => .update (ownId d) d)

def delete (ix : Index) (ids : List String) : Plan WriteResponse :=
  ix.sendBulk .delete (ids.map .delete)

def get {α : Type} (ix : Index) (item : Json → Except DecodeError α) (b : Builder) :
    Plan (List α) where
  operation := .get
  prepare course :=
    match b.searchRequest course.families with
    | .error e => .error (.validation e)
    | .ok request => .ok {
        request := .search request
        finish := fun course (reply : SearchResponse) =>
          extractSources course (course.waits + 1) ix.batch item reply.hits.hits }

def count (b : Builder) : Plan UInt64 where
  operation := .count
  prepare course :=
    onCompiled b course fun query =>
      { request := .count query, finish := fun _ (reply : UInt64) => .ok reply }

def fromAggregations {α : Type} (read : Named Json → Except ExtractionError α)
    (reply : SearchResponse) : Except Error α :=
  match reply.aggregations with
  | none => .error (.extraction .noAggregations)
  | some raw => (read raw).mapError .extraction

def aggregate (b : Builder) : Plan AggregateOutput where
  operation := .aggregate
  prepare course :=
    if !b.hasAggregations then .error (.validation .missingAggregation)
    else
      match b.searchRequest course.families with
      | .error e => .error (.validation e)
      | .ok request => .ok {
          request := .search request
          finish := fun _ (reply : SearchResponse) =>
            fromAggregations (Flatten.output (b.groupBy.getD []) b.stats) reply }

def checkPage (ix : Index) (b : Builder) (size : UInt64) : Except ValidationError Unit :=
  if size = 0 ∨ ix.config.cursorLimit < size then
    .error (.pageSizeOutOfRange size ix.config.cursorLimit)
  else if b.sorts.isEmpty then .error .missingSort
  else .ok ()

/-- The request for the page after a place. The offset of a query has no part in it. -/
def pageRequest (b : Builder) (done : List FamilyKind) (size : UInt64)
    (after : Option (List Json)) : Except ValidationError SearchRequest :=
  (b.searchRequest done).map fun r =>
    { r with offset := none, size := some size.toInt64, searchAfter := after }

/-- The place of the last of some hits in the sort order. -/
def lastPlace (hits : List Hit) : Option (List Json) :=
  match hits.getLast? with
  | some h => if h.sort.isEmpty then none else some h.sort
  | none => none

/-- A page of the documents that a query finds, after a place. -/
def cursor {α : Type} (ix : Index) (item : Json → Except DecodeError α) (b : Builder)
    (size : UInt64) (after : Option (List Json)) : Plan (CursorPage α) where
  operation := .cursor
  prepare course :=
    match ix.checkPage b size with
    | .error e => .error (.validation e)
    | .ok () =>
      match pageRequest b course.families size after with
      | .error e => .error (.validation e)
      | .ok request => .ok {
          request := .search request
          finish := fun course (reply : SearchResponse) =>
            (extractSources course (course.waits + 1) ix.batch item reply.hits.hits).map fun items =>
              ⟨items, lastPlace reply.hits.hits⟩ }

def execute (ix : Index) (b : Builder) (params : Named Json) : Plan WriteByQueryResponse where
  operation := .execute
  prepare course :=
    match Script.ofParams params with
    | .error e => .error (.validation e)
    | .ok script =>
      onCompiled b course fun query =>
        { request := .updateByQuery ⟨query, some script⟩ ix.refresh
          finish := fun _ (reply : WriteByQueryResponse) => .ok reply }

def destroy (ix : Index) (b : Builder) : Plan WriteByQueryResponse where
  operation := .destroy
  prepare course :=
    onCompiled b course fun query =>
      { request := .deleteByQuery ⟨query, none⟩ ix.refresh
        finish := fun _ (reply : WriteByQueryResponse) => .ok reply }

/-- The request for the least and the greatest value of a field. -/
def boundsRequest (field : String) (query : Query) : SearchRequest :=
  { query := query
    size := some 0
    aggs := [("max", Aggregation.ofMax field), ("min", Aggregation.ofMin field)] }

/-- The least and the greatest value of a field in the documents that a query selects. -/
def minMax (b : Builder) (field : String) (isDate : Bool) : Plan Bounds where
  operation := .minMax
  prepare course :=
    onCompiled b course fun query =>
      { request := .search (boundsRequest field query)
        finish := fun _ (reply : SearchResponse) =>
          fromAggregations (Flatten.bounds isDate) reply }

/-- The pages of a search one after the other, at most `pages` of them, each from the place where
the one before ended, until one is exhausted. -/
def scan {σ α : Type} (page : σ → Option (List Json) → σ × Except Error (CursorPage α))
    (size : UInt64) : (pages : Nat) → σ → Option (List Json) →
      σ × Except Error (List (CursorPage α × Bool))
  | 0, state, _ => (state, .ok [])
  | pages + 1, state, after =>
    match page state after with
    | (state, .error e) => (state, .error e)
    | (state, .ok p) =>
      if p.exhausted size after then (state, .ok [(p, true)])
      else
        match scan page size pages state p.next with
        | (state, .error e) => (state, .error e)
        | (state, .ok rest) => (state, .ok ((p, false) :: rest))

def describe (ix : Index) : String :=
  "SearchIndex \x7b name: " ++ Text.shown ix.name ++ ", config: ExecutionConfig \x7b " ++
    "concurrent_batch: " ++ toString ix.config.concurrentBatch.toNat ++ ", cursor_limit: " ++
    toString ix.config.cursorLimit.toNat ++ " \x7d, refresh: " ++
    (if ix.refresh then "true" else "false") ++ " \x7d"

end Index

end DocSearch
