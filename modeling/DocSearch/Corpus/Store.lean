import DocSearch.Corpus.Tally
import DocSearch.Engine

/-!
A search engine that holds its documents in memory, in the order in which they were added.
-/

namespace DocSearch

/-- The documents with their ids, the number of calls so far, and whether searches are to fail and
the last outcome of writes is to be left out. -/
structure Corpus where
  docs : List (String × Json) := []
  calls : Nat := 0
  failing : Bool := false
  dropping : Bool := false

namespace Corpus

/-- The corpus with the documents of a list. A document without an id gets its place as id. -/
def ofDocs (docs : List Json) : Corpus :=
  { docs := docs.zipIdx.map fun d =>
      (((d.1.get? "id").map Json.asText).getD (toString d.2), d.1) }

def samples (n : Nat) : List Json :=
  (List.range n).map fun i =>
    let id := toString (i + 1)
    .object [("description", .string ("Description " ++ id)), ("id", .string id),
      ("subject_id", .int (if i < 5 ∨ 9 < i then 1 else 2))]

def doc? (c : Corpus) (id : String) : Option Json := List.lookup id c.docs

/-- The documents that a query selects, with their ids. -/
def selected (c : Corpus) (q : Query) : List (String × Json) :=
  c.docs.filter fun d => q.selects d.2

/-- How many documents a search returns unless a number is given. -/
def defaultSize : Nat := 10

/-- The documents of a search in order, from the place after which it goes on. -/
def ranked (r : SearchRequest) (docs : List (String × Json)) : List (String × Json) :=
  let sorted :=
    if r.sort.isEmpty then docs
    else sortBy (fun a b =>
      comparePlaces r.sort (sortValues r.sort a.2) (sortValues r.sort b.2) == .lt) docs
  match r.searchAfter with
  | none => sorted
  | some place =>
    sorted.filter fun d => comparePlaces r.sort (sortValues r.sort d.2) place == .gt

def hit (order : List SortClause) (d : String × Json) : Hit :=
  { index := "memory", id := d.1, source := d.2, sort := sortValues order d.2 }

def search (c : Corpus) (r : SearchRequest) : SearchResponse :=
  let found := c.selected r.query
  let docs := ranked r found
  let start := (r.offset.map fun n => n.toInt.toNat).getD 0
  let size := (r.size.map fun n => n.toInt.toNat).getD defaultSize
  { took := 1
    hits :=
      { total := some ⟨UInt64.ofNat found.length, "eq"⟩
        hits := ((docs.drop start).take size).map (hit r.sort) }
    aggregations :=
      if r.aggs.isEmpty then none
      else some (Aggregation.tallyAll r.aggs (docs.map Prod.snd)) }

def merge (doc patch : Json) : Json :=
  match doc, patch with
  | .object ms, .object ps => .object (ps.foldl (fun ms p => Named.insert p.1 p.2 ms) ms)
  | doc, _ => doc

/-- Changes the first document with an id. -/
def modifyDoc (id : String) (f : Json → Json) : List (String × Json) → List (String × Json)
  | [] => []
  | d :: ds => if d.1 = id then (d.1, f d.2) :: ds else d :: modifyDoc id f ds

/-- Removes the first document with an id. -/
def removeDoc (id : String) : List (String × Json) → List (String × Json)
  | [] => []
  | d :: ds => if d.1 = id then ds else d :: removeDoc id ds

/-- Makes one write: the documents after it, its status and its outcome in words. -/
def write (docs : List (String × Json)) (action : BulkAction) :
    List (String × Json) × UInt16 × String :=
  match action, docs.any (fun d => d.1 == action.id) with
  | .create _ _, true => (docs, 409, "conflict")
  | .create id doc, false => (docs ++ [(id, doc)], 201, "created")
  | .update id doc, true => (modifyDoc id (merge · doc) docs, 200, "updated")
  | .delete id, true => (removeDoc id docs, 200, "deleted")
  | _, false => (docs, 404, "not_found")

/-- Makes writes in order. -/
def writeAll (index : String) :
    List BulkAction → List (String × Json) → List (String × Json) × List (UInt16 × BulkItem)
  | [], docs => (docs, [])
  | action :: actions, docs =>
    let (docs, status, outcome) := write docs action
    let item : BulkItem :=
      [(action.name,
        { index := index, id := some action.id, status := status, result := some outcome })]
    let (docs, items) := writeAll index actions docs
    (docs, (status, item) :: items)

def bulk (c : Corpus) (index : String) (actions : List BulkAction) : Corpus × WriteResponse :=
  let (docs, items) := writeAll index actions c.docs
  let listed := items.map Prod.snd
  ({ c with docs := docs },
    { took := 1
      errors := items.any fun i => 300 ≤ i.1
      items := if c.dropping then listed.dropLast else listed })

def setParams (c : Corpus) (r : WriteByQueryRequest) : Corpus × WriteByQueryResponse :=
  let params := (r.script.map Script.params).getD []
  let n := UInt64.ofNat (c.selected r.query).length
  ({ c with docs := c.docs.map fun d =>
      if r.query.selects d.2 then (d.1, merge d.2 (.object params)) else d },
    { took := 1, total := n, updated := n, batches := 1 })

def deleteSelected (c : Corpus) (r : WriteByQueryRequest) : Corpus × WriteByQueryResponse :=
  let n := UInt64.ofNat (c.selected r.query).length
  ({ c with docs := c.docs.filter fun d => !r.query.selects d.2 },
    { took := 1, total := n, deleted := n, batches := 1 })

def get (c : Corpus) (index id : String) : GetResponse :=
  let source := c.doc? id
  { index := index, id := id, found := source.isSome, source := source }

def engine : Engine Corpus := fun c index request =>
  let c := { c with calls := c.calls + 1 }
  match request with
  | .search r =>
    if c.failing then (c, .error (.status 503 "search unavailable")) else (c, .ok (c.search r))
  | .count q => (c, .ok (UInt64.ofNat (c.selected q).length))
  | .get id => (c, .ok (c.get index id))
  | .bulk actions _ =>
    let (c, reply) := c.bulk index actions
    (c, .ok reply)
  | .updateByQuery r _ =>
    let (c, reply) := c.setParams r
    (c, .ok reply)
  | .deleteByQuery r _ =>
    let (c, reply) := c.deleteSelected r
    (c, .ok reply)

end Corpus

end DocSearch
