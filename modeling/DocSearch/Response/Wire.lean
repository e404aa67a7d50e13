import DocSearch.Json.Outline
import DocSearch.Query.Wire
import DocSearch.Response.Basic

/-!
The answers of the search engine as data values, and what is asked for of such a value.
-/

namespace DocSearch

/-- A member that is always written, as nothing if it has no value. -/
def Json.orNull : Option Json → Json
  | some j => j
  | none => .null

namespace TotalHits

def toJson (t : TotalHits) : Json :=
  .object [("value", .ofWord t.value), ("relation", .string t.relation)]

def asked : Json.Asked := .fields ["value", "relation"]

def decode (j : Json) : Except DecodeError TotalHits := do
  let r ← Decode.record "TotalHits" ["value", "relation"] j
  let value := r.slot "value" Decode.word64
  let relation := r.slot "relation" Decode.string
  r.check [value.fault, relation.fault]
  return ⟨← r.required "value" value, ← r.required "relation" relation⟩

end TotalHits

namespace Hit

def toJson (h : Hit) : Json :=
  .object ([("_index", .string h.index), ("_id", .string h.id),
    ("_score", .orNull (h.score.map fun x => .ofFloat x.value)), ("_source", h.source)] ++
    Json.listMember? "sort" h.sort)

def asked : Json.Asked := .fields ["_index", "_id", "_score", "_source", "sort"]

def decode (j : Json) : Except DecodeError Hit := do
  let r ← Decode.record "Hit" ["_index", "_id", "_score", "_source", "sort"] j
  let index := r.slot "_index" Decode.string
  let id := r.slot "_id" Decode.string
  let score := r.slot "_score" (Decode.option Decode.single)
  let source := r.slot "_source" Decode.any
  let sort := r.slot "sort" (Decode.list Decode.any)
  r.check [index.fault, id.fault, score.fault, source.fault, sort.fault]
  return ⟨index.getD "", ← r.required "_id" id, score.getD none, source.getD .null, sort.getD []⟩

end Hit

namespace Hits

def toJson (h : Hits) : Json :=
  .object (Json.member? "total" (h.total.map TotalHits.toJson) ++
    Json.member? "max_score" (h.maxScore.map fun x => .ofFloat x.value) ++
    [("hits", .array (h.hits.map Hit.toJson))])

def asked : Json.Asked :=
  .record [("total", TotalHits.asked), ("max_score", .all), ("hits", .each Hit.asked)]

def decode (j : Json) : Except DecodeError Hits := do
  let r ← Decode.record "HitsResponse" ["total", "max_score", "hits"] j
  let total := r.slot "total" (Decode.option TotalHits.decode)
  let maxScore := r.slot "max_score" (Decode.option Decode.single)
  let hits := r.slot "hits" (Decode.list Hit.decode)
  r.check [total.fault, maxScore.fault, hits.fault]
  return ⟨total.getD none, maxScore.getD none, hits.getD []⟩

end Hits

namespace SearchResponse

def toJson (s : SearchResponse) : Json :=
  .object ([("took", .ofWord s.took), ("timed_out", .bool s.timedOut), ("hits", s.hits.toJson)] ++
    Json.member? "aggregations" (s.aggregations.map Json.object))

def asked : Json.Asked :=
  .record [("took", .all), ("timed_out", .all), ("hits", Hits.asked), ("aggregations", .all)]

def decode (j : Json) : Except DecodeError SearchResponse := do
  let r ← Decode.record "SearchResponse" ["took", "timed_out", "hits", "aggregations"] j
  let took := r.slot "took" Decode.word64
  let timedOut := r.slot "timed_out" Decode.bool
  let hits := r.slot "hits" Hits.decode
  let aggregations := r.slot "aggregations" (Decode.option (Decode.named Decode.any))
  r.check [took.fault, timedOut.fault, hits.fault, aggregations.fault]
  return ⟨took.getD 0, timedOut.getD false, hits.getD {}, aggregations.getD none⟩

end SearchResponse

def countToJson (n : UInt64) : Json := .object [("count", .ofWord n)]

def countAsked : Json.Asked := .fields ["count"]

def decodeCount (j : Json) : Except DecodeError UInt64 := do
  let r ← Decode.record "CountResponse" ["count"] j
  let count := r.slot "count" Decode.word64
  r.check [count.fault]
  r.required "count" count

namespace GetResponse

def toJson (g : GetResponse) : Json :=
  .object ([("_index", .string g.index), ("_id", .string g.id), ("found", .bool g.found)] ++
    Json.member? "_source" g.source)

def asked : Json.Asked := .fields ["_index", "_id", "found", "_source"]

def decode (j : Json) : Except DecodeError GetResponse := do
  let r ← Decode.record "GetResponse" ["_index", "_id", "found", "_source"] j
  let index := r.slot "_index" Decode.string
  let id := r.slot "_id" Decode.string
  let found := r.slot "found" Decode.bool
  let source := r.slot "_source" (Decode.option Decode.any)
  r.check [index.fault, id.fault, found.fault, source.fault]
  return ⟨index.getD "", ← r.required "_id" id, found.getD false, source.getD none⟩

end GetResponse

namespace BulkResult

def toJson (o : BulkResult) : Json :=
  .object ([("_index", .string o.index), ("_id", .orNull (o.id.map Json.string)),
    ("status", .int o.status.toNat)] ++ Json.member? "result" (o.result.map Json.string) ++
    Json.member? "error" o.error)

def asked : Json.Asked := .fields ["_index", "_id", "status", "result", "error"]

def decode (j : Json) : Except DecodeError BulkResult := do
  let r ← Decode.record "BulkItemResult" ["_index", "_id", "status", "result", "error"] j
  let index := r.slot "_index" Decode.string
  let id := r.slot "_id" (Decode.option Decode.string)
  let status := r.slot "status" Decode.word16
  let result := r.slot "result" (Decode.option Decode.string)
  let error := r.slot "error" (Decode.option Decode.any)
  r.check [index.fault, id.fault, status.fault, result.fault, error.fault]
  return ⟨index.getD "", id.getD none, ← r.required "status" status, result.getD none,
    error.getD none⟩

end BulkResult

namespace BulkItem

def toJson (item : BulkItem) : Json := .object (item.map fun o => (o.1, o.2.toJson))

def asked : Json.Asked := .each BulkResult.asked

def decode (j : Json) : Except DecodeError BulkItem := Decode.named BulkResult.decode j

end BulkItem

namespace WriteResponse

def toJson (w : WriteResponse) : Json :=
  .object [("took", .ofWord w.took), ("errors", .bool w.errors),
    ("items", .array (w.items.map BulkItem.toJson))]

def asked : Json.Asked :=
  .record [("took", .all), ("errors", .all), ("items", .each BulkItem.asked)]

def decode (j : Json) : Except DecodeError WriteResponse := do
  let r ← Decode.record "WriteResponse" ["took", "errors", "items"] j
  let took := r.slot "took" Decode.word64
  let errors := r.slot "errors" Decode.bool
  let items := r.slot "items" (Decode.list BulkItem.decode)
  r.check [took.fault, errors.fault, items.fault]
  return ⟨took.getD 0, errors.getD false, items.getD []⟩

end WriteResponse

namespace WriteByQueryResponse

def toJson (w : WriteByQueryResponse) : Json :=
  .object [("took", .ofWord w.took), ("timed_out", .bool w.timedOut), ("total", .ofWord w.total),
    ("updated", .ofWord w.updated), ("deleted", .ofWord w.deleted), ("batches", .ofWord w.batches),
    ("version_conflicts", .ofWord w.versionConflicts), ("noops", .ofWord w.noops),
    ("failures", .array w.failures)]

def asked : Json.Asked := .fields ["took", "timed_out", "total", "updated", "deleted", "batches",
  "version_conflicts", "noops", "failures"]

def decode (j : Json) : Except DecodeError WriteByQueryResponse := do
  let r ← Decode.record "WriteByQueryResponse" ["took", "timed_out", "total", "updated", "deleted",
    "batches", "version_conflicts", "noops", "failures"] j
  let took := r.slot "took" Decode.word64
  let timedOut := r.slot "timed_out" Decode.bool
  let total := r.slot "total" Decode.word64
  let updated := r.slot "updated" Decode.word64
  let deleted := r.slot "deleted" Decode.word64
  let batches := r.slot "batches" Decode.word64
  let conflicts := r.slot "version_conflicts" Decode.word64
  let noops := r.slot "noops" Decode.word64
  let failures := r.slot "failures" (Decode.list Decode.any)
  r.check [took.fault, timedOut.fault, total.fault, updated.fault, deleted.fault, batches.fault,
    conflicts.fault, noops.fault, failures.fault]
  return ⟨took.getD 0, timedOut.getD false, total.getD 0, updated.getD 0, deleted.getD 0,
    batches.getD 0, conflicts.getD 0, noops.getD 0, failures.getD []⟩

end WriteByQueryResponse

end DocSearch
