import DocSearch.Aggregation.Output
import DocSearch.Proofs.Records

/-!
# Answers that are read back

As for requests, every part of an answer is read back as what was written, in whichever order its
members are arranged. A member that is always written, as nothing if it has no value, differs in
this from one that is left out only in how it is read: nothing is then what is found.

Levels of buckets stand inside buckets, which stand in lists. `Bucket` does not know what stands
inside it, so it is read back with what is inside as a parameter, and only levels need an induction.
-/

namespace DocSearch

open Json Decode

variable {σ : Json → Json}

/-! ### Searches -/

theorem TotalHits.decode_toJson (hσ : Arranges σ) (t : TotalHits) :
    decode (σ t.toJson) = .ok t := by
  have hjson : t.toJson = .object (present
      [("value", some (.ofWord t.value)), ("relation", some (.string t.relation))]) := rfl
  obtain ⟨table, htable, hshows⟩ :=
    exists_record hσ hjson (by simp) "TotalHits" ["value", "relation"]
  have hvalue := hshows.written "value" (by simp) (hσ.word64 t.value)
  have hrelation := hshows.written "relation" (by simp) (hσ.string t.relation)
  rw [decode, htable]
  simp [hvalue, hrelation, hshows.check, pure, Except.pure]

namespace Hit

structure Writable (h : Hit) : Prop where
  score : ∀ x ∈ h.score, x.Finite
  source : h.source.InOrder
  sort : ∀ j ∈ h.sort, j.InOrder

theorem decode_toJson (hσ : Arranges σ) {hit : Hit} (h : hit.Writable) :
    decode (σ hit.toJson) = .ok hit := by
  have hjson : hit.toJson = .object (present [("_index", some (.string hit.index)),
      ("_id", some (.string hit.id)),
      ("_score", some (.orNull (hit.score.map fun x => .ofFloat x.value))),
      ("_source", some hit.source), ("sort", items? (hit.sort.map fun j => j))]) := by
    simp [toJson]
  obtain ⟨table, htable, hshows⟩ :=
    exists_record hσ hjson (by simp) "Hit" ["_index", "_id", "_score", "_source", "sort"]
  have hindex := hshows.written "_index" (by simp) (hσ.string hit.index)
  have hid := hshows.written "_id" (by simp) (hσ.string hit.id)
  have hscore := hshows.written "_score" (by simp)
    (hσ.orNull hit.score fun x hx => hσ.single (h.score x hx))
  have hsource := hshows.written "_source" (by simp) (hσ.any h.source)
  have hsort := hshows.listed "sort" (by simp) (hσ.list (fun j => j) fun j hj =>
    hσ.any (h.sort j hj))
  rw [decode, htable]
  simp [hindex, hid, hscore, hsource, hsort, hshows.check, pure,
    Except.pure]

end Hit

namespace Hits

structure Writable (h : Hits) : Prop where
  maxScore : ∀ x ∈ h.maxScore, x.Finite
  hits : ∀ hit ∈ h.hits, hit.Writable

theorem decode_toJson (hσ : Arranges σ) {hits : Hits} (h : hits.Writable) :
    decode (σ hits.toJson) = .ok hits := by
  have hjson : hits.toJson = .object (present [("total", hits.total.map TotalHits.toJson),
      ("max_score", hits.maxScore.map fun x => .ofFloat x.value),
      ("hits", some (.array (hits.hits.map Hit.toJson)))]) := by
    simp [toJson]
  obtain ⟨table, htable, hshows⟩ :=
    exists_record hσ hjson (by simp) "HitsResponse" ["total", "max_score", "hits"]
  have htotal := hshows.optional "total" hits.total (by simp) fun t _ =>
    hσ.option Json.noConfusion (t.decode_toJson hσ)
  have hscore := hshows.optional "max_score" hits.maxScore (by simp) fun x hx =>
    hσ.single (h.maxScore x hx)
  have hhits := hshows.written "hits" (by simp) (hσ.list Hit.toJson fun hit hhit =>
    Hit.decode_toJson hσ (h.hits hit hhit))
  rw [decode, htable]
  simp [htotal, hscore, hhits, hshows.check, pure, Except.pure]

end Hits

namespace SearchResponse

structure Writable (s : SearchResponse) : Prop where
  hits : s.hits.Writable
  aggregations : ∀ named ∈ s.aggregations, Named.Each InOrder named

theorem decode_toJson (hσ : Arranges σ) {s : SearchResponse} (h : s.Writable) :
    decode (σ s.toJson) = .ok s := by
  have hjson : s.toJson = .object (present [("took", some (.ofWord s.took)),
      ("timed_out", some (.bool s.timedOut)), ("hits", some s.hits.toJson),
      ("aggregations", s.aggregations.map Json.object)]) := by
    simp [toJson]
  obtain ⟨table, htable, hshows⟩ := exists_record hσ hjson (by simp) "SearchResponse"
    ["took", "timed_out", "hits", "aggregations"]
  have htook := hshows.written "took" (by simp) (hσ.word64 s.took)
  have htimedOut := hshows.written "timed_out" (by simp) (hσ.bool s.timedOut)
  have hhits := hshows.written "hits" (by simp) (Hits.decode_toJson hσ h.hits)
  have haggregations := hshows.optional "aggregations" s.aggregations (by simp) fun named hnamed =>
    hσ.option Json.noConfusion (hσ.namedValues (h.aggregations named hnamed).1
      (h.aggregations named hnamed).2)
  rw [decode, htable]
  simp [htook, htimedOut, hhits, haggregations, hshows.check, pure, Except.pure]

end SearchResponse

/-! ### Documents and writes -/

namespace GetResponse

theorem decode_toJson (hσ : Arranges σ) {g : GetResponse} (h : ∀ j ∈ g.source, j.Given) :
    decode (σ g.toJson) = .ok g := by
  have hjson : g.toJson = .object (present [("_index", some (.string g.index)),
      ("_id", some (.string g.id)), ("found", some (.bool g.found)), ("_source", g.source)]) := by
    simp [toJson]
  obtain ⟨table, htable, hshows⟩ :=
    exists_record hσ hjson (by simp) "GetResponse" ["_index", "_id", "found", "_source"]
  have hindex := hshows.written "_index" (by simp) (hσ.string g.index)
  have hid := hshows.written "_id" (by simp) (hσ.string g.id)
  have hfound := hshows.written "found" (by simp) (hσ.bool g.found)
  have hsource := hshows.optional "_source" g.source (by simp) fun j hj => hσ.given (h j hj)
  rw [decode, htable]
  simp [hindex, hid, hfound, hsource, hshows.check, pure, Except.pure]

end GetResponse

namespace BulkResult

theorem decode_toJson (hσ : Arranges σ) {o : BulkResult} (h : ∀ j ∈ o.error, j.Given) :
    decode (σ o.toJson) = .ok o := by
  have hjson : o.toJson = .object (present [("_index", some (.string o.index)),
      ("_id", some (.orNull (o.id.map Json.string))), ("status", some (.int o.status.toNat)),
      ("result", o.result.map Json.string), ("error", o.error)]) := by
    simp [toJson]
  obtain ⟨table, htable, hshows⟩ := exists_record hσ hjson (by simp) "BulkItemResult"
    ["_index", "_id", "status", "result", "error"]
  have hindex := hshows.written "_index" (by simp) (hσ.string o.index)
  have hid := hshows.written "_id" (by simp)
    (hσ.orNull o.id fun s _ => hσ.option Json.noConfusion (hσ.string s))
  have hstatus := hshows.written "status" (by simp) (hσ.word16 o.status)
  have hresult := hshows.optional "result" o.result (by simp) fun s _ =>
    hσ.option Json.noConfusion (hσ.string s)
  have herror := hshows.optional "error" o.error (by simp) fun j hj => hσ.given (h j hj)
  rw [decode, htable]
  simp [hindex, hid, hstatus, hresult, herror, hshows.check, pure, Except.pure]

end BulkResult

def BulkItem.Writable (item : BulkItem) : Prop := Named.Each (fun o => ∀ j ∈ o.error, j.Given) item

theorem BulkItem.decode_toJson (hσ : Arranges σ) {item : BulkItem} (h : item.Writable) :
    decode (σ item.toJson) = .ok item :=
  hσ.named BulkResult.toJson h.1 fun e he => BulkResult.decode_toJson hσ (h.2 e he)

theorem WriteResponse.decode_toJson (hσ : Arranges σ) {w : WriteResponse}
    (h : ∀ item ∈ w.items, BulkItem.Writable item) : decode (σ w.toJson) = .ok w := by
  have hjson : w.toJson = .object (present [("took", some (.ofWord w.took)),
      ("errors", some (.bool w.errors)),
      ("items", some (.array (w.items.map BulkItem.toJson)))]) := rfl
  obtain ⟨table, htable, hshows⟩ :=
    exists_record hσ hjson (by simp) "WriteResponse" ["took", "errors", "items"]
  have htook := hshows.written "took" (by simp) (hσ.word64 w.took)
  have herrors := hshows.written "errors" (by simp) (hσ.bool w.errors)
  have hitems := hshows.written "items" (by simp) (hσ.list BulkItem.toJson fun item hitem =>
    BulkItem.decode_toJson hσ (h item hitem))
  rw [decode, htable]
  simp [htook, herrors, hitems, hshows.check, pure, Except.pure]

theorem WriteByQueryResponse.decode_toJson (hσ : Arranges σ) {w : WriteByQueryResponse}
    (h : ∀ j ∈ w.failures, j.InOrder) : decode (σ w.toJson) = .ok w := by
  have hjson : w.toJson = .object (present [("took", some (.ofWord w.took)),
      ("timed_out", some (.bool w.timedOut)), ("total", some (.ofWord w.total)),
      ("updated", some (.ofWord w.updated)), ("deleted", some (.ofWord w.deleted)),
      ("batches", some (.ofWord w.batches)),
      ("version_conflicts", some (.ofWord w.versionConflicts)),
      ("noops", some (.ofWord w.noops)), ("failures", some (.array w.failures))]) := rfl
  obtain ⟨table, htable, hshows⟩ := exists_record hσ hjson (by simp) "WriteByQueryResponse"
    ["took", "timed_out", "total", "updated", "deleted", "batches", "version_conflicts", "noops",
      "failures"]
  have htook := hshows.written "took" (by simp) (hσ.word64 w.took)
  have htimedOut := hshows.written "timed_out" (by simp) (hσ.bool w.timedOut)
  have htotal := hshows.written "total" (by simp) (hσ.word64 w.total)
  have hupdated := hshows.written "updated" (by simp) (hσ.word64 w.updated)
  have hdeleted := hshows.written "deleted" (by simp) (hσ.word64 w.deleted)
  have hbatches := hshows.written "batches" (by simp) (hσ.word64 w.batches)
  have hconflicts := hshows.written "version_conflicts" (by simp) (hσ.word64 w.versionConflicts)
  have hnoops := hshows.written "noops" (by simp) (hσ.word64 w.noops)
  have hfailures := hshows.written "failures" (by simp) (hσ.values h)
  rw [decode, htable]
  simp [htook, htimedOut, htotal, hupdated, hdeleted, hbatches, hconflicts, hnoops, hfailures,
    hshows.check, pure, Except.pure]

/-! ### Statistics and buckets -/

namespace ExtendedStats

structure Writable (s : ExtendedStats) : Prop where
  min : ∀ x ∈ s.min, Floating.finite x = true
  max : ∀ x ∈ s.max, Floating.finite x = true
  avg : ∀ x ∈ s.avg, Floating.finite x = true
  sum : Floating.finite s.sum = true
  sumOfSquares : ∀ x ∈ s.sumOfSquares, Floating.finite x = true
  variance : ∀ x ∈ s.variance, Floating.finite x = true
  stdDeviation : ∀ x ∈ s.stdDeviation, Floating.finite x = true

theorem decode_number (hσ : Arranges σ) {x : Option Float}
    (h : ∀ y ∈ x, Floating.finite y = true) :
    Decode.option Decode.float (σ (number x)) = .ok x := by
  have hnumber : number x = .orNull (x.map .ofFloat) := by cases x <;> rfl
  rw [hnumber]
  exact hσ.orNull x fun y hy => hσ.float (h y hy)

theorem decode_toJson (hσ : Arranges σ) {s : ExtendedStats} (h : s.Writable) :
    decode (σ s.toJson) = .ok s := by
  have hjson : s.toJson = .object (present [("count", some (.ofWord s.count)),
      ("min", some (number s.min)), ("max", some (number s.max)), ("avg", some (number s.avg)),
      ("sum", some (.ofFloat s.sum)), ("sum_of_squares", some (number s.sumOfSquares)),
      ("variance", some (number s.variance)),
      ("std_deviation", some (number s.stdDeviation))]) := rfl
  obtain ⟨table, htable, hshows⟩ := exists_record hσ hjson (by simp) "ExtendedStats"
    ["count", "min", "max", "avg", "sum", "sum_of_squares", "variance", "std_deviation"]
  have hread : Decode.float (σ (.ofFloat s.sum)) = .ok s.sum := by
    rw [hσ.ofFloat h.sum]
    rfl
  have hcount := hshows.written "count" (by simp) (hσ.word64 s.count)
  have hmin := hshows.written "min" (by simp) (decode_number hσ h.min)
  have hmax := hshows.written "max" (by simp) (decode_number hσ h.max)
  have havg := hshows.written "avg" (by simp) (decode_number hσ h.avg)
  have hsum := hshows.written "sum" (by simp) hread
  have hsquares := hshows.written "sum_of_squares" (by simp) (decode_number hσ h.sumOfSquares)
  have hvariance := hshows.written "variance" (by simp) (decode_number hσ h.variance)
  have hdeviation := hshows.written "std_deviation" (by simp) (decode_number hσ h.stdDeviation)
  rw [decode, htable]
  simp [hcount, hmin, hmax, havg, hsum, hsquares, hvariance, hdeviation, hshows.check,
    pure, Except.pure]

end ExtendedStats

namespace Bucket

variable {α : Type}

/-- What is asked of a bucket apart from what stands inside it. -/
structure Writable (b : Bucket α) : Prop where
  key : b.key.InOrder
  items : Named.Ascending b.items
  stats : b.stats.Each ExtendedStats.Writable

def map {β : Type} (f : α → β) (b : Bucket α) : Bucket β :=
  ⟨b.key, b.keyAsString, b.docCount, b.items.map fun e => (e.1, f e.2), b.stats⟩

def table (b : Bucket Json) : List (String × Option Json) :=
  [("key", some b.key), ("key_as_string", b.keyAsString.map Json.string),
    ("doc_count", some (.ofWord b.docCount)), ("items", members? b.items),
    ("stats", members? (b.stats.map fun e => (e.1, e.2.toJson)))]

theorem toJson_eq_present (b : Bucket Json) : b.toJson = .object (present b.table) := by
  simp [toJson, table, ExtendedStats.toJsonAll]

theorem decode_toJson (hσ : Arranges σ) {level : Json → Except DecodeError α} {write : α → Json}
    {b : Bucket α} (h : b.Writable) (hlevel : ∀ e ∈ b.items, level (σ (write e.2)) = .ok e.2) :
    decode level (σ (b.map write).toJson) = .ok b := by
  obtain ⟨table, htable, hshows⟩ :=
    exists_record hσ (b.map write).toJson_eq_present (by simp [table]) "AggregationBucket"
      ["key", "key_as_string", "doc_count", "items", "stats"]
  have hkey := hshows.written "key" (by simp [Bucket.table, map]) (hσ.any h.key)
  have htext := hshows.optional "key_as_string" b.keyAsString (by simp [Bucket.table, map])
    fun s _ => hσ.option Json.noConfusion (hσ.string s)
  have hcount := hshows.written "doc_count" (by simp [Bucket.table, map]) (hσ.word64 b.docCount)
  have hitems := hshows.named "items" (by simp [Bucket.table, map])
    (hσ.named write h.items hlevel)
  have hstats := hshows.named "stats" (by simp [Bucket.table, map])
    (hσ.named ExtendedStats.toJson h.stats.1 fun e he =>
      ExtendedStats.decode_toJson hσ (h.stats.2 e he))
  rw [decode, htable]
  simp [hkey, htext, hcount, hitems, hstats, hshows.check, pure,
    Except.pure]

theorem depth_lt_of_item (hσ : Arranges σ) (write : α → Json) {b : Bucket α} {e : String × α}
    (h : Named.Ascending b.items) (he : e ∈ b.items) :
    (σ (write e.2)).depth < (σ (b.map write).toJson).depth := by
  rw [toJson_eq_present]
  exact hσ.depth_lt_of_named "items" write h (by simp [table]) (by simp [table, map]) he

end Bucket

namespace BucketLevel

inductive Writable : BucketLevel → Prop
  | mk {level : BucketLevel} : (∀ b ∈ level.buckets, b.Writable) →
      (∀ b ∈ level.buckets, ∀ e ∈ b.items, Writable e.2) → Writable level

theorem itemsToJson_eq_map (items : List (String × BucketLevel)) :
    itemsToJson items = items.map fun e => (e.1, e.2.toJson) := by
  induction items with
  | nil => rfl
  | cons e items ih => rw [itemsToJson, ih, List.map_cons]

theorem bucketsToJson_eq_map (bs : List (Bucket BucketLevel)) :
    bucketsToJson bs = bs.map fun b => (b.map toJson).toJson := by
  induction bs with
  | nil => rfl
  | cons b bs ih => rw [bucketsToJson, ih, itemsToJson_eq_map, List.map_cons, Bucket.map]

def table (level : BucketLevel) : List (String × Option Json) :=
  [("doc_count_error_upper_bound", some (.ofWord level.errorBound)),
    ("sum_other_doc_count", some (.ofWord level.otherCount)),
    ("buckets", some (.array (level.buckets.map fun b => (b.map toJson).toJson)))]

theorem toJson_eq_present (level : BucketLevel) : level.toJson = .object (present level.table) := by
  cases level
  rw [toJson, bucketsToJson_eq_map]
  rfl

theorem depth_lt_of_mem (hσ : Arranges σ) {level : BucketLevel} {b : Bucket BucketLevel}
    {e : String × BucketLevel} (hb : b ∈ level.buckets) (hitems : Named.Ascending b.items)
    (he : e ∈ b.items) : (σ e.2.toJson).depth < (σ level.toJson).depth := by
  have hnodup : (level.table.map Prod.fst).Nodup := by simp [table]
  rw [level.toJson_eq_present]
  calc
    (σ e.2.toJson).depth < (σ (b.map toJson).toJson).depth :=
      Bucket.depth_lt_of_item hσ toJson hitems he
    _ < (σ (.array (level.buckets.map fun b => (b.map toJson).toJson))).depth :=
      hσ.depth_lt_of_item (List.mem_map.mpr ⟨b, hb, rfl⟩)
    _ < (σ (.object (present level.table))).depth :=
      hσ.depth_lt_of_field "buckets" hnodup (by simp [table])

theorem decodeAt_toJson (hσ : Arranges σ) {levels : Nat} {level : BucketLevel} (h : level.Writable)
    (hdepth : (σ level.toJson).depth < levels) : decodeAt levels (σ level.toJson) = .ok level := by
  induction levels generalizing level with
  | zero => exact absurd hdepth (Nat.not_lt_zero _)
  | succ levels ih =>
    obtain ⟨hbuckets, hinside⟩ := h
    have hread : ∀ b ∈ level.buckets,
        Bucket.decode (decodeAt levels) (σ (b.map toJson).toJson) = .ok b := by
      intro b hb
      apply Bucket.decode_toJson hσ (hbuckets b hb)
      intro e he
      have hlt := depth_lt_of_mem hσ hb (hbuckets b hb).items he
      apply ih (hinside b hb e he)
      omega
    obtain ⟨table, htable, hshows⟩ :=
      exists_record hσ level.toJson_eq_present (by simp [table]) "AggregationResponse"
        ["doc_count_error_upper_bound", "sum_other_doc_count", "buckets"]
    have herror := hshows.written "doc_count_error_upper_bound" (by simp [BucketLevel.table])
      (hσ.word64 level.errorBound)
    have hother := hshows.written "sum_other_doc_count" (by simp [BucketLevel.table])
      (hσ.word64 level.otherCount)
    have hbuckets := hshows.written "buckets" (by simp [BucketLevel.table]) (hσ.list _ hread)
    rw [decodeAt, htable]
    simp [herror, hother, hbuckets, hshows.check, pure, Except.pure]
    cases level
    rfl

theorem decode_toJson (hσ : Arranges σ) {level : BucketLevel} (h : level.Writable) :
    decode (σ level.toJson) = .ok level :=
  decodeAt_toJson hσ h (Nat.lt_succ_self _)

end BucketLevel

namespace AggregateOutput

structure Writable (o : AggregateOutput) : Prop where
  groups : o.groups.Each BucketLevel.Writable
  stats : o.stats.Each ExtendedStats.Writable

theorem decode_toJson (hσ : Arranges σ) {o : AggregateOutput} (h : o.Writable) :
    decode (σ o.toJson) = .ok o := by
  have hjson : o.toJson = .object (present
      [("groups", members? (o.groups.map fun e => (e.1, e.2.toJson))),
        ("stats", members? (o.stats.map fun e => (e.1, e.2.toJson)))]) := by
    simp [toJson, BucketLevel.itemsToJson_eq_map, ExtendedStats.toJsonAll]
  obtain ⟨table, htable, hshows⟩ :=
    exists_record hσ hjson (by simp) "AggregateOutput" ["groups", "stats"]
  have hgroups := hshows.named "groups" (by simp) (hσ.named BucketLevel.toJson h.groups.1
    fun e he => BucketLevel.decode_toJson hσ (h.groups.2 e he))
  have hstats := hshows.named "stats" (by simp) (hσ.named ExtendedStats.toJson h.stats.1
    fun e he => ExtendedStats.decode_toJson hσ (h.stats.2 e he))
  rw [decode, htable]
  simp [hgroups, hstats, hshows.check, pure, Except.pure]

end AggregateOutput

theorem Bounds.decode_toJson (hσ : Arranges σ) {b : Bounds} (hmin : b.min.InOrder)
    (hmax : b.max.InOrder) : decode (σ b.toJson) = .ok b := by
  have hjson : b.toJson = .object (present [("min", some b.min), ("max", some b.max)]) := rfl
  obtain ⟨table, htable, hshows⟩ :=
    exists_record hσ hjson (by simp) "MinMaxResponse" ["min", "max"]
  have hmin := hshows.written "min" (by simp) (hσ.any hmin)
  have hmax := hshows.written "max" (by simp) (hσ.any hmax)
  rw [decode, htable]
  simp [hmin, hmax, hshows.check, pure, Except.pure]

end DocSearch
