import DocSearch.Http.Message
import DocSearch.Proofs.Answers
import DocSearch.Proofs.Placement
import DocSearch.Proofs.RequestBodies
import DocSearch.Proofs.ResponseBodies
import DocSearch.Proofs.RoundTrips
import DocSearch.Proofs.Shape

/-!
# Messages that are read back

A message is a value of one of the types that are sent as data. Reading undoes writing for all of
them, be the members in the order of writing or in ascending order.

The requests that operations make can be written without a condition of their own. A condition that
compares by size has passed its check, so its bound is a number or a date and not nothing; all other
values of conditions may be anything. Collections in a request have one entry, or are put in order
when they are made. Only the place that a page starts from and the parameters of a script come from
outside.
-/

namespace DocSearch

open Json

/-! ### Queries for conditions -/

theorem Scalar.inOrder_toJson (v : Scalar) : v.toJson.InOrder := by
  cases v with
  | float x =>
    rw [toJson, ofFloat]
    split <;> rfl
  | _ => rfl

theorem Json.IsOperand.ne_null {j : Json} (h : j.IsOperand) : j ≠ .null := by
  rintro rfl
  exact h

section Conditions

variable {context : Context} {kind : Named Json → Query}

theorem Predicate.writable_query {p : Predicate context} (h : p.validate = .ok ()) :
    p.query.Writable := by
  have hgiven : p.value.toJson.Given :=
    ⟨p.value.inOrder_toJson, (Predicate.isOperand_of_validate h).ne_null⟩
  unfold Predicate.query
  split
  case h_5 => exact .term (Named.each_singleton.mpr p.value.inOrder_toJson)
  all_goals
    refine .range (Named.each_singleton.mpr ?_)
    constructor <;> simp [hgiven]

theorem Predicate.writable_textQuery
    (hkind : ∀ fields, Named.Each InOrder fields → (kind fields).Writable) (p : Predicate context) :
    (p.textQuery kind).Writable :=
  hkind _ (Named.each_singleton.mpr p.value.inOrder_toJson)

theorem SetPredicate.writable_query (p : SetPredicate context) : p.query.Writable := by
  refine .terms (Named.each_singleton.mpr ?_)
  exact List.forall_mem_map.mpr fun v _ => v.inOrder_toJson

theorem SetPredicate.writable_textQueries
    (hkind : ∀ fields, Named.Each InOrder fields → (kind fields).Writable)
    (p : SetPredicate context) : ∀ q ∈ p.textQueries kind, q.Writable :=
  List.forall_mem_map.mpr fun v _ => hkind _ (Named.each_singleton.mpr v.inOrder_toJson)

theorem SetPredicate.writable_anyTextQuery
    (hkind : ∀ fields, Named.Each InOrder fields → (kind fields).Writable)
    (p : SetPredicate context) : (p.anyTextQuery kind).Writable := by
  have hall := p.writable_textQueries hkind
  unfold SetPredicate.anyTextQuery
  split
  · next q hq => exact hall q (hq ▸ List.mem_singleton_self q)
  · exact .bool (by simpa [BoolQuery.all] using hall)

theorem Clauses.writable_placed {cs : Clauses} (h : ∀ c ∈ cs, c.validate = .ok ()) :
    ∀ q ∈ cs.placed.all, q.Writable := by
  have hwheres : ∀ p ∈ cs.wheres, p.query.Writable := fun p hp =>
    p.writable_query (h (.where_ p) hp)
  have hfilters : ∀ p ∈ cs.filters, p.query.Writable := fun p hp =>
    p.writable_query (h (.filter p) hp)
  have htext : ∀ fields, Named.Each InOrder fields → (Query.fullText fields).Writable :=
    fun _ => .fullText
  have hphrase : ∀ fields, Named.Each InOrder fields → (Query.phrase fields).Writable :=
    fun _ => .phrase
  have hmust : ∀ q ∈ cs.placed.must, q.Writable := by
    simp only [placed, List.forall_mem_append, List.forall_mem_map]
    exact ⟨⟨⟨⟨⟨fun p _ => p.writable_query, fun p hp => hwheres p (List.mem_of_mem_filter hp)⟩,
      fun p _ => p.writable_anyTextQuery htext⟩, fun p _ => p.writable_textQuery htext⟩,
      fun p _ => p.writable_anyTextQuery hphrase⟩, fun p _ => p.writable_textQuery hphrase⟩
  have hmustNot : ∀ q ∈ cs.placed.mustNot, q.Writable := by
    simp only [placed, List.forall_mem_append, List.forall_mem_map, List.forall_mem_flatMap]
    exact ⟨⟨⟨⟨⟨fun p _ => p.writable_query, fun p hp => hwheres p (List.mem_of_mem_filter hp)⟩,
      fun p _ => p.writable_textQueries htext⟩, fun p _ => p.writable_textQuery htext⟩,
      fun p _ => p.writable_textQueries hphrase⟩, fun p _ => p.writable_textQuery hphrase⟩
  have hfilter : ∀ q ∈ cs.placed.filter, q.Writable := by
    simp only [placed, List.forall_mem_append, List.forall_mem_map]
    exact ⟨fun p _ => p.writable_query, hfilters⟩
  simp only [BoolQuery.all, List.forall_mem_append]
  exact ⟨⟨⟨hmust, fun q hq => absurd hq List.not_mem_nil⟩, hmustNot⟩, hfilter⟩

end Conditions

/-! ### Requests of operations -/

namespace Builder

variable {b : Builder} {done : List FamilyKind} {root : BoolQuery Query}

theorem writable_of_compileUnchecked (hvalid : b.validateClauses = .ok ())
    (h : b.compileUnchecked done = .ok root) : (Query.bool root).Writable := by
  obtain ⟨-, rfl, -⟩ := placed_of_compileUnchecked h
  obtain ⟨hown, hgroups⟩ := validateClauses_eq_ok_iff.mp hvalid
  have houter := Clauses.writable_placed fun c hc =>
    (Clause.check_eq_ok_iff.mp (hown c hc)).2.1
  have hnested : ∀ g ∈ b.nested, (Query.nested g.path (.bool g.clauses.placed)).Writable := by
    intro g hg
    refine .nested (.bool (Clauses.writable_placed fun c hc => ?_))
    exact (Clause.check_eq_ok_iff.mp ((hgroups g hg).2 c hc)).2.1
  simp only [BoolQuery.all, List.forall_mem_append] at houter
  obtain ⟨⟨⟨hmust, hshould⟩, hmustNot⟩, hfilter⟩ := houter
  apply Query.Writable.bool
  simp only [BoolQuery.all, placed, List.forall_mem_append, List.forall_mem_map]
  exact ⟨⟨⟨⟨hmust, hnested⟩, hshould⟩, hmustNot⟩, hfilter⟩

theorem writable_of_compile (h : b.compile done = .ok root) : (Query.bool root).Writable := by
  rw [compile, check_bind_eq_ok_iff] at h
  exact writable_of_compileUnchecked h.1 h.2

end Builder

namespace Aggregation

theorem writable_of_isEmpty {a : Aggregation} (h : a.aggs = []) : a.Writable := by
  constructor <;> simp [h, Named.Ascending]

theorem each_ofAllStats (statFields : List String) :
    (ofAllStats statFields).Each Writable := by
  refine ⟨Named.ascending_ofList _, fun e he => ?_⟩
  obtain ⟨field, -, rfl⟩ := List.mem_map.mp (Named.mem_of_mem_ofList he)
  exact writable_of_isEmpty rfl

theorem each_chain (fields statFields : List String) : (chain fields statFields).Each Writable := by
  induction fields with
  | nil => exact each_ofAllStats statFields
  | cons field fields ih => exact Named.each_singleton.mpr (.mk ih.1 ih.2)

end Aggregation

theorem SortClause.ascending_ofKey (field : String) (ascending : Bool) (path : Option String) :
    Named.Ascending (SortClause.ofKey field ascending path) :=
  List.pairwise_singleton _ _

theorem Builder.writable_of_searchRequest {b : Builder} {done : List FamilyKind}
    {r : SearchRequest} (h : b.searchRequest done = .ok r) : r.Writable := by
  rw [searchRequest, check_bind_eq_ok_iff] at h
  obtain ⟨hvalid, h⟩ := h
  obtain ⟨root, hroot, h⟩ := bind_eq_ok_iff.mp h
  obtain rfl := pure_eq_ok_iff.mp h
  constructor
  case query => exact writable_of_compileUnchecked (validateSearch_eq_ok_iff.mp hvalid).1 hroot
  case sort => exact List.forall_mem_map.mpr fun s _ => SortClause.ascending_ofKey ..
  case aggs => exact b.aggregations_eq_chain ▸ Aggregation.each_chain _ _
  case searchAfter => simp

theorem Index.writable_of_pageRequest {b : Builder} {done : List FamilyKind} {size : UInt64}
    {after : Option (List Json)} {r : SearchRequest} (hafter : ∀ js ∈ after, ∀ j ∈ js, j.InOrder)
    (h : pageRequest b done size after = .ok r) : r.Writable := by
  obtain ⟨whole, hwhole, rfl⟩ := map_eq_ok_iff.mp h
  exact { Builder.writable_of_searchRequest hwhole with searchAfter := hafter }

theorem Index.writable_boundsRequest {field : String} {q : Query} (h : q.Writable) :
    (boundsRequest field q).Writable := by
  constructor
  case query => exact h
  case sort => simp [boundsRequest]
  case aggs =>
    have horder : "max" < "min" := String.lt_iff_toList_lt.mpr (by decide)
    refine ⟨?_, ?_⟩
    · simpa [boundsRequest, Named.Ascending] using horder
    · simp only [boundsRequest, List.forall_mem_cons]
      exact ⟨Aggregation.writable_of_isEmpty rfl, Aggregation.writable_of_isEmpty rfl, by simp⟩
  case searchAfter => simp [boundsRequest]

/-! ### Messages -/

/-- The types of which values are sent as data. -/
inductive MessageType where
  | query | searchRequest | aggregation | sortClause | writeByQueryRequest | searchResponse
  | getResponse | writeResponse | writeByQueryResponse | aggregateOutput | bounds
  deriving Repr, DecidableEq

/-- A value of one of these types. -/
inductive Message where
  | query (q : Query)
  | searchRequest (r : SearchRequest)
  | aggregation (a : Aggregation)
  | sortClause (c : SortClause)
  | writeByQueryRequest (r : WriteByQueryRequest)
  | searchResponse (s : SearchResponse)
  | getResponse (g : GetResponse)
  | writeResponse (w : WriteResponse)
  | writeByQueryResponse (w : WriteByQueryResponse)
  | aggregateOutput (o : AggregateOutput)
  | bounds (b : Bounds)

namespace Message

def type : Message → MessageType
  | .query _ => .query
  | .searchRequest _ => .searchRequest
  | .aggregation _ => .aggregation
  | .sortClause _ => .sortClause
  | .writeByQueryRequest _ => .writeByQueryRequest
  | .searchResponse _ => .searchResponse
  | .getResponse _ => .getResponse
  | .writeResponse _ => .writeResponse
  | .writeByQueryResponse _ => .writeByQueryResponse
  | .aggregateOutput _ => .aggregateOutput
  | .bounds _ => .bounds

def toJson : Message → Json
  | .query q => q.toJson
  | .searchRequest r => r.toJson
  | .aggregation a => a.toJson
  | .sortClause c => SortClause.toJson c
  | .writeByQueryRequest r => r.toJson
  | .searchResponse s => s.toJson
  | .getResponse g => g.toJson
  | .writeResponse w => w.toJson
  | .writeByQueryResponse w => w.toJson
  | .aggregateOutput o => o.toJson
  | .bounds b => b.toJson

def decode : MessageType → Json → Except DecodeError Message
  | .query, j => (Query.decode j).map .query
  | .searchRequest, j => (SearchRequest.decode j).map .searchRequest
  | .aggregation, j => (Aggregation.decode j).map .aggregation
  | .sortClause, j => (SortClause.decode j).map .sortClause
  | .writeByQueryRequest, j => (WriteByQueryRequest.decode j).map .writeByQueryRequest
  | .searchResponse, j => (SearchResponse.decode j).map .searchResponse
  | .getResponse, j => (GetResponse.decode j).map .getResponse
  | .writeResponse, j => (WriteResponse.decode j).map .writeResponse
  | .writeByQueryResponse, j => (WriteByQueryResponse.decode j).map .writeByQueryResponse
  | .aggregateOutput, j => (AggregateOutput.decode j).map .aggregateOutput
  | .bounds, j => (Bounds.decode j).map .bounds

/-- Collections in it are in order and so are the members of its values, as both are kept; its floats
are finite, and no value that may be left out is there as nothing. -/
def Writable : Message → Prop
  | .query q => q.Writable
  | .searchRequest r => r.Writable
  | .aggregation a => a.Writable
  | .sortClause c => Named.Ascending c
  | .writeByQueryRequest r => r.Writable
  | .searchResponse s => s.Writable
  | .getResponse g => ∀ j ∈ g.source, j.Given
  | .writeResponse w => ∀ item ∈ w.items, BulkItem.Writable item
  | .writeByQueryResponse w => ∀ j ∈ w.failures, j.InOrder
  | .aggregateOutput o => o.Writable
  | .bounds b => b.min.InOrder ∧ b.max.InOrder

theorem decode_arranged {σ : Json → Json} (hσ : Arranges σ) {m : Message} (h : m.Writable) :
    decode m.type (σ m.toJson) = .ok m := by
  cases m with
  | query q => exact map_eq_ok_iff.mpr ⟨q, Query.decode_toJson hσ h, rfl⟩
  | searchRequest r => exact map_eq_ok_iff.mpr ⟨r, SearchRequest.decode_toJson hσ h, rfl⟩
  | aggregation a => exact map_eq_ok_iff.mpr ⟨a, Aggregation.decode_toJson hσ h, rfl⟩
  | sortClause c => exact map_eq_ok_iff.mpr ⟨c, SortClause.decode_toJson hσ h, rfl⟩
  | writeByQueryRequest r => exact map_eq_ok_iff.mpr ⟨r, WriteByQueryRequest.decode_toJson hσ h, rfl⟩
  | searchResponse s => exact map_eq_ok_iff.mpr ⟨s, SearchResponse.decode_toJson hσ h, rfl⟩
  | getResponse g => exact map_eq_ok_iff.mpr ⟨g, GetResponse.decode_toJson hσ h, rfl⟩
  | writeResponse w => exact map_eq_ok_iff.mpr ⟨w, WriteResponse.decode_toJson hσ h, rfl⟩
  | writeByQueryResponse w => exact map_eq_ok_iff.mpr ⟨w, WriteByQueryResponse.decode_toJson hσ h, rfl⟩
  | aggregateOutput o => exact map_eq_ok_iff.mpr ⟨o, AggregateOutput.decode_toJson hσ h, rfl⟩
  | bounds b => exact map_eq_ok_iff.mpr ⟨b, Bounds.decode_toJson hσ h.1 h.2, rfl⟩

/-- Reading a message as what it is yields it again, from its members in the order of writing and in
ascending order. -/
def ReadsBack (m : Message) : Prop :=
  decode m.type m.toJson = .ok m ∧ decode m.type m.toJson.normalize = .ok m

theorem readsBack_of_writable {m : Message} (h : m.Writable) : m.ReadsBack :=
  ⟨decode_arranged arranges_id h, decode_arranged arranges_normalize h⟩

end Message

/-! ### Bodies of calls -/

/-- The message that is the body of a call, if it is one. -/
def Request.message? : Request → Option Message
  | .search r => some (.searchRequest r)
  | .updateByQuery r _ | .deleteByQuery r _ => some (.writeByQueryRequest r)
  | .count _ | .get _ | .bulk _ _ => none

theorem Http.body_of_message? {r : Request} {m : DocSearch.Message} (h : r.message? = some m)
    (base : Base) (index : String) :
    (message base index r).body = some (jsonBody m.toJson) := by
  cases r with
  | search r | updateByQuery r refresh | deleteByQuery r refresh =>
    obtain rfl := Option.some.inj h
    rfl
  | count q | get id | bulk actions refresh => cases h

namespace Task

variable {α : Type}

/-- Whether the call of an operation has a message as its body. -/
def sendsMessage : Task α → Bool
  | .get _ _ | .aggregate _ | .cursor _ _ _ _ | .execute _ _ | .destroy _ | .minMax _ _ _ => true
  | .find _ _ | .insert _ _ | .update _ | .delete _ | .count _ => false

/-- The place that a page starts from and the parameters of a script are in order. -/
def ArgumentsInOrder : Task α → Prop
  | .cursor _ _ _ after => ∀ js ∈ after, ∀ j ∈ js, j.InOrder
  | .execute _ params => params.Each InOrder
  | _ => True

end Task

/-- The call has a message as its body that can be written. -/
def Request.IsWritable (r : Request) : Prop := ∃ m, r.message? = some m ∧ m.Writable

theorem Request.isWritable_search {r : SearchRequest} (h : r.Writable) :
    (Request.search r).IsWritable :=
  ⟨.searchRequest r, rfl, h⟩

theorem Request.isWritable_updateByQuery {r : WriteByQueryRequest} (h : r.Writable)
    (refresh : Bool) : (Request.updateByQuery r refresh).IsWritable :=
  ⟨.writeByQueryRequest r, rfl, h⟩

theorem Request.isWritable_deleteByQuery {r : WriteByQueryRequest} (h : r.Writable)
    (refresh : Bool) : (Request.deleteByQuery r refresh).IsWritable :=
  ⟨.writeByQueryRequest r, rfl, h⟩

theorem Script.each_of_ofParams {params : Named Json} {script : Script}
    (hparams : params.Each InOrder) (h : Script.ofParams params = .ok script) :
    script.params.Each InOrder := by
  unfold Script.ofParams at h
  split at h
  · cases h
  · obtain ⟨source, -, rfl⟩ := map_eq_ok_iff.mp h
    exact hparams

namespace Index

variable {α : Type} {b : Builder} {course : Course}

theorem isWritable_of_prepare {ix : Index} {t : Task α} {exchange : Exchange t.Result}
    (hsends : t.sendsMessage = true) (hargs : t.ArgumentsInOrder)
    (h : (t.plan ix).prepare course = .ok exchange) : exchange.request.IsWritable := by
  cases t with
  | find | insert | update | delete | count => cases hsends
  | get item b =>
    obtain ⟨r, hr, rfl⟩ := exists_of_searchRequest h
    exact Request.isWritable_search (Builder.writable_of_searchRequest hr)
  | aggregate b =>
    dsimp only [Task.plan, aggregate] at h
    cases hdirectives : b.hasAggregations with
    | false =>
      rw [hdirectives] at h
      cases h
    | true =>
      rw [hdirectives] at h
      obtain ⟨r, hr, rfl⟩ := exists_of_searchRequest h
      exact Request.isWritable_search (Builder.writable_of_searchRequest hr)
  | cursor item b size after =>
    dsimp only [Task.plan, cursor] at h
    split at h
    · cases h
    · split at h
      · cases h
      · next r hr =>
        obtain rfl := Except.ok.inj h
        exact Request.isWritable_search (writable_of_pageRequest hargs hr)
  | execute b params =>
    dsimp only [Task.plan, execute] at h
    split at h
    · cases h
    · next script hscript =>
      obtain ⟨root, hroot, rfl⟩ := exists_of_onCompiled h
      apply Request.isWritable_updateByQuery
      refine ⟨Builder.writable_of_compile hroot, fun s hs => ?_⟩
      obtain rfl := Option.some.inj hs
      exact Script.each_of_ofParams hargs hscript
  | destroy b =>
    dsimp only [Task.plan, destroy] at h
    obtain ⟨root, hroot, rfl⟩ := exists_of_onCompiled h
    apply Request.isWritable_deleteByQuery
    exact ⟨Builder.writable_of_compile hroot, fun s hs => by cases hs⟩
  | minMax b field isDate =>
    dsimp only [Task.plan, minMax] at h
    obtain ⟨root, hroot, rfl⟩ := exists_of_onCompiled h
    exact Request.isWritable_search (writable_boundsRequest (Builder.writable_of_compile hroot))

end Index

/-- **Reading undoes writing.** Every message, however large and however its parts stand inside each
other, is read back as the same value of its type, in both orders of the members, if its floats are
finite and no value that may be left out is there as nothing. The requests that are made for a query
are such messages, whatever the query: those for documents and aggregations, for a page after any
place, for bounds, and those to change or to delete with any parameters. They are the bodies of the
calls. -/
theorem messages_read_back :
    (∀ m : Message, m.Writable → m.ReadsBack) ∧
    (∀ (b : Builder) (done : List FamilyKind) (r : SearchRequest), b.searchRequest done = .ok r →
      (Message.searchRequest r).ReadsBack) ∧
    ∀ {α : Type} (ix : Index) (t : Task α) (course : Course) (exchange : Exchange t.Result),
      t.sendsMessage = true → t.ArgumentsInOrder → (t.plan ix).prepare course = .ok exchange →
        ∃ m, exchange.request.message? = some m ∧ m.ReadsBack ∧
          ∀ base, (Http.message base ix.name exchange.request).body =
            some (Http.jsonBody m.toJson) := by
  refine ⟨fun m h => Message.readsBack_of_writable h, fun b done r h => ?_, ?_⟩
  · have hwritable : (Message.searchRequest r).Writable := Builder.writable_of_searchRequest h
    exact Message.readsBack_of_writable hwritable
  · intro α ix t course exchange hsends hargs h
    obtain ⟨m, hm, hwritable⟩ := Index.isWritable_of_prepare hsends hargs h
    exact ⟨m, hm, Message.readsBack_of_writable hwritable, fun base =>
      Http.body_of_message? hm base ix.name⟩

/-- Queries of several kinds inside each other. -/
def mixedQuery : Query :=
  .bool {
    must := [.matchAll (some (.ofInt 3)), .range [("year", { gte := some (.int 1990) })]]
    should := [.nested "ratings" (.bool { filter := [.terms [("by", [.string "a", .null])]] })]
    minimumShouldMatch := some 1 }

theorem writable_mixedQuery : mixedQuery.Writable := by
  have hboost : (Floating.Single.ofInt 3).Finite :=
    ⟨false, Floating.single.nearest 3 1, by decide, rfl⟩
  have hbounds : RangeBounds.Writable { gte := some (.int 1990) } := by
    constructor <;> simp [Given, InOrder, Json.normalize]
  have hinner : (Query.terms [("by", [.string "a", .null])]).Writable :=
    .terms (Named.each_singleton.mpr (by simp [InOrder, Json.normalize]))
  refine .bool ?_
  simp only [BoolQuery.all, List.append_nil, List.forall_mem_append, List.forall_mem_cons]
  refine ⟨⟨.matchAll (by simpa using hboost), .range (Named.each_singleton.mpr hbounds), by simp⟩,
    .nested (.bool ?_), by simp⟩
  simpa [BoolQuery.all] using hinner

/-- A page of documents with groups, after the last one of the year 1994. -/
def filmPage : Task Json :=
  .cursor Decode.any (Builder.mixedConditions.applyAll [.orderBy ⟨"year", false, none⟩,
    .groupBy ["genre"], .stats ["year"]]) 10 (some [.int 1994])

theorem mixedQuery_and_filmPage_read_back :
    mixedQuery.Writable ∧ (Message.query mixedQuery).ReadsBack ∧
    ∃ exchange, (filmPage.plan ⟨"films", {}, true⟩).prepare {} = .ok exchange ∧
      ∃ m, exchange.request.message? = some m ∧ m.ReadsBack := by
  obtain ⟨hmessages, -, hcalls⟩ := messages_read_back
  have hprepared : ∃ exchange, (filmPage.plan ⟨"films", {}, true⟩).prepare {} = .ok exchange :=
    ⟨_, by rfl⟩
  obtain ⟨exchange, hexchange⟩ := hprepared
  have hargs : filmPage.ArgumentsInOrder := by
    simp [filmPage, Task.ArgumentsInOrder, InOrder, Json.normalize]
  obtain ⟨m, hm, hback, -⟩ := hcalls _ filmPage {} exchange rfl hargs hexchange
  exact ⟨writable_mixedQuery, hmessages (.query mixedQuery) writable_mixedQuery, exchange,
    hexchange, m, hm, hback⟩

end DocSearch
