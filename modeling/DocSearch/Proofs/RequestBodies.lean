import DocSearch.Proofs.Records

/-!
# Requests that are read back

Every part of a request is read back as what was written, from whichever order its members are
arranged in. What this asks of a part is said by its `Writable`: collections are in order, values
have their members in order, floats are finite, and a bound that is given is not nothing.

Queries and aggregations stand inside each other. They are read with a number of levels that is
greater than the depth of the data value, so the induction is on the levels: what stands inside is
less deep, in whatever arrangement.
-/

namespace DocSearch

open Json Decode

variable {σ : Json → Json}

/-! ### Queries -/

namespace RangeBounds

structure Writable (r : RangeBounds) : Prop where
  gte : ∀ j ∈ r.gte, j.Given
  gt : ∀ j ∈ r.gt, j.Given
  lte : ∀ j ∈ r.lte, j.Given
  lt : ∀ j ∈ r.lt, j.Given

theorem decode_toJson (hσ : Arranges σ) {r : RangeBounds} (h : r.Writable) :
    decode (σ r.toJson) = .ok r := by
  have hjson : r.toJson = .object (present
      [("gte", r.gte), ("gt", r.gt), ("lte", r.lte), ("lt", r.lt)]) := by
    simp [toJson]
  obtain ⟨table, htable, hshows⟩ :=
    exists_record hσ hjson (by simp) "RangeParams" ["gte", "gt", "lte", "lt"]
  have hgte := hshows.optional "gte" r.gte (by simp) fun j hj => hσ.given (h.gte j hj)
  have hgt := hshows.optional "gt" r.gt (by simp) fun j hj => hσ.given (h.gt j hj)
  have hlte := hshows.optional "lte" r.lte (by simp) fun j hj => hσ.given (h.lte j hj)
  have hlt := hshows.optional "lt" r.lt (by simp) fun j hj => hσ.given (h.lt j hj)
  rw [decode, htable]
  simp [hgte, hgt, hlte, hlt, hshows.check, pure, Except.pure]

end RangeBounds

theorem decodeLookedFor_lookedFor (hσ : Arranges σ) {j : Json} (h : j.InOrder) :
    decodeLookedFor (σ (lookedFor j)) = .ok j := by
  have hjson : lookedFor j = .object (present [("query", some j)]) := rfl
  obtain ⟨table, htable, hshows⟩ := exists_record hσ hjson (by simp) "MatchQuery" ["query"]
  have hquery := hshows.written "query" (by simp) (hσ.any h)
  rw [decodeLookedFor, htable]
  simp [hquery, hshows.check]

theorem named_decodeLookedFor (hσ : Arranges σ) {fields : Named Json} (h : fields.Each InOrder) :
    Decode.named decodeLookedFor (σ (.object (fields.map fun f => (f.1, lookedFor f.2)))) =
      .ok fields :=
  hσ.named lookedFor h.1 fun e he => decodeLookedFor_lookedFor hσ (h.2 e he)

theorem decodeBoost_boost (hσ : Arranges σ) {boost : Option Floating.Single}
    (h : ∀ x ∈ boost, x.Finite) :
    decodeBoost (σ (.object (member? "boost" (boost.map fun x => .ofFloat x.value)))) =
      .ok boost := by
  have hjson : Json.object (member? "boost" (boost.map fun x => .ofFloat x.value)) =
      .object (present [("boost", boost.map fun x => .ofFloat x.value)]) := by
    simp
  obtain ⟨table, htable, hshows⟩ := exists_record hσ hjson (by simp) "MatchAllQuery" ["boost"]
  have hboost := hshows.optional "boost" boost (by simp) fun x hx => hσ.single (h x hx)
  rw [decodeBoost, htable]
  simp [hboost, hshows.check, pure, Except.pure]

namespace BoolQuery

variable {α : Type}

def all (q : BoolQuery α) : List α := q.must ++ q.should ++ q.mustNot ++ q.filter

def map {β : Type} (f : α → β) (q : BoolQuery α) : BoolQuery β :=
  ⟨q.must.map f, q.should.map f, q.mustNot.map f, q.filter.map f, q.minimumShouldMatch⟩

def table (q : BoolQuery Json) : List (String × Option Json) :=
  [("must", items? q.must), ("should", items? q.should), ("must_not", items? q.mustNot),
    ("filter", items? q.filter),
    ("minimum_should_match", q.minimumShouldMatch.map fun n => .int n.toNat)]

theorem members_eq_present (q : BoolQuery Json) : q.members = present q.table := by
  simp [members, table]

theorem decode_members (hσ : Arranges σ) {query : Json → Except DecodeError α} {write : α → Json}
    {q : BoolQuery α} (h : ∀ a ∈ q.all, query (σ (write a)) = .ok a) :
    decode query (σ (.object (q.map write).members)) = .ok q := by
  simp only [all, List.forall_mem_append] at h
  obtain ⟨⟨⟨hmust, hshould⟩, hmustNot⟩, hfilter⟩ := h
  obtain ⟨table, htable, hshows⟩ :=
    exists_record hσ (congrArg Json.object (q.map write).members_eq_present) (by simp [table])
      "BoolQuery" ["must", "should", "must_not", "filter", "minimum_should_match"]
  have hmust := hshows.listed "must" (by simp [BoolQuery.table, map]) (hσ.list write hmust)
  have hshould := hshows.listed "should" (by simp [BoolQuery.table, map]) (hσ.list write hshould)
  have hmustNot :=
    hshows.listed "must_not" (by simp [BoolQuery.table, map]) (hσ.list write hmustNot)
  have hfilter := hshows.listed "filter" (by simp [BoolQuery.table, map]) (hσ.list write hfilter)
  have hminimum := hshows.optional "minimum_should_match" q.minimumShouldMatch
    (by simp [BoolQuery.table, map]) fun n _ => hσ.option Json.noConfusion (hσ.word32 n)
  rw [decode, htable]
  simp [hmust, hshould, hmustNot, hfilter, hminimum, hshows.check, pure, Except.pure]

theorem depth_lt_of_mem (hσ : Arranges σ) (write : α → Json) {q : BoolQuery α} {a : α}
    (ha : a ∈ q.all) : (σ (write a)).depth < (σ (.object (q.map write).members)).depth := by
  have hnodup : ((q.map write).table.map Prod.fst).Nodup := by simp [table]
  simp only [all, List.mem_append] at ha
  rw [members_eq_present]
  rcases ha with ((ha | ha) | ha) | ha
  · exact hσ.depth_lt_of_listed "must" write hnodup (by simp [table, map]) ha
  · exact hσ.depth_lt_of_listed "should" write hnodup (by simp [table, map]) ha
  · exact hσ.depth_lt_of_listed "must_not" write hnodup (by simp [table, map]) ha
  · exact hσ.depth_lt_of_listed "filter" write hnodup (by simp [table, map]) ha

end BoolQuery

namespace Query

/-- What is asked of a query and of all that stand inside it. -/
inductive Writable : Query → Prop
  | matchAll {boost : Option Floating.Single} : (∀ x ∈ boost, x.Finite) →
      Writable (.matchAll boost)
  | fullText {fields : Named Json} : fields.Each InOrder → Writable (.fullText fields)
  | phrase {fields : Named Json} : fields.Each InOrder → Writable (.phrase fields)
  | term {fields : Named Json} : fields.Each InOrder → Writable (.term fields)
  | terms {fields : Named (List Json)} : (fields.Each fun js => ∀ j ∈ js, j.InOrder) →
      Writable (.terms fields)
  | range {fields : Named RangeBounds} : fields.Each RangeBounds.Writable →
      Writable (.range fields)
  | bool {q : BoolQuery Query} : (∀ p ∈ q.all, Writable p) → Writable (.bool q)
  | nested {path : String} {q : Query} : Writable q → Writable (.nested path q)

theorem toJsonAll_eq_map (qs : List Query) : toJsonAll qs = qs.map toJson := by
  induction qs with
  | nil => rfl
  | cons q qs ih => rw [toJsonAll, ih, List.map_cons]

theorem toJson_bool (q : BoolQuery Query) :
    (Query.bool q).toJson = .object [("bool", .object (q.map toJson).members)] := by
  simp only [toJson, toJsonAll_eq_map]
  rfl

theorem decodeNested_toJson (hσ : Arranges σ) {query : Json → Except DecodeError Query}
    {path : String} {q : Query} (h : query (σ q.toJson) = .ok q) :
    decodeNested query (σ (.object [("path", .string path), ("query", q.toJson)])) =
      .ok (.nested path q) := by
  have hjson : Json.object [("path", .string path), ("query", q.toJson)] =
      .object (present [("path", some (.string path)), ("query", some q.toJson)]) := rfl
  obtain ⟨table, htable, hshows⟩ :=
    exists_record hσ hjson (by simp) "NestedQuery" ["path", "query"]
  have hpath := hshows.written "path" (by simp) (hσ.string path)
  have hquery := hshows.written "query" (by simp) h
  rw [decodeNested, htable]
  simp [hpath, hquery, hshows.check, pure, Except.pure]

theorem decodeAt_toJson (hσ : Arranges σ) {levels : Nat} {q : Query} (h : q.Writable)
    (hdepth : (σ q.toJson).depth < levels) : decodeAt levels (σ q.toJson) = .ok q := by
  -- on the levels and not on the query: what is inside is read with one level less
  induction levels generalizing q with
  | zero => exact absurd hdepth (Nat.not_lt_zero _)
  | succ levels ih =>
    cases h with
    | matchAll hboost =>
      rw [toJson, hσ.singleton, decodeAt, choice, ok_bind]
      simp [content, decodeBoost_boost hσ hboost, pure, Except.pure]
    | fullText hfields =>
      have hread := named_decodeLookedFor hσ hfields
      rw [toJson, hσ.singleton, decodeAt, choice, ok_bind]
      simp [content, hread, pure, Except.pure]
    | phrase hfields =>
      have hread := named_decodeLookedFor hσ hfields
      rw [toJson, hσ.singleton, decodeAt, choice, ok_bind]
      simp [content, hread, pure, Except.pure]
    | term hfields =>
      have hread := hσ.namedValues hfields.1 hfields.2
      rw [toJson, hσ.singleton, decodeAt, choice, ok_bind]
      simp [content, hread, pure, Except.pure]
    | terms hfields =>
      have hread := hσ.named Json.array hfields.1 fun e he => hσ.values (hfields.2 e he)
      rw [toJson, hσ.singleton, decodeAt, choice, ok_bind]
      simp [content, hread, pure, Except.pure]
    | range hfields =>
      have hread := hσ.named RangeBounds.toJson hfields.1 fun e he =>
        RangeBounds.decode_toJson hσ (hfields.2 e he)
      rw [toJson, hσ.singleton, decodeAt, choice, ok_bind]
      simp [content, hread, pure, Except.pure]
    | @bool q hall =>
      rw [toJson_bool, hσ.singleton] at hdepth ⊢
      have hread : ∀ p ∈ q.all, decodeAt levels (σ p.toJson) = .ok p := by
        intro p hp
        have hlt := BoolQuery.depth_lt_of_mem hσ toJson hp
        apply ih (hall p hp)
        simp only [depth, depthMembers] at hdepth
        omega
      rw [decodeAt, choice, ok_bind]
      simp [content, BoolQuery.decode_members hσ hread, pure, Except.pure]
    | @nested path q hq =>
      rw [toJson, hσ.singleton] at hdepth ⊢
      have hread : decodeAt levels (σ q.toJson) = .ok q := by
        have hmem : ("query", q.toJson) ∈ [("path", .string path), ("query", q.toJson)] := by simp
        have hlt := hσ.depth_lt_of_member (by simp) hmem
        apply ih hq
        simp only [depth, depthMembers] at hdepth
        omega
      rw [decodeAt, choice, ok_bind]
      simp [content, decodeNested_toJson hσ hread]

theorem decode_toJson (hσ : Arranges σ) {q : Query} (h : q.Writable) :
    decode (σ q.toJson) = .ok q :=
  decodeAt_toJson hσ h (Nat.lt_succ_self _)

end Query

/-! ### Sorting -/

theorem Direction.decode_name (hσ : Arranges σ) (d : Direction) :
    decode (σ (.string d.name)) = .ok d := by
  rw [hσ.inOrder (.string d.name) rfl]
  cases d <;> rfl

namespace SortOptions

theorem decodePath_path (hσ : Arranges σ) (path : String) :
    decodePath (σ (.object [("path", .string path)])) = .ok path := by
  have hjson : Json.object [("path", .string path)] =
      .object (present [("path", some (.string path))]) := rfl
  obtain ⟨table, htable, hshows⟩ := exists_record hσ hjson (by simp) "NestedSort" ["path"]
  have hpath := hshows.written "path" (by simp) (hσ.string path)
  rw [decodePath, htable]
  simp [hpath, hshows.check]

theorem decode_toJson (hσ : Arranges σ) (o : SortOptions) : decode (σ o.toJson) = .ok o := by
  have hjson : o.toJson = .object (present [("order", some (.string o.order.name)),
      ("nested", o.nestedPath.map fun path => .object [("path", .string path)])]) := by
    simp [toJson]
  obtain ⟨table, htable, hshows⟩ :=
    exists_record hσ hjson (by simp) "SortOptions" ["order", "nested"]
  have horder := hshows.written "order" (by simp) (Direction.decode_name hσ o.order)
  have hnested := hshows.optional "nested" o.nestedPath (by simp) fun path _ =>
    hσ.option Json.noConfusion (decodePath_path hσ path)
  rw [decode, htable]
  simp [horder, hnested, hshows.check, pure, Except.pure]

end SortOptions

theorem SortClause.decode_toJson (hσ : Arranges σ) {c : SortClause} (h : Named.Ascending c) :
    decode (σ c.toJson) = .ok c :=
  hσ.named SortOptions.toJson h fun e _ => SortOptions.decode_toJson hσ e.2

/-! ### Aggregations -/

theorem decodeMetric_metric (hσ : Arranges σ) (field : String) :
    decodeMetric (σ (metric field)) = .ok field := by
  have hjson : metric field = .object (present [("field", some (.string field))]) := rfl
  obtain ⟨table, htable, hshows⟩ := exists_record hσ hjson (by simp) "FieldAgg" ["field"]
  have hfield := hshows.written "field" (by simp) (hσ.string field)
  rw [decodeMetric, htable]
  simp [hfield, hshows.check]

theorem TermsAggregation.decode_toJson (hσ : Arranges σ) (t : TermsAggregation) :
    decode (σ t.toJson) = .ok t := by
  have hjson : t.toJson = .object (present [("field", some (.string t.field)),
      ("size", t.size.map Json.ofWord)]) := by
    simp [toJson]
  obtain ⟨table, htable, hshows⟩ := exists_record hσ hjson (by simp) "TermsAgg" ["field", "size"]
  have hfield := hshows.written "field" (by simp) (hσ.string t.field)
  have hsize := hshows.optional "size" t.size (by simp) fun n _ =>
    hσ.option Json.noConfusion (hσ.size64 n)
  rw [decode, htable]
  simp [hfield, hsize, hshows.check, pure, Except.pure]

namespace Aggregation

inductive Writable : Aggregation → Prop
  | mk {a : Aggregation} : Named.Ascending a.aggs → (∀ e ∈ a.aggs, Writable e.2) → Writable a

theorem toJsonAll_eq_map (as : List (String × Aggregation)) :
    toJsonAll as = as.map fun e => (e.1, e.2.toJson) := by
  induction as with
  | nil => rfl
  | cons a as ih => rw [toJsonAll, ih, List.map_cons]

def table (a : Aggregation) : List (String × Option Json) :=
  [("terms", a.terms.map TermsAggregation.toJson), ("extended_stats", a.extendedStats.map metric),
    ("min", a.min.map metric), ("max", a.max.map metric),
    ("aggs", members? (a.aggs.map fun e => (e.1, e.2.toJson)))]

theorem toJson_eq_present (a : Aggregation) : a.toJson = .object (present a.table) := by
  cases a
  simp [toJson, table, toJsonAll_eq_map]

theorem decodeAt_toJson (hσ : Arranges σ) {levels : Nat} {a : Aggregation} (h : a.Writable)
    (hdepth : (σ a.toJson).depth < levels) : decodeAt levels (σ a.toJson) = .ok a := by
  induction levels generalizing a with
  | zero => exact absurd hdepth (Nat.not_lt_zero _)
  | succ levels ih =>
    obtain ⟨hascending, haggs⟩ := h
    have hnodup : (a.table.map Prod.fst).Nodup := by simp [table]
    have hread : ∀ e ∈ a.aggs, decodeAt levels (σ e.2.toJson) = .ok e.2 := by
      intro e he
      have hlt := hσ.depth_lt_of_named "aggs" toJson hascending hnodup (by simp [table]) he
      apply ih (haggs e he)
      rw [toJson_eq_present] at hdepth
      omega
    obtain ⟨table, htable, hshows⟩ := exists_record hσ a.toJson_eq_present hnodup "EsAggregation"
      ["terms", "extended_stats", "min", "max", "aggs"]
    have hterms := hshows.optional "terms" a.terms (by simp [Aggregation.table]) fun t _ =>
      hσ.option Json.noConfusion (t.decode_toJson hσ)
    have hstats := hshows.optional "extended_stats" a.extendedStats (by simp [Aggregation.table])
      fun field _ => hσ.option Json.noConfusion (decodeMetric_metric hσ field)
    have hmin := hshows.optional "min" a.min (by simp [Aggregation.table]) fun field _ =>
      hσ.option Json.noConfusion (decodeMetric_metric hσ field)
    have hmax := hshows.optional "max" a.max (by simp [Aggregation.table]) fun field _ =>
      hσ.option Json.noConfusion (decodeMetric_metric hσ field)
    -- the other name of the field is only ever read
    have haggs := hshows.namedAs "aggs" ["aggregations"] (by simp [Aggregation.table])
      (by simp [Aggregation.table]) (hσ.named toJson hascending hread)
    rw [decodeAt, htable]
    cases a
    simp [hterms, hstats, hmin, hmax, haggs, hshows.check, pure, Except.pure]

theorem decode_toJson (hσ : Arranges σ) {a : Aggregation} (h : a.Writable) :
    decode (σ a.toJson) = .ok a :=
  decodeAt_toJson hσ h (Nat.lt_succ_self _)

end Aggregation

/-! ### Requests -/

namespace SearchRequest

structure Writable (r : SearchRequest) : Prop where
  query : r.query.Writable
  sort : ∀ c ∈ r.sort, Named.Ascending c
  aggs : r.aggs.Each Aggregation.Writable
  searchAfter : ∀ js ∈ r.searchAfter, ∀ j ∈ js, j.InOrder

theorem decode_toJson (hσ : Arranges σ) {r : SearchRequest} (h : r.Writable) :
    decode (σ r.toJson) = .ok r := by
  have hjson : r.toJson = .object (present [("query", some r.query.toJson),
      ("from", r.offset.map fun n => .int n.toInt), ("size", r.size.map fun n => .int n.toInt),
      ("sort", items? (r.sort.map SortClause.toJson)),
      ("aggs", members? (r.aggs.map fun e => (e.1, e.2.toJson))),
      ("search_after", r.searchAfter.map Json.array)]) := by
    simp [toJson, Aggregation.toJsonAll_eq_map]
  obtain ⟨table, htable, hshows⟩ := exists_record hσ hjson (by simp) "SearchRequest"
    ["query", "from", "size", "sort", "aggs", "search_after"]
  have hquery := hshows.written "query" (by simp) (Query.decode_toJson hσ h.query)
  have hoffset := hshows.optional "from" r.offset (by simp) fun n _ =>
    hσ.option Json.noConfusion (hσ.int64 n)
  have hsize := hshows.optional "size" r.size (by simp) fun n _ =>
    hσ.option Json.noConfusion (hσ.int64 n)
  have hsort := hshows.listed "sort" (by simp) (hσ.list SortClause.toJson fun c hc =>
    SortClause.decode_toJson hσ (h.sort c hc))
  have haggs := hshows.namedAs "aggs" ["aggregations"] (by simp) (by simp)
    (hσ.named Aggregation.toJson h.aggs.1 fun e he => Aggregation.decode_toJson hσ (h.aggs.2 e he))
  have hafter := hshows.optional "search_after" r.searchAfter (by simp) fun js hjs =>
    hσ.option Json.noConfusion (hσ.values (h.searchAfter js hjs))
  rw [decode, htable]
  simp [hquery, hoffset, hsize, hsort, haggs, hafter, hshows.check, pure,
    Except.pure]

end SearchRequest

namespace Script

theorem decode_toJson (hσ : Arranges σ) {s : Script} (h : s.params.Each InOrder) :
    decode (σ s.toJson) = .ok s := by
  have hjson : s.toJson = .object (present [("source", some (.string s.source)),
      ("lang", some (.string s.lang)), ("params", some (.object s.params))]) := rfl
  obtain ⟨table, htable, hshows⟩ :=
    exists_record hσ hjson (by simp) "Script" ["source", "lang", "params"]
  have hsource := hshows.written "source" (by simp) (hσ.string s.source)
  have hlang := hshows.written "lang" (by simp) (hσ.string s.lang)
  have hparams := hshows.written "params" (by simp) (hσ.namedValues h.1 h.2)
  rw [decode, htable]
  simp [hsource, hlang, hparams, hshows.check, Record.required, pure, Except.pure]

end Script

namespace WriteByQueryRequest

structure Writable (r : WriteByQueryRequest) : Prop where
  query : r.query.Writable
  params : ∀ s ∈ r.script, s.params.Each InOrder

theorem decode_toJson (hσ : Arranges σ) {r : WriteByQueryRequest} (h : r.Writable) :
    decode (σ r.toJson) = .ok r := by
  have hjson : r.toJson = .object (present [("query", some r.query.toJson),
      ("script", r.script.map Script.toJson)]) := by
    simp [toJson]
  obtain ⟨table, htable, hshows⟩ :=
    exists_record hσ hjson (by simp) "WriteByQueryRequest" ["query", "script"]
  have hquery := hshows.written "query" (by simp) (Query.decode_toJson hσ h.query)
  have hscript := hshows.optional "script" r.script (by simp) fun s hs =>
    hσ.option Json.noConfusion (Script.decode_toJson hσ (h.params s hs))
  rw [decode, htable]
  simp [hquery, hscript, hshows.check, pure, Except.pure]

end WriteByQueryRequest

end DocSearch
