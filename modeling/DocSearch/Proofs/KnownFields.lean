import DocSearch.Proofs.Answers
import DocSearch.Proofs.Placement
import DocSearch.Proofs.RoundTrips
import DocSearch.Proofs.Shape

/-!
# Fields that a schema knows

A request names fields in its query, in the sort order and in its aggregations. They come from the
conditions, the sort keys and the directives of a query under construction, which are compared with
its schema before anything is sent, and from nowhere else but for one argument: the field that is
asked for its least and greatest value goes into the aggregations as it is. So the fields of a
request are known exactly when that one is.

Fields are collected from a request by itself, without regard to where it comes from; what is
carried along the compiler is that all of them are allowed.
-/

namespace DocSearch

/-! ### The fields of a request -/

/-- The fields of a query and of all queries inside it. -/
def Query.allFields (q : Query) : List String := q.parts.flatMap Query.fields

namespace Aggregation

mutual

/-- The fields of an aggregation and of all aggregations inside it. -/
def fields (a : Aggregation) : List String :=
  match a with
  | ⟨terms, extendedStats, min, max, aggs⟩ =>
    (terms.map TermsAggregation.field).toList ++ extendedStats.toList ++ min.toList ++
      max.toList ++ fieldsOfAll aggs
termination_by structural a

def fieldsOfAll (as : List (String × Aggregation)) : List String :=
  match as with
  | [] => []
  | (_, a) :: as => fields a ++ fieldsOfAll as
termination_by structural as

end

end Aggregation

def SearchRequest.fields (r : SearchRequest) : List String :=
  r.query.allFields ++ r.sort.flatMap (List.map Prod.fst) ++ Aggregation.fieldsOfAll r.aggs

/-- The fields in the query, the sort order and the aggregations of a request. -/
def Request.fields : Request → List String
  | .search r => r.fields
  | .count q => q.allFields
  | .get _ | .bulk _ _ => []
  | .updateByQuery r _ | .deleteByQuery r _ => r.query.allFields

namespace Task

variable {α : Type}

/-- The query that an operation works on. -/
def builder? : Task α → Option Builder
  | .find _ _ | .insert _ _ | .update _ | .delete _ => none
  | .get _ b | .count b | .aggregate b | .cursor _ b _ _ | .execute b _ | .destroy b
  | .minMax b _ _ => some b

/-- The fields that an operation is given beside its query. -/
def ownFields : Task α → List String
  | .minMax _ field _ => [field]
  | _ => []

end Task

/-! ### Compiled queries -/

section Queries

variable {Allowed : String → Prop} {q : Query} {root : BoolQuery Query} {done : List FamilyKind}
  {b : Builder}

theorem Query.FlatOn.allFields (h : q.FlatOn Allowed) : ∀ field ∈ q.allFields, Allowed field := by
  intro field hfield
  obtain ⟨p, hp, hfield⟩ := List.mem_flatMap.mp hfield
  exact (h p hp).2.2 field hfield

theorem Query.mem_allFields_bool {m : BoolQuery Query} {field : String} :
    field ∈ (Query.bool m).allFields ↔
      ∃ q ∈ m.must ++ m.should ++ m.mustNot ++ m.filter, field ∈ q.allFields := by
  simp only [Query.allFields, List.mem_flatMap, Query.mem_parts_bool]
  constructor
  · rintro ⟨p, rfl | ⟨q, hq, hp⟩, hfield⟩
    · cases hfield
    · exact ⟨q, hq, p, hp, hfield⟩
  · rintro ⟨q, hq, p, hp, hfield⟩
    exact ⟨p, Or.inr ⟨q, hq, hp⟩, hfield⟩

/-- The path of a nested query is not a field of it. -/
theorem Query.allFields_nested (path : String) (q : Query) :
    (Query.nested path q).allFields = q.allFields := by
  rw [Query.allFields, Query.parts, List.flatMap_cons]
  rfl

namespace Builder

theorem flatOn_placed (h : b.compileUnchecked done = .ok root) (hown : b.clauses.ValidOn Allowed) :
    (Query.bool b.clauses.placed).FlatOn Allowed := by
  obtain ⟨contribution, hfamilies, -⟩ := families_of_compileUnchecked h
  obtain ⟨-, hplaced⟩ := Clauses.placed_of_families (hfamilies .wheres) (hfamilies .filters)
    (hfamilies .fullTexts) (hfamilies .phrases)
  rw [← hplaced]
  exact Clauses.flatOn_families (hfamilies .wheres) (hfamilies .filters) (hfamilies .fullTexts)
    (hfamilies .phrases) hown

/-- What the conditions are allowed to be on bounds the fields of the compiled query. -/
theorem allFields_of_compileUnchecked (h : b.compileUnchecked done = .ok root)
    (hown : b.clauses.ValidOn Allowed) (hgroups : ∀ g ∈ b.nested, g.clauses.ValidOn Allowed) :
    ∀ field ∈ (Query.bool root).allFields, Allowed field := by
  have houter := (flatOn_placed h hown).allFields
  obtain ⟨-, rfl, hinner⟩ := placed_of_compileUnchecked h
  intro field hfield
  obtain ⟨q, hq, hfield⟩ := Query.mem_allFields_bool.mp hfield
  simp only [placed, List.mem_append, List.mem_map] at hq
  by_cases hgroup : ∃ g ∈ b.nested, Query.nested g.path (.bool g.clauses.placed) = q
  · obtain ⟨g, hg, rfl⟩ := hgroup
    rw [Query.allFields_nested] at hfield
    exact (Clauses.flatOn_compile (hinner g hg).2 (hgroups g hg)).allFields field hfield
  · refine houter field (Query.mem_allFields_bool.mpr ⟨q, ?_, hfield⟩)
    rcases hq with ((hq | hq) | hq) | hq
    · simp [hq.resolve_right hgroup]
    · simp [hq]
    · simp [hq]
    · simp [hq]

end Builder

end Queries

/-! ### The checks against a schema -/

section Checks

variable {s : Schema} {b : Builder}

theorem checkField_some_eq_ok_iff {field : String} :
    checkField (some s) field = .ok () ↔ s.contains field = true := by
  rw [checkField]
  split
  · next h => simp [h]
  · next h => simp [h]

theorem Builder.validOn_schema (hs : b.schema = some s) (h : b.validateClauses = .ok ()) :
    b.clauses.ValidOn (s.contains · = true) ∧
      ∀ g ∈ b.nested, g.clauses.ValidOn (s.contains · = true) := by
  have hknown : ∀ {nested c}, Clause.check b.schema nested c = .ok () →
      c.validate = .ok () ∧ s.contains c.field = true := by
    intro nested c hc
    obtain ⟨-, hvalid, hfield⟩ := Clause.check_eq_ok_iff.mp hc
    rw [hs] at hfield
    exact ⟨hvalid, checkField_some_eq_ok_iff.mp hfield⟩
  obtain ⟨hown, hgroups⟩ := validateClauses_eq_ok_iff.mp h
  exact ⟨fun c hc => hknown (hown c hc), fun g hg c hc => hknown ((hgroups g hg).2 c hc)⟩

/-- What passes has its directives on known fields. -/
theorem Builder.directives_known (hs : b.schema = some s) (h : b.validateDirectives = .ok ()) :
    (∀ key ∈ b.sorts, s.contains key.field = true) ∧
      (∀ field ∈ b.groupBy.getD [], s.contains field = true) ∧
      ∀ field ∈ b.stats, s.contains field = true := by
  rw [validateDirectives, check_bind_eq_ok_iff, check_bind_eq_ok_iff, checkAll_eq_ok_iff,
    checkAll_eq_ok_iff, hs] at h
  obtain ⟨hsorts, hgroupBy, hstats⟩ := h
  refine ⟨fun key hkey => ?_, fun field hfield => ?_, fun field hfield => ?_⟩
  · have hkey := hsorts key hkey
    rw [checkSort, check_bind_eq_ok_iff] at hkey
    exact checkField_some_eq_ok_iff.mp hkey.2
  · cases hfields : b.groupBy with
    | none =>
      rw [hfields] at hfield
      cases hfield
    | some fields =>
      rw [hfields, Option.getD_some] at hfield
      unfold validateGroupBy at hgroupBy
      rw [hfields, hs] at hgroupBy
      dsimp only at hgroupBy
      split at hgroupBy
      · cases hgroupBy
      · exact checkField_some_eq_ok_iff.mp (checkAll_eq_ok_iff.mp hgroupBy field hfield)
  · exact checkField_some_eq_ok_iff.mp (hstats field hfield)

end Checks

/-! ### Aggregations and sort clauses -/

namespace Aggregation

theorem mem_fieldsOfAll {as : Named Aggregation} {field : String} :
    field ∈ fieldsOfAll as ↔ ∃ entry ∈ as, field ∈ entry.2.fields := by
  induction as with
  | nil => simp [fieldsOfAll]
  | cons entry as ih =>
    rw [fieldsOfAll, List.mem_append, ih]
    simp

theorem fields_ofTerms (field : String) (aggs : Named Aggregation) :
    (ofTerms field aggs).fields = field :: fieldsOfAll aggs := by
  simp [ofTerms, fields]

theorem fields_ofStats (field : String) : (ofStats field).fields = [field] := by
  simp [ofStats, fields, fieldsOfAll]

theorem fieldsOfAll_ofAllStats {statFields : List String} {field : String}
    (h : field ∈ fieldsOfAll (ofAllStats statFields)) : field ∈ statFields := by
  obtain ⟨entry, hentry, hfield⟩ := mem_fieldsOfAll.mp h
  have hlisted : entry ∈ statFields.map fun field => (statsName field, ofStats field) :=
    Named.mem_of_mem_ofList hentry
  obtain ⟨own, hown, rfl⟩ := List.mem_map.mp hlisted
  rw [fields_ofStats, List.mem_singleton] at hfield
  rwa [hfield]

/-- Aggregations inside each other refer to the fields to group by and to those of the
statistics. -/
theorem fieldsOfAll_chain {groupFields statFields : List String} {field : String}
    (h : field ∈ fieldsOfAll (chain groupFields statFields)) :
    field ∈ groupFields ∨ field ∈ statFields := by
  induction groupFields with
  | nil => exact Or.inr (fieldsOfAll_ofAllStats h)
  | cons first groupFields ih =>
    have h : field ∈ fieldsOfAll [(first, ofTerms first (chain groupFields statFields))] := h
    rw [fieldsOfAll, fields_ofTerms, fieldsOfAll, List.append_nil, List.mem_cons] at h
    rcases h with rfl | h
    · exact Or.inl List.mem_cons_self
    · exact (ih h).imp_left (List.mem_cons_of_mem first)

end Aggregation

theorem Builder.fields_sortClauses (b : Builder) :
    b.sortClauses.flatMap (List.map Prod.fst) = b.sorts.map SortKey.field := by
  rw [sortClauses, List.flatMap_map]
  exact (List.map_eq_flatMap ..).symm

/-! ### Requests -/

section Requests

variable {s : Schema} {b : Builder} {done : List FamilyKind}

theorem Builder.known_of_compile (hs : b.schema = some s) {root : BoolQuery Query}
    (h : b.compile done = .ok root) :
    ∀ field ∈ (Query.bool root).allFields, s.contains field = true := by
  rw [compile, check_bind_eq_ok_iff] at h
  obtain ⟨hvalid, hroot⟩ := h
  obtain ⟨hown, hgroups⟩ := validOn_schema hs hvalid
  exact allFields_of_compileUnchecked hroot hown hgroups

theorem Builder.known_of_searchRequest (hs : b.schema = some s) {r : SearchRequest}
    (h : b.searchRequest done = .ok r) : ∀ field ∈ r.fields, s.contains field = true := by
  rw [searchRequest, check_bind_eq_ok_iff] at h
  obtain ⟨hvalid, h⟩ := h
  obtain ⟨root, hroot, h⟩ := bind_eq_ok_iff.mp h
  obtain rfl := pure_eq_ok_iff.mp h
  obtain ⟨hclauses, hdirectives, -⟩ := validateSearch_eq_ok_iff.mp hvalid
  obtain ⟨hsorts, hgroupBy, hstats⟩ := directives_known hs hdirectives
  intro field hfield
  rw [SearchRequest.fields, fields_sortClauses, aggregations_eq_chain, List.mem_append,
    List.mem_append] at hfield
  rcases hfield with (hfield | hfield) | hfield
  · obtain ⟨hown, hgroups⟩ := validOn_schema hs hclauses
    exact allFields_of_compileUnchecked hroot hown hgroups field hfield
  · obtain ⟨key, hkey, rfl⟩ := List.mem_map.mp hfield
    exact hsorts key hkey
  · rcases Aggregation.fieldsOfAll_chain hfield with hfield | hfield
    · exact hgroupBy field hfield
    · exact hstats field hfield

theorem Index.fields_pageRequest {size : UInt64} {after : Option (List Json)} {r : SearchRequest}
    (h : pageRequest b done size after = .ok r) :
    ∃ whole, b.searchRequest done = .ok whole ∧ r.fields = whole.fields := by
  obtain ⟨whole, hwhole, rfl⟩ := map_eq_ok_iff.mp h
  exact ⟨whole, hwhole, rfl⟩

theorem Index.mem_fields_boundsRequest {field name : String} {q : Query} :
    name ∈ (boundsRequest field q).fields ↔ name ∈ q.allFields ∨ name = field := by
  simp [boundsRequest, SearchRequest.fields, Aggregation.fieldsOfAll, Aggregation.fields,
    Aggregation.ofMax, Aggregation.ofMin]

end Requests

/-! ### Operations -/

/-- The record of a run holds the call that the plan has prepared, or nothing. -/
theorem Plan.prepared_of_recorded {σ α : Type} {plan : Plan α} {engine : Engine σ} {index : String}
    {course : Course} {state : σ} {call : String × Request}
    (h : call ∈ (plan.run engine.recorded index course (state, [])).1.2) :
    ∃ exchange, plan.prepare course = .ok exchange ∧ call = (index, exchange.request) := by
  cases hprepare : plan.prepare course with
  | error e =>
    rw [run_of_rejected hprepare] at h
    cases h
  | ok exchange =>
    refine ⟨exchange, rfl, ?_⟩
    cases hfired : course.fired 0 with
    | true =>
      rw [run_of_fired hprepare hfired] at h
      cases h
    | false =>
      have hcalls : (plan.run engine.recorded index course (state, [])).1.2 =
          [(index, exchange.request)] := by
        simp only [run, hprepare, hfired, Bool.false_eq_true, if_false]
        cases course.interrupted with
        | true => rfl
        | false =>
          simp only [Bool.false_eq_true, if_false]
          split <;> rfl
      rw [hcalls] at h
      exact List.mem_singleton.mp h

namespace Index

section Prepared

variable {α : Type} {b : Builder} {s : Schema} {course : Course}

/-- All fields that a prepared call names are known. -/
def KnownCall {α : Type} (s : Schema) (prepared : Except Error (Exchange α)) : Prop :=
  ∀ exchange, prepared = .ok exchange →
    ∀ field ∈ exchange.request.fields, s.contains field = true

theorem knownCall_of_searchRequest (hs : b.schema = some s) {exchange : SearchRequest → Exchange α}
    (hfields : ∀ r, (exchange r).request.fields = r.fields) :
    KnownCall s (
      match b.searchRequest course.families with
      | .error e => .error (.validation e)
      | .ok request => .ok (exchange request)) := by
  intro made h
  obtain ⟨r, hr, rfl⟩ := exists_of_searchRequest h
  rw [hfields]
  exact Builder.known_of_searchRequest hs hr

/-- The fields of a call for a compiled query are known but for those that are added to it. -/
theorem known_of_onCompiled (hs : b.schema = some s) {exchange : Query → Exchange α}
    {made : Exchange α} (h : onCompiled b course exchange = .ok made) :
    ∃ q : Query, made = exchange q ∧ ∀ field ∈ q.allFields, s.contains field = true := by
  obtain ⟨root, hroot, rfl⟩ := exists_of_onCompiled h
  exact ⟨.bool root, rfl, Builder.known_of_compile hs hroot⟩

theorem knownCall_of_onCompiled (hs : b.schema = some s) {exchange : Query → Exchange α}
    (hfields : ∀ q, (exchange q).request.fields = q.allFields) :
    KnownCall s (onCompiled b course exchange) := by
  intro made h
  obtain ⟨q, rfl, hknown⟩ := known_of_onCompiled hs h
  rwa [hfields]

variable (ix : Index) (item : Json → Except DecodeError α)

theorem knownCall_get (hs : b.schema = some s) : KnownCall s ((ix.get item b).prepare course) :=
  knownCall_of_searchRequest hs fun _ => rfl

theorem knownCall_count (hs : b.schema = some s) : KnownCall s ((count b).prepare course) := by
  dsimp only [count]
  exact knownCall_of_onCompiled hs fun _ => rfl

theorem knownCall_aggregate (hs : b.schema = some s) :
    KnownCall s ((aggregate b).prepare course) := by
  dsimp only [aggregate]
  cases b.hasAggregations with
  | false =>
    intro exchange h
    cases h
  | true => exact knownCall_of_searchRequest hs fun _ => rfl

theorem knownCall_cursor (hs : b.schema = some s) (size : UInt64) (after : Option (List Json)) :
    KnownCall s ((ix.cursor item b size after).prepare course) := by
  intro exchange h
  dsimp only [cursor] at h
  split at h
  · cases h
  · split at h
    · cases h
    · next request hrequest =>
      obtain rfl := Except.ok.inj h
      obtain ⟨whole, hwhole, hfields⟩ := fields_pageRequest hrequest
      show ∀ field ∈ request.fields, s.contains field = true
      rw [hfields]
      exact Builder.known_of_searchRequest hs hwhole

theorem knownCall_execute (hs : b.schema = some s) (params : Named Json) :
    KnownCall s ((ix.execute b params).prepare course) := by
  dsimp only [execute]
  cases Script.ofParams params with
  | error e =>
    intro exchange h
    cases h
  | ok script => exact knownCall_of_onCompiled hs fun _ => rfl

theorem knownCall_destroy (hs : b.schema = some s) :
    KnownCall s ((ix.destroy b).prepare course) := by
  dsimp only [destroy]
  exact knownCall_of_onCompiled hs fun _ => rfl

/-- The one operation with a field that no schema is asked for. -/
theorem fields_minMax (hs : b.schema = some s) {field : String} {isDate : Bool}
    {exchange : Exchange Bounds} (h : (minMax b field isDate).prepare course = .ok exchange) :
    (∀ name ∈ exchange.request.fields, s.contains name = true ∨ name = field) ∧
      field ∈ exchange.request.fields := by
  dsimp only [minMax] at h
  obtain ⟨q, rfl, hknown⟩ := known_of_onCompiled hs h
  refine ⟨fun name hname => ?_, mem_fields_boundsRequest.mpr (Or.inr rfl)⟩
  exact (mem_fields_boundsRequest.mp hname).imp_left (hknown name)

end Prepared

variable {α : Type} {ix : Index} {t : Task α} {b : Builder} {s : Schema} {course : Course}

/-- The fields of a request that is made for a query with a schema: those that are known, and those
that the operation is given beside the query. -/
theorem fields_of_prepare (hb : t.builder? = some b) (hs : b.schema = some s)
    {exchange : Exchange t.Result} (h : (t.plan ix).prepare course = .ok exchange) :
    (∀ field ∈ exchange.request.fields, s.contains field = true ∨ field ∈ t.ownFields) ∧
      ∀ field ∈ t.ownFields, field ∈ exchange.request.fields := by
  have hknown (hcall : KnownCall s ((t.plan ix).prepare course)) (hown : t.ownFields = []) :
      (∀ field ∈ exchange.request.fields, s.contains field = true ∨ field ∈ t.ownFields) ∧
        ∀ field ∈ t.ownFields, field ∈ exchange.request.fields := by
    rw [hown]
    exact ⟨fun field hfield => Or.inl (hcall exchange h field hfield),
      fun field hfield => absurd hfield List.not_mem_nil⟩
  cases t with
  | find | insert | update | delete => cases hb
  | get item =>
    obtain rfl := Option.some.inj hb
    exact hknown (knownCall_get ix item hs) rfl
  | count =>
    obtain rfl := Option.some.inj hb
    exact hknown (knownCall_count hs) rfl
  | aggregate =>
    obtain rfl := Option.some.inj hb
    exact hknown (knownCall_aggregate hs) rfl
  | cursor item _ size after =>
    obtain rfl := Option.some.inj hb
    exact hknown (knownCall_cursor ix item hs size after) rfl
  | execute _ params =>
    obtain rfl := Option.some.inj hb
    exact hknown (knownCall_execute ix hs params) rfl
  | destroy =>
    obtain rfl := Option.some.inj hb
    exact hknown (knownCall_destroy ix hs) rfl
  | minMax _ field isDate =>
    obtain rfl := Option.some.inj hb
    obtain ⟨hfields, hmem⟩ := fields_minMax hs h
    exact ⟨fun name hname => (hfields name hname).imp_right List.mem_singleton.mpr,
      List.forall_mem_singleton.mpr hmem⟩

/-- **A schema bounds every request but for the field of bounds.** For every operation on a query
with a schema, with any arguments, engine, state and course of the run: whatever call the engine is
sent, each field in its query, also inside nested queries, in its sort order and in its
aggregations is one that the schema knows or one that the operation was given beside the query.
Those are named in the call, and there is one for the least and greatest value only. So all fields
are known exactly when that one is. -/
theorem run_fields_known_iff {σ α : Type} (ix : Index) (t : Task α) {b : Builder} {s : Schema}
    (hb : t.builder? = some b) (hs : b.schema = some s) (engine : Engine σ) (course : Course)
    (state : σ) :
    ∀ call ∈ ((t.plan ix).run engine.recorded ix.name course (state, [])).1.2,
      (∀ field ∈ call.2.fields, s.contains field = true ∨ field ∈ t.ownFields) ∧
      ((∀ field ∈ call.2.fields, s.contains field = true) ↔
        ∀ field ∈ t.ownFields, s.contains field = true) := by
  intro call hcall
  obtain ⟨exchange, hprepare, rfl⟩ := Plan.prepared_of_recorded hcall
  obtain ⟨hfields, hown⟩ := fields_of_prepare hb hs hprepare
  refine ⟨hfields, fun hknown field hfield => hknown field (hown field hfield), ?_⟩
  intro hknown field hfield
  exact (hfields field hfield).elim id (hknown field)

/-- A query with conditions inside and outside of groups, a sort order and a schema. -/
def knownQuery : Builder :=
  ({ schema := some (.ofNames ["id", "price", "ratings.stars"]) } : Builder).applyAll [
    .clause (.where_ ⟨"price", ">", .int 10⟩),
    .nestedClause (.filter ⟨"ratings.stars", ">=", .int 3⟩),
    .orderBy ⟨"id", true, none⟩]

theorem run_knownQuery_fields :
    ∃ call, (((Task.get .ok knownQuery : Task Json).plan ⟨"models", {}, true⟩).run
        (Engine.recorded Corpus.engine) "models" {} ({}, [])).1.2 = [call] ∧
      call.2.fields = ["price", "ratings.stars", "id"] ∧
      ∀ field ∈ call.2.fields,
        (Schema.ofNames ["id", "price", "ratings.stars"]).contains field = true := by
  have hrun : ∃ call, (((Task.get .ok knownQuery : Task Json).plan ⟨"models", {}, true⟩).run
        (Engine.recorded Corpus.engine) "models" {} ({}, [])).1.2 = [call] ∧
      call.2.fields = ["price", "ratings.stars", "id"] := ⟨_, by rfl, by rfl⟩
  obtain ⟨call, hcall, hfields⟩ := hrun
  obtain ⟨-, hknown⟩ := run_fields_known_iff ⟨"models", {}, true⟩
    (Task.get .ok knownQuery : Task Json) rfl rfl Corpus.engine {} {} call
    (by rw [hcall]; exact List.mem_singleton_self call)
  exact ⟨call, hcall, hfields, hknown.mpr fun field hfield => absurd hfield List.not_mem_nil⟩

/-- The bounds of a field that the schema does not know are asked for all the same. -/
theorem run_minMax_unknown :
    ∃ call, (((Task.minMax { schema := some (.ofNames ["id"]) } "secret" false : Task Json).plan
        ⟨"models", {}, true⟩).run (Engine.recorded Corpus.engine) "models" {} ({}, [])).1.2 =
          [call] ∧
      "secret" ∈ call.2.fields ∧ (Schema.ofNames ["id"]).contains "secret" = false :=
  ⟨_, by rfl, by decide, by decide⟩

end Index

end DocSearch
