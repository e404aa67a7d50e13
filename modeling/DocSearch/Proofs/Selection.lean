import DocSearch.Proofs.Named
import DocSearch.Proofs.Scan
import Mathlib.Data.List.Forall2

/-!
# The selection of a query

Operations that count, fetch, change and remove compile the same conditions to the same query, each
on a way of its own. So against one engine they speak of the same documents: what a removal takes
away is what a count before it counts and a fetch before it shows.
-/

namespace DocSearch

/-! ### Runs that nothing stops -/

section Plans

variable {σ α : Type} {plan : Plan α} {engine : Engine σ} {index : String} {course : Course}
  {state state' : σ} {b : Builder} {root : BoolQuery Query}

theorem Plan.run_of_unhindered {exchange : Exchange α} {reply : exchange.request.Reply}
    (h : plan.prepare course = .ok exchange) (hcourse : course.Unhindered)
    (hanswer : engine state index exchange.request = (state', .ok reply)) :
    plan.run engine index course state = (state', exchange.finish course reply) :=
  run_of_answered h (hcourse.2 0) (Course.interrupted_eq_false hcourse.2) hanswer

theorem Plan.run_of_onCompiled {exchange : Query → Exchange α}
    {reply : (exchange (.bool root)).request.Reply}
    (h : plan.prepare course = onCompiled b course exchange)
    (hroot : ∀ done, b.compile done = .ok root) (hcourse : course.Unhindered)
    (hanswer : engine state index (exchange (.bool root)).request = (state', .ok reply)) :
    plan.run engine index course state =
      (state', (exchange (.bool root)).finish course reply) := by
  rw [onCompiled, hroot] at h
  exact run_of_unhindered h hcourse hanswer

end Plans

section Runs

variable (ix : Index) {b : Builder} {c : Corpus} {course : Course} {root : BoolQuery Query}

/-! ### Counting and removing -/

theorem run_count (hroot : ∀ done, b.compile done = .ok root) (hcourse : course.Unhindered)
    (index : String) : (Index.count b).run Corpus.engine index course c =
      ({ c with calls := c.calls + 1 }, .ok (UInt64.ofNat (c.selected (.bool root)).length)) := by
  have hprepare : (Index.count b).prepare course = onCompiled b course fun query =>
      { request := .count query, finish := fun _ (reply : UInt64) => .ok reply } := rfl
  exact Plan.run_of_onCompiled hprepare hroot hcourse rfl

theorem run_destroy (hroot : ∀ done, b.compile done = .ok root) (hcourse : course.Unhindered)
    (index : String) :
    ∃ c' reply, (ix.destroy b).run Corpus.engine index course c = (c', .ok reply) ∧
      reply.deleted = UInt64.ofNat (c.selected (.bool root)).length ∧
      c'.docs = c.docs.filter fun d => !(Query.bool root).selects d.2 := by
  have hprepare : (ix.destroy b).prepare course = onCompiled b course fun query =>
      { request := .deleteByQuery ⟨query, none⟩ ix.refresh
        finish := fun _ (reply : WriteByQueryResponse) => .ok reply } := rfl
  exact ⟨_, _, Plan.run_of_onCompiled hprepare hroot hcourse rfl, rfl, rfl⟩

theorem selected_of_removed {c' : Corpus} {query : Query}
    (h : c'.docs = c.docs.filter fun d => !query.selects d.2) : c'.selected query = [] := by
  rw [Corpus.selected, h, List.filter_filter]
  simp

/-! ### Fetching -/

/-- A query with the conditions and the schema of another, and a limit as its only directive. -/
def Builder.onlyLimit (b : Builder) (n : Int64) : Builder :=
  { clauses := b.clauses, nested := b.nested, schema := b.schema, limit := some n }

theorem Builder.validateSearch_onlyLimit (h : b.validateClauses = .ok ()) {n : Int64}
    (hn : 0 < n.toInt) : (b.onlyLimit n).validateSearch = .ok () := by
  exact validateSearch_eq_ok_iff.mpr ⟨h, rfl, validateLimit_of_pos rfl hn, rfl⟩

theorem hits_unsorted {r : SearchRequest} (hsort : r.sort = []) (hoffset : r.offset = none)
    (hafter : r.searchAfter = none) {n : Int64} (hsize : r.size = some n) :
    (c.search r).hits.hits = ((c.selected r.query).take n.toInt.toNat).map (Corpus.hit []) := by
  simp [Corpus.search, Corpus.ranked, hsort, hoffset, hafter, hsize]

theorem run_get_onlyLimit (haccepted : b.validateClauses = .ok ())
    (hroot : ∀ done, b.compile done = .ok root) (hcourse : course.Unhindered)
    (hlive : c.failing = false) {n : Int64} (hn : 0 < n.toInt)
    (hall : (c.selected (.bool root)).length ≤ n.toInt.toNat) (index : String) :
    (ix.get (fun j => .ok j) (b.onlyLimit n)).run Corpus.engine index course c =
      ({ c with calls := c.calls + 1 }, .ok ((c.selected (.bool root)).map Prod.snd)) := by
  have hunchecked : (b.onlyLimit n).compileUnchecked course.families = .ok root :=
    (Builder.compile_of_validate_eq_ok haccepted _).symm.trans (hroot _)
  have hrequest := Builder.searchRequest_of_compileUnchecked
    (Builder.validateSearch_onlyLimit haccepted hn) hunchecked
  have hprepare : (ix.get (fun j => .ok j) (b.onlyLimit n)).prepare course = .ok
      { request := .search { query := .bool root, size := some n }
        finish := fun course (reply : SearchResponse) =>
          extractSources course (course.waits + 1) ix.batch (fun j => .ok j) reply.hits.hits } := by
    dsimp only [Index.get]
    rw [hrequest]
    rfl
  rw [Plan.run_of_unhindered hprepare hcourse (Corpus.engine_search hlive index)]
  dsimp only
  rw [extractSources_raw hcourse, hits_unsorted rfl rfl rfl rfl, List.take_of_length_le hall,
    List.map_map]
  rfl

/-! ### Changing -/

/-- A document after members were given values: it has these members with these values, and all
others as before. -/
def Json.Assigned (params : Named Json) (doc doc' : Json) : Prop :=
  ∃ members members' : Named Json, doc = .object members ∧ doc' = .object members' ∧
    (∀ name, members'.get? name = (params.get? name).or (members.get? name)) ∧
    (members.Ascending → members'.Ascending)

theorem assigned_merge {params : Named Json} (hparams : params.names.Nodup) (members : Named Json) :
    (Json.object members).Assigned params (Corpus.merge (.object members) (.object params)) := by
  refine ⟨members, _, rfl, rfl, fun name => ?_, Named.Ascending.foldl_insert⟩
  exact Named.lookup_foldl_insert hparams

/-- A document that a query selects has members assigned, any other stays as it is. -/
def AssignedIf (query : Query) (params : Named Json) (d d' : String × Json) : Prop :=
  if query.selects d.2 = true then d'.1 = d.1 ∧ Json.Assigned params d.2 d'.2 else d' = d

theorem Script.params_of_ofParams {params : Named Json} {script : Script}
    (h : Script.ofParams params = .ok script) : script.params = params := by
  unfold Script.ofParams at h
  split at h
  · cases h
  · cases hsource : Script.assignments params.names with
    | error e =>
      rw [hsource] at h
      cases h
    | ok source =>
      rw [hsource] at h
      obtain rfl := Except.ok.inj h
      rfl

theorem run_execute (hroot : ∀ done, b.compile done = .ok root)
    (hobjects : ∀ d ∈ c.docs, ∃ members, d.2 = .object members) (hcourse : course.Unhindered)
    {params : Named Json} (hparams : params.names.Nodup) {script : Script}
    (hscript : Script.ofParams params = .ok script) (index : String) :
    ∃ c' reply, (ix.execute b params).run Corpus.engine index course c = (c', .ok reply) ∧
      reply.updated = UInt64.ofNat (c.selected (.bool root)).length ∧
      List.Forall₂ (AssignedIf (.bool root) params) c.docs c'.docs := by
  have hprepare : (ix.execute b params).prepare course = onCompiled b course fun query =>
      { request := .updateByQuery ⟨query, some script⟩ ix.refresh
        finish := fun _ (reply : WriteByQueryResponse) => .ok reply } := by
    dsimp only [Index.execute]
    rw [hscript]
  obtain rfl := Script.params_of_ofParams hscript
  refine ⟨_, _, Plan.run_of_onCompiled hprepare hroot hcourse rfl, rfl, ?_⟩
  refine List.forall₂_map_right_iff.mpr (List.forall₂_same.mpr fun d hd => ?_)
  rw [AssignedIf]
  by_cases hselects : (Query.bool root).selects d.2 = true
  · obtain ⟨members, hmembers⟩ := hobjects d hd
    rw [if_pos hselects, if_pos hselects, hmembers]
    exact ⟨rfl, assigned_merge hparams members⟩
  · rw [if_neg hselects, if_neg hselects]

end Runs

namespace Index

/-- **Counting, fetching, changing and removing agree on what a query selects.** For every corpus of
objects and every query whose conditions pass the checks, whatever its directives are: the count is
the number of the documents that the compiled conditions select. With a limit as the only directive,
which is that number or one if there are none, a fetch returns these documents. Every change with
parameters that a script accepts reports as many, gives them the members of the parameters and
leaves all other members and documents as they are. A removal reports as many and leaves the others
in their order, and then the count is zero. -/
theorem selection_agrees (ix : Index) (b : Builder) (c : Corpus)
    (haccepted : b.validateClauses = .ok ())
    (hobjects : ∀ d ∈ c.docs, ∃ members, d.2 = .object members) :
    ∃ root, (∀ done, b.compile done = .ok root) ∧
      ∀ course : Course, course.Unhindered →
        ((count b).run Corpus.engine ix.name course c).2 =
          .ok (UInt64.ofNat (c.selected (.bool root)).length) ∧
        (c.failing = false →
          ∀ n : Int64, n.toInt = max (c.selected (.bool root)).length 1 →
            ((ix.get (fun j => .ok j) (b.onlyLimit n)).run Corpus.engine ix.name course c).2 =
              .ok ((c.selected (.bool root)).map Prod.snd)) ∧
        (∀ (params : Named Json) (script : Script), params.names.Nodup →
          Script.ofParams params = .ok script →
            ∃ c' reply,
              (ix.execute b params).run Corpus.engine ix.name course c = (c', .ok reply) ∧
              reply.updated = UInt64.ofNat (c.selected (.bool root)).length ∧
              List.Forall₂ (AssignedIf (.bool root) params) c.docs c'.docs) ∧
        ∃ c' reply, (ix.destroy b).run Corpus.engine ix.name course c = (c', .ok reply) ∧
          reply.deleted = UInt64.ofNat (c.selected (.bool root)).length ∧
          (c'.docs = c.docs.filter fun d => !(Query.bool root).selects d.2) ∧
          ∀ later : Course, later.Unhindered →
            ((count b).run Corpus.engine ix.name later c').2 = .ok 0 := by
  obtain ⟨contribution, -, hcompiled⟩ := Builder.compile_isOk haccepted
  have hroot := fun done => (hcompiled done).2
  refine ⟨_, hroot, fun course hcourse => ⟨?count, ?get, ?execute, ?destroy⟩⟩
  case count => rw [run_count hroot hcourse]
  case get =>
    intro hlive n hn
    rw [run_get_onlyLimit ix haccepted hroot hcourse hlive (by omega) (by omega)]
  case execute =>
    intro params script hparams hscript
    exact run_execute ix hroot hobjects hcourse hparams hscript ix.name
  case destroy =>
    obtain ⟨c', reply, hrun, hdeleted, hdocs⟩ := run_destroy ix hroot hcourse ix.name
    refine ⟨c', reply, hrun, hdeleted, hdocs, fun later hlater => ?_⟩
    rw [run_count hroot hlater, selected_of_removed hdocs]
    rfl

def finalPaper : Json := .object [("pages", .int 7), ("state", .string "final")]

def draftPaper : Json := .object [("pages", .int 3), ("state", .string "draft")]

def papers : Corpus := .ofDocs [finalPaper, draftPaper]

/-- The drafts, with a limit that a search rejects. -/
def drafts : Builder :=
  ({} : Builder).applyAll [.clause (.where_ ⟨"state", "=", .text "draft"⟩), .limit (-1)]

theorem selection_agrees_on_drafts :
    drafts.validateClauses = .ok () ∧ (∀ d ∈ papers.docs, ∃ members, d.2 = .object members) ∧
      ((count drafts).run Corpus.engine "i" {} papers).2 = .ok 1 ∧
      ((({ name := "i" } : Index).get (fun j => .ok j) (drafts.onlyLimit 1)).run Corpus.engine "i"
        {} papers).2 = .ok [draftPaper] ∧
      (∃ c' reply, (({ name := "i" } : Index).execute drafts [("state", .string "final")]).run
        Corpus.engine "i" {} papers = (c', .ok reply) ∧ reply.updated = 1) ∧
      ∃ c' reply, (({ name := "i" } : Index).destroy drafts).run Corpus.engine "i" {} papers =
        (c', .ok reply) ∧ reply.deleted = 1 ∧ c'.docs = [("0", finalPaper)] := by
  have haccepted : drafts.validateClauses = .ok () := by rfl
  have hobjects : ∀ d ∈ papers.docs, ∃ members, d.2 = .object members := by
    intro d hd
    have hd' : d ∈ [("0", finalPaper), ("1", draftPaper)] := hd
    rcases List.mem_pair.mp hd' with rfl | rfl <;> exact ⟨_, rfl⟩
  obtain ⟨root, hcompiled, hagree⟩ :=
    selection_agrees { name := "i" } drafts papers haccepted hobjects
  obtain rfl := Except.ok.inj ((hcompiled []).symm.trans rfl)
  have hcourse : ({} : Course).Unhindered := ⟨fun n => List.Perm.refl _, fun _ => rfl⟩
  obtain ⟨hcount, hget, hexecute, c', reply, hrun, hdeleted, hdocs, -⟩ := hagree {} hcourse
  obtain ⟨c'', reply', hrun', hupdated, -⟩ :=
    hexecute [("state", .string "final")] _ (by decide) rfl
  exact ⟨haccepted, hobjects, hcount, hget rfl 1 rfl, ⟨c'', reply', hrun', hupdated⟩,
    c', reply, hrun, hdeleted, hdocs⟩

end Index

end DocSearch
