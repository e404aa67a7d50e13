import DocSearch.Corpus.Store
import DocSearch.Index
import DocSearch.Proofs.Families

/-!
# Requests and runs

What passes the checks of a search has a request, which is the same in every schedule. A run that
has a request comes to one of four ends: the token has fired before the call or during it, the
engine fails, or it answers.
-/

namespace DocSearch

namespace Builder

variable {b : Builder}

theorem validateSearch_eq_ok_iff : b.validateSearch = .ok () ↔
    b.validateClauses = .ok () ∧ b.validateDirectives = .ok () ∧ b.validateLimit = .ok () ∧
      b.validateOffset = .ok () := by
  rw [validateSearch, check_bind_eq_ok_iff, check_bind_eq_ok_iff, check_bind_eq_ok_iff]

theorem validateLimit_eq_ok_iff : b.validateLimit = .ok () ↔ ∀ n ∈ b.limit, 0 < n := by
  rw [validateLimit]
  cases b.limit with
  | none => simp
  | some n => by_cases hn : n ≤ 0 <;> simp [hn, ← Int64.not_le]

theorem validateOffset_eq_ok_iff : b.validateOffset = .ok () ↔ ∀ n ∈ b.offset, 0 ≤ n := by
  rw [validateOffset]
  cases b.offset with
  | none => simp
  | some n => by_cases hn : n < 0 <;> simp [hn, ← Int64.not_lt]

theorem searchRequest_of_compileUnchecked (h : b.validateSearch = .ok ())
    {root : BoolQuery Query} {done : List FamilyKind} (hroot : b.compileUnchecked done = .ok root) :
    b.searchRequest done = .ok {
      query := .bool root, offset := b.offset, size := b.limit, sort := b.sortClauses,
      aggs := b.aggregations } := by
  rw [searchRequest, h, ok_bind, hroot, ok_bind]
  rfl

theorem searchRequest_of_validate_eq_error {e : ValidationError} (h : b.validateSearch = .error e)
    (done : List FamilyKind) : b.searchRequest done = .error e := by
  rw [searchRequest, h, error_bind]

theorem searchRequest_isOk (h : b.validateSearch = .ok ()) :
    ∃ root, (∀ done, b.compile done = .ok root) ∧ ∀ done, b.searchRequest done = .ok {
      query := .bool root, offset := b.offset, size := b.limit, sort := b.sortClauses,
      aggs := b.aggregations } := by
  obtain ⟨contribution, -, hcompiled⟩ := compile_isOk (validateSearch_eq_ok_iff.mp h).1
  exact ⟨_, fun done => (hcompiled done).2,
    fun done => searchRequest_of_compileUnchecked h (hcompiled done).1⟩

/-- A request that is made in one schedule is made in all, and its size and its offset are those of
the query. -/
theorem accepted_of_searchRequest {done : List FamilyKind} {r : SearchRequest}
    (h : b.searchRequest done = .ok r) :
    b.validateSearch = .ok () ∧ (∀ done', b.searchRequest done' = .ok r) ∧
      r.size = b.limit ∧ r.offset = b.offset := by
  have hvalid : b.validateSearch = .ok () := by
    rw [searchRequest, check_bind_eq_ok_iff] at h
    exact h.1
  obtain ⟨root, -, hrequest⟩ := searchRequest_isOk hvalid
  obtain rfl := Except.ok.inj ((hrequest done).symm.trans h)
  exact ⟨hvalid, hrequest, rfl, rfl⟩

end Builder

section Made

variable {α : Type} {b : Builder} {course : Course} {made : Exchange α}

theorem exists_of_onCompiled {exchange : Query → Exchange α}
    (h : onCompiled b course exchange = .ok made) :
    ∃ root, b.compile course.families = .ok root ∧ made = exchange (.bool root) := by
  unfold onCompiled at h
  split at h
  · cases h
  · next root hroot => exact ⟨root, hroot, (Except.ok.inj h).symm⟩

theorem exists_of_searchRequest {exchange : SearchRequest → Exchange α}
    (h : (match b.searchRequest course.families with
      | .error e => .error (.validation e)
      | .ok request => .ok (exchange request) : Except Error (Exchange α)) = .ok made) :
    ∃ r, b.searchRequest course.families = .ok r ∧ made = exchange r := by
  split at h
  · cases h
  · next r hr => exact ⟨r, hr, (Except.ok.inj h).symm⟩

end Made

theorem Course.interrupted_eq_false {course : Course} (h : ∀ look, course.fired look = false) :
    course.interrupted = false := by
  simp [Course.interrupted, h]

namespace Plan

variable {σ α : Type} {plan : Plan α} {engine : Engine σ} {index : String} {course : Course}
  {state : σ} {exchange : Exchange α}

theorem run_of_rejected {e : Error} (h : plan.prepare course = .error e) :
    plan.run engine index course state = (state, .error e) := by
  rw [run, h]

theorem run_of_fired (h : plan.prepare course = .ok exchange) (hfired : course.fired 0 = true) :
    plan.run engine index course state = (state, .error .cancelled) := by
  rw [run, h]
  simp only [hfired, if_true]

theorem run_of_interrupted (h : plan.prepare course = .ok exchange)
    (hfired : course.fired 0 = false) (hinterrupted : course.interrupted = true) {state' : σ}
    {answer : Except EngineError exchange.request.Reply}
    (hanswer : engine state index exchange.request = (state', answer)) :
    plan.run engine index course state = (state', .error .cancelled) := by
  rw [run, h]
  simp only [hfired, hinterrupted, hanswer, Bool.false_eq_true, if_false, if_true]

theorem run_of_failed (h : plan.prepare course = .ok exchange) (hfired : course.fired 0 = false)
    (hinterrupted : course.interrupted = false) {state' : σ} {e : EngineError}
    (hanswer : engine state index exchange.request = (state', .error e)) :
    plan.run engine index course state = (state', .error (.engine plan.operation e)) := by
  rw [run, h]
  simp only [hfired, hinterrupted, hanswer, Bool.false_eq_true, if_false]

theorem run_of_answered (h : plan.prepare course = .ok exchange) (hfired : course.fired 0 = false)
    (hinterrupted : course.interrupted = false) {state' : σ} {reply : exchange.request.Reply}
    (hanswer : engine state index exchange.request = (state', .ok reply)) :
    plan.run engine index course state = (state', exchange.finish course reply) := by
  rw [run, h]
  simp only [hfired, hinterrupted, hanswer, Bool.false_eq_true, if_false]

end Plan

/-- The corpus answers a search unless searches are to fail. -/
theorem Corpus.engine_search {c : Corpus} {r : SearchRequest} (hlive : c.failing = false)
    (index : String) :
    Corpus.engine c index (.search r) = ({ c with calls := c.calls + 1 }, .ok (c.search r)) := by
  simp only [Corpus.engine, hlive, Bool.false_eq_true, if_false]
  rfl

end DocSearch
