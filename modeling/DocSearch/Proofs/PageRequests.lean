import DocSearch.Proofs.RoundTrips
import DocSearch.Proofs.KnownFields
import DocSearch.Proofs.Scan

/-!
# Requests for pages

A page is asked for with the request of the query, in which the size and the place are put over what
the query says and the offset is dropped. The size is checked as an unsigned word, against a bound
that may be any word, but goes out as a signed one. So it arrives below half of the range of words
and is negative from there on, which only a bound beyond that half lets through. The limit and the
offset of a query are signed from the start, and what has passed the checks has a sensible sign.
-/

namespace DocSearch

/-! ### Sizes and offsets -/

/-- At least one document is asked for, and none is left out that does not exist. -/
structure SearchRequest.Sensible (r : SearchRequest) : Prop where
  size : ∀ n ∈ r.size, 0 < n
  offset : ∀ n ∈ r.offset, 0 ≤ n

/-- A request is another one for the page of a size after a place. -/
structure SearchRequest.IsPageOf (r whole : SearchRequest) (size : UInt64)
    (after : Option (List Json)) : Prop where
  query : r.query = whole.query
  sort : r.sort = whole.sort
  aggs : r.aggs = whole.aggs
  size : r.size = some size.toInt64
  offset : r.offset = none
  searchAfter : r.searchAfter = after

section Words

variable {size : UInt64}

theorem toInt_toInt64_eq_iff : size.toInt64.toInt = size.toNat ↔ size.toNat < Nat.pow 2 63 := by
  have hrange : Nat.pow 2 64 = 18446744073709551616 := rfl
  rw [toInt_toInt64]
  split
  · next hfits => exact iff_of_true rfl hfits
  · next hfits => exact iff_of_false (by omega) hfits

theorem toInt64_pos_iff (hsize : 0 < size.toNat) :
    0 < size.toInt64 ↔ size.toNat < Nat.pow 2 63 := by
  have hrange : Nat.pow 2 64 = 18446744073709551616 := rfl
  have hword : size.toNat < 18446744073709551616 := size.toNat_lt
  rw [Int64.lt_iff_toInt_lt, toInt_toInt64, Int64.toInt_zero]
  split
  · next hfits => exact iff_of_true (Int.natCast_pos.mpr hsize) hfits
  · next hfits => exact iff_of_false (by omega) hfits

end Words

namespace Builder

variable {b : Builder}

theorem sensible_of_searchRequest {done : List FamilyKind} {r : SearchRequest}
    (h : b.searchRequest done = .ok r) : r.Sensible := by
  obtain ⟨hvalid, -, hsize, hoffset⟩ := accepted_of_searchRequest h
  obtain ⟨-, -, hlimit, hnonneg⟩ := validateSearch_eq_ok_iff.mp hvalid
  refine ⟨?_, ?_⟩
  · rw [hsize]
    exact validateLimit_eq_ok_iff.mp hlimit
  · rw [hoffset]
    exact validateOffset_eq_ok_iff.mp hnonneg

end Builder

/-! ### Calls -/

/-- The calls that the engine is sent by a run of an operation. -/
def Task.calls {σ α : Type} (ix : Index) (t : Task α) (engine : Engine σ) (course : Course)
    (state : σ) : List (String × Request) :=
  ((t.plan ix).run engine.recorded ix.name course (state, [])).1.2

namespace Index

section Prepared

variable {α : Type} {ix : Index} {item : Json → Except DecodeError α} {b : Builder}
  {course : Course} {size : UInt64} {after : Option (List Json)}

theorem size_of_checkPage (h : ix.checkPage b size = .ok ()) :
    0 < size.toNat ∧ size.toNat ≤ ix.config.cursorLimit.toNat := by
  rw [checkPage] at h
  split at h
  · cases h
  · next hwithin =>
    obtain ⟨hzero, hlimit⟩ := not_or.mp hwithin
    refine ⟨Nat.pos_of_ne_zero fun hsize => hzero ?_, UInt64.le_iff_toNat_le.mp ?_⟩
    · exact UInt64.toNat_inj.mp hsize
    · exact UInt64.not_lt.mp hlimit

theorem isPageOf_of_pageRequest {done : List FamilyKind} {r : SearchRequest}
    (h : pageRequest b done size after = .ok r) :
    ∃ whole, b.searchRequest done = .ok whole ∧ r.IsPageOf whole size after := by
  obtain ⟨whole, hwhole, rfl⟩ := map_eq_ok_iff.mp h
  exact ⟨whole, hwhole, rfl, rfl, rfl, rfl, rfl, rfl⟩

theorem exists_of_prepare_cursor {exchange : Exchange (CursorPage α)}
    (h : (ix.cursor item b size after).prepare course = .ok exchange) :
    ix.checkPage b size = .ok () ∧ ∃ r whole, exchange.request = .search r ∧
      b.searchRequest course.families = .ok whole ∧ r.IsPageOf whole size after := by
  dsimp only [cursor] at h
  split at h
  · cases h
  · next hpage =>
    split at h
    · cases h
    · next r hrequest =>
      obtain rfl := Except.ok.inj h
      obtain ⟨whole, hwhole, hr⟩ := isPageOf_of_pageRequest hrequest
      exact ⟨hpage, r, whole, rfl, hwhole, hr⟩

theorem exists_of_prepare_get {exchange : Exchange (List α)}
    (h : (ix.get item b).prepare course = .ok exchange) :
    ∃ r, exchange.request = .search r ∧ b.searchRequest course.families = .ok r := by
  obtain ⟨r, hr, rfl⟩ := exists_of_searchRequest h
  exact ⟨r, rfl, hr⟩

theorem exists_of_prepare_aggregate {exchange : Exchange AggregateOutput}
    (h : (aggregate b).prepare course = .ok exchange) :
    ∃ r, exchange.request = .search r ∧ b.searchRequest course.families = .ok r := by
  dsimp only [aggregate] at h
  split at h
  · cases h
  · obtain ⟨r, hr, rfl⟩ := exists_of_searchRequest h
    exact ⟨r, rfl, hr⟩

end Prepared

/-- A page's request is sensible if the size has arrived. -/
theorem sensible_iff_of_isPageOf {r whole : SearchRequest} {size : UInt64}
    {after : Option (List Json)} (h : r.IsPageOf whole size after) (hsize : 0 < size.toNat) :
    r.Sensible ↔ size.toNat < Nat.pow 2 63 := by
  rw [← toInt64_pos_iff hsize]
  constructor
  · exact fun hsensible => hsensible.size _ h.size
  · intro hpositive
    refine ⟨fun n hn => ?_, fun n hn => ?_⟩
    · obtain rfl := Option.some.inj (h.size.symm.trans hn)
      exact hpositive
    · rw [h.offset] at hn
      cases hn

/-- **A page is asked for as it is below half of the range of words, and only there.** For every
index, with any bound for the size of a page, every query, size and place, and every engine, state
and course of the run: a call for a page goes to the index with the query, the sort order and the
aggregations of the request of the whole query, without an offset and with the place as it is given.
The size has passed its check, but it arrives as it is exactly if it is below half of the range of
words, and from there on it is negative. In a call for documents or for aggregations the request is
that of the query, whose size is absent or positive and whose offset is absent or not negative. A
query is an argument of a run and no part of the state that the run leads to, so all calls that are
ever made for it have the same request of the whole query. -/
theorem cursor_calls_faithful_iff {σ α : Type} (ix : Index) (item : Json → Except DecodeError α)
    (b : Builder) (size : UInt64) (after : Option (List Json)) (engine : Engine σ)
    (course : Course) (state : σ) :
    (∀ call ∈ (Task.cursor item b size after).calls ix engine course state,
      ∃ r whole, call = (ix.name, .search r) ∧
        (∀ done, b.searchRequest done = .ok whole) ∧ r.IsPageOf whole size after ∧
        (0 < size.toNat ∧ size.toNat ≤ ix.config.cursorLimit.toNat) ∧
        (size.toInt64.toInt = size.toNat ↔ size.toNat < Nat.pow 2 63) ∧
        (r.Sensible ↔ size.toNat < Nat.pow 2 63)) ∧
    ∀ call, call ∈ (Task.get item b).calls ix engine course state ∨
        call ∈ (Task.aggregate b : Task α).calls ix engine course state →
      ∃ whole, call = (ix.name, .search whole) ∧
        (∀ done, b.searchRequest done = .ok whole) ∧ whole.Sensible := by
  have hsame {r : SearchRequest} (h : b.searchRequest course.families = .ok r) :
      ∀ done, b.searchRequest done = .ok r := (Builder.accepted_of_searchRequest h).2.1
  refine ⟨fun call hcall => ?_, fun call hcall => ?_⟩
  · obtain ⟨exchange, hprepare, rfl⟩ := Plan.prepared_of_recorded hcall
    obtain ⟨hpage, r, whole, hr, hwhole, hof⟩ := exists_of_prepare_cursor hprepare
    have hsize := size_of_checkPage hpage
    exact ⟨r, whole, by rw [hr], hsame hwhole, hof, hsize, toInt_toInt64_eq_iff,
      sensible_iff_of_isPageOf hof hsize.1⟩
  · have hmade : ∃ r, call = (ix.name, .search r) ∧
        b.searchRequest course.families = .ok r := by
      rcases hcall with hcall | hcall
      · obtain ⟨exchange, hprepare, rfl⟩ := Plan.prepared_of_recorded hcall
        obtain ⟨r, hr, hrequest⟩ := exists_of_prepare_get hprepare
        exact ⟨r, by rw [hr], hrequest⟩
      · obtain ⟨exchange, hprepare, rfl⟩ := Plan.prepared_of_recorded hcall
        obtain ⟨r, hr, hrequest⟩ := exists_of_prepare_aggregate hprepare
        exact ⟨r, by rw [hr], hrequest⟩
    obtain ⟨r, rfl, hrequest⟩ := hmade
    exact ⟨r, rfl, hsame hrequest, Builder.sensible_of_searchRequest hrequest⟩

/-- An index where pages may have any size. -/
def unboundedIndex : Index := ⟨"models", { cursorLimit := 18446744073709551615 }, true⟩

/-- Half of the range of words is asked for as the least signed word, and the page that comes back
is empty although there are documents. -/
theorem cursor_calls_half_range :
    ∃ r, (Task.cursor .ok { sorts := [⟨"a", true, none⟩] } 9223372036854775808 none :
          Task Json).calls unboundedIndex Corpus.engine {} (Corpus.ofDocs [.object []]) =
            [("models", .search r)] ∧
      r.size = some Int64.minValue ∧ ¬ r.Sensible ∧
      ((unboundedIndex.cursor .ok { sorts := [⟨"a", true, none⟩] } 9223372036854775808 none).run
        Corpus.engine "models" {} (Corpus.ofDocs [.object []])).2 = .ok ⟨[], none⟩ := by
  refine ⟨_, rfl, rfl, fun hsensible => ?_, rfl⟩
  exact absurd (hsensible.size Int64.minValue rfl) (by decide)

end Index

end DocSearch
