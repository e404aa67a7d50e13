import DocSearch.Proofs.Chunks
import DocSearch.Proofs.Pages
import DocSearch.Proofs.Requests

/-!
# Scans

A scan asks for page after page, each from the place where the one before ended. Against an engine
that stays live it goes through what remains, which gets shorter by a full page with each call.
-/

namespace DocSearch

/-! ### The run of a scan -/

section Run

/-- In every live state a page after a place is that of the documents beyond it, and the state stays
live. -/
def Serves {σ : Type} (page : σ → Option (List Json) → σ × Except Error (CursorPage Json))
    (Live : σ → Prop) (order : List SortClause) (k : Nat) (sorted : List (String × Json)) : Prop :=
  ∀ state, Live state → ∀ after, ∃ state', Live state' ∧
    page state after = (state', .ok (pageOf order k (beyond order after sorted)))

variable {order : List SortClause} {size : UInt64} {sorted rest : List (String × Json)}

section Step

variable {σ : Type} {page : σ → Option (List Json) → σ × Except Error (CursorPage Json)}
  {Live : σ → Prop} {state : σ} {after : Option (List Json)}

theorem scan_of_exhausted (hserves : Serves page Live order size.toNat sorted)
    (hrest : beyond order after sorted = rest)
    (hexhausted : (pageOf order size.toNat rest).exhausted size after = true) {calls : Nat}
    (hcalls : rest.length / size.toNat + 1 ≤ calls) (hlive : Live state) :
    (Index.scan page size calls state after).2 = .ok [(pageOf order size.toNat rest, true)] := by
  obtain ⟨calls, rfl⟩ := Nat.exists_eq_add_of_le' (Nat.le_of_add_left_le hcalls)
  obtain ⟨state', -, hpage⟩ := hserves state hlive after
  rw [hrest] at hpage
  rw [Index.scan, hpage]
  simp only [hexhausted, if_true]

theorem scan_of_not_exhausted (hserves : Serves page Live order size.toNat sorted)
    (hrest : beyond order after sorted = rest)
    (hexhausted : (pageOf order size.toNat rest).exhausted size after = false) {calls : Nat}
    {pages : List (CursorPage Json × Bool)}
    (hscan : ∀ state, Live state →
      (Index.scan page size calls state (pageOf order size.toNat rest).next).2 = .ok pages)
    (hlive : Live state) :
    (Index.scan page size (calls + 1) state after).2 =
      .ok ((pageOf order size.toNat rest, false) :: pages) := by
  obtain ⟨state', hlive', hpage⟩ := hserves state hlive after
  have hpages := hscan state' hlive'
  rw [hrest] at hpage
  rw [Index.scan, hpage]
  simp only [hexhausted, Bool.false_eq_true, if_false]
  generalize Index.scan page size calls state' (pageOf order size.toNat rest).next = outcome
    at hpages
  obtain ⟨state'', result⟩ := outcome
  obtain rfl : result = .ok pages := hpages
  rfl

end Step

/-- A scan goes through what remains: the induction is on how many documents that are. -/
theorem scan_traverses (hsize : 0 < size.toNat) (horder : order ≠ [])
    (h : Preorders (compareDocs order) sorted)
    (hsorted : sorted.Pairwise fun d e => (compareDocs order d e).isLE = true)
    (hsuffix : rest <:+ sorted) (after : Option (List Json))
    (hrest : beyond order after sorted = rest) :
    ∃ pages, Traversal order size.toNat after rest pages ∧
      ∀ {σ : Type} (page : σ → Option (List Json) → σ × Except Error (CursorPage Json))
        (Live : σ → Prop), Serves page Live order size.toNat sorted →
        ∀ calls, rest.length / size.toNat + 1 ≤ calls → ∀ state, Live state →
          (Index.scan page size calls state after).2 = .ok pages := by
  induction hlength : rest.length using Nat.strongRecOn generalizing rest after with
  | ind n ih =>
    subst hlength
    by_cases hfull : size.toNat ≤ rest.length
    · obtain ⟨front, d, back, hsplit, hfront⟩ := exists_split hsize hfull
      subst hsplit
      have hexhausted := exhausted_of_full horder rfl hfront d back after
      cases hrepeated :
          after.any fun previous => Json.sameItems previous (sortValues order d.2) with
      | true =>
        obtain ⟨previous, rfl, hsame⟩ := (Option.any_eq_true _ _).mp hrepeated
        refine ⟨_, Traversal.of_repeated horder hfront hsame,
          fun page Live hserves calls hcalls state hlive => ?_⟩
        exact scan_of_exhausted hserves hrest (hexhausted.trans hrepeated) hcalls hlive
      | false =>
        -- what remains after the page is a suffix of what is behind it
        obtain ⟨before, hbefore⟩ := hsuffix
        rw [← List.append_assoc] at hbefore
        have hbeyond := beyond_of_split h hsorted hbefore.symm
        have hback : back <:+ sorted := ⟨before ++ front ++ [d], by rw [← hbefore]; simp⟩
        have hless : beyond order (some (sortValues order d.2)) sorted <:+ back := by
          rw [hbeyond]
          exact List.dropWhile_suffix _
        have hle := hless.length_le
        have hlength : (front ++ d :: back).length = back.length + size.toNat := by
          rw [List.length_append, List.length_cons]
          omega
        obtain ⟨pages, hpages, hscan⟩ := ih _ (by omega) (hless.trans hback) _ rfl rfl
        have hnew : ∀ previous ∈ after, Json.sameItems previous (sortValues order d.2) = false := by
          simpa [Option.any_eq_false] using hrepeated
        refine ⟨_, Traversal.cons horder hfront hnew hbeyond hpages,
          fun page Live hserves calls hcalls state hlive => ?_⟩
        have hdiv := Nat.div_le_div_right (c := size.toNat) hle
        rw [hlength, Nat.add_div_right _ hsize] at hcalls
        obtain ⟨calls, rfl⟩ := Nat.exists_eq_add_of_le' (Nat.le_of_add_left_le hcalls)
        refine scan_of_not_exhausted hserves hrest (hexhausted.trans hrepeated) ?_ hlive
        rw [pageOf_of_split horder hfront]
        exact hscan page Live hserves calls (by omega)
    · have hshort : rest.length < size.toNat := by omega
      refine ⟨_, Traversal.of_short hshort, fun page Live hserves calls hcalls state hlive => ?_⟩
      exact scan_of_exhausted hserves hrest (exhausted_of_short rfl hshort) hcalls hlive

end Run

/-! ### The engine in memory -/

section Engine

variable {b : Builder} {c : Corpus} {course : Course} {r : SearchRequest}

/-- The documents that a query selects, in order. -/
def Corpus.found (c : Corpus) (order : List SortClause) (query : Query) : List (String × Json) :=
  sortBy (fun d e => compareDocs order d e == .lt) (c.selected query)

theorem ranked_eq_beyond (horder : r.sort ≠ []) :
    Corpus.ranked r (c.selected r.query) =
      beyond r.sort r.searchAfter (c.found r.sort r.query) := by
  have hempty : r.sort.isEmpty = false := by simpa using horder
  rw [Corpus.ranked, hempty]
  cases r.searchAfter <;> rfl

theorem hits_search (horder : r.sort ≠ []) (hoffset : r.offset = none) {n : Int64}
    (hsize : r.size = some n) : (c.search r).hits.hits =
      ((beyond r.sort r.searchAfter (c.found r.sort r.query)).take n.toInt.toNat).map
        (Corpus.hit r.sort) := by
  simp only [Corpus.search, hoffset, hsize, Option.map_some, Option.map_none, Option.getD_some,
    Option.getD_none, List.drop_zero, ranked_eq_beyond horder]

/-- A run in which all chunks are done and no token fires. -/
def Course.Unhindered (course : Course) : Prop := course.DoesAll ∧ ∀ n, course.fired n = false

theorem extractSources_raw (hcourse : course.Unhindered) (look batch : Nat) (hits : List Hit) :
    extractSources course look batch (fun j => .ok j) hits = .ok (hits.map (·.source)) := by
  have hdecoded : hits.mapM (decodeSource fun j => .ok j) = .ok (hits.map (·.source)) := by
    rw [mapM_decodeSource_eq_ok_iff, List.map_map]
    rfl
  rw [extractSources_of_not_fired hcourse.1 fun i _ => hcourse.2 (look + i), hdecoded]
  rfl

/-- A word keeps its value as a signed one below half of the range and loses the range from there
on. -/
theorem toInt_toInt64 (size : UInt64) :
    size.toInt64.toInt =
      if size.toNat < Nat.pow 2 63 then (size.toNat : Int) else size.toNat - Nat.pow 2 64 := by
  have hbits : size.toInt64.toInt = size.toBitVec.toInt := rfl
  have hnat : size.toBitVec.toNat = size.toNat := rfl
  have hhalf : Nat.pow 2 63 = 9223372036854775808 := rfl
  have hrange : Nat.pow 2 64 = 18446744073709551616 := rfl
  rw [hbits, BitVec.toInt_eq_toNat_cond, hnat]
  split <;> split <;> omega

theorem toNat_toInt64 {size : UInt64} (h : size.toNat < Nat.pow 2 63) :
    size.toInt64.toInt.toNat = size.toNat := by
  rw [toInt_toInt64, if_pos h, Int.toNat_natCast]

/-- A page after a place holds the first documents beyond it. -/
theorem run_cursor {ix : Index} {size : UInt64} (hpage : ix.checkPage b size = .ok ())
    (hrequest : ∀ done, b.searchRequest done = .ok r) (hcourse : course.Unhindered)
    (hlive : c.failing = false) (hbound : size.toNat < Nat.pow 2 63) (horder : r.sort ≠ [])
    (index : String) (after : Option (List Json)) :
    (ix.cursor (fun j => .ok j) b size after).run Corpus.engine index course c =
      ({ c with calls := c.calls + 1 },
        .ok (pageOf r.sort size.toNat (beyond r.sort after (c.found r.sort r.query)))) := by
  have hhits : (c.search { r with
      offset := none, size := some size.toInt64, searchAfter := after }).hits.hits =
        ((beyond r.sort after (c.found r.sort r.query)).take size.toNat).map
          (Corpus.hit r.sort) := by
    rw [← toNat_toInt64 hbound]
    exact hits_search (r := { r with
      offset := none, size := some size.toInt64, searchAfter := after }) horder rfl rfl
  simp only [Plan.run, Index.cursor, hpage, Index.pageRequest, hrequest, Except.map, hcourse.2,
    Course.interrupted_eq_false hcourse.2, Bool.false_eq_true, if_false,
    Corpus.engine_search hlive, extractSources_raw hcourse, hhits]
  rw [pageOf, List.map_map]
  rfl

/-- With a limit that is high enough one call fetches all documents in order. -/
theorem run_get {ix : Index} {n : Int64} (hrequest : ∀ done, b.searchRequest done = .ok r)
    (hcourse : course.Unhindered) (hlive : c.failing = false) (horder : r.sort ≠ [])
    (hoffset : r.offset = none) (hafter : r.searchAfter = none) (hsize : r.size = some n)
    (hall : (c.selected r.query).length ≤ n.toInt.toNat) (index : String) :
    (ix.get (fun j => .ok j) b).run Corpus.engine index course c =
      ({ c with calls := c.calls + 1 }, .ok ((c.found r.sort r.query).map Prod.snd)) := by
  have hlength : (c.found r.sort r.query).length ≤ n.toInt.toNat := by
    rwa [Corpus.found, (perm_sortBy _ _).length_eq]
  have hhits := hits_search (c := c) horder hoffset hsize
  rw [hafter, beyond, List.take_of_length_le hlength] at hhits
  simp only [Plan.run, Index.get, hrequest, hcourse.2, Course.interrupted_eq_false hcourse.2,
    Bool.false_eq_true, if_false, Corpus.engine_search hlive, extractSources_raw hcourse, hhits]
  rw [List.map_map]
  rfl

end Engine

/-! ### The scan of a query -/

namespace Builder

variable {b : Builder}

theorem validateLimit_of_pos {n : Int64} (hlimit : b.limit = some n) (hn : 0 < n.toInt) :
    b.validateLimit = .ok () := by
  rw [validateLimit_eq_ok_iff, hlimit]
  intro m hm
  obtain rfl := Option.some.inj hm
  rwa [Int64.lt_iff_toInt_lt, Int64.toInt_zero]

theorem validateSearch_of_limit (h : b.validateSearch = .ok ()) {n : Int64} (hn : 0 < n.toInt) :
    { b with offset := none, limit := some n }.validateSearch = .ok () := by
  obtain ⟨hclauses, hdirectives, -, -⟩ := validateSearch_eq_ok_iff.mp h
  exact validateSearch_eq_ok_iff.mpr ⟨hclauses, hdirectives, validateLimit_of_pos rfl hn, rfl⟩

end Builder

namespace Index

theorem checkPage_eq_ok {ix : Index} {b : Builder} {size : UInt64} (hsize : size ≠ 0)
    (hlimit : size ≤ ix.config.cursorLimit) (hsorts : b.sorts ≠ []) :
    ix.checkPage b size = .ok () := by
  have hempty : b.sorts.isEmpty = false := by simpa using hsorts
  have hwithin : ¬ (size = 0 ∨ ix.config.cursorLimit < size) := by
    rintro (h | h)
    · exact hsize h
    · exact absurd hlimit (UInt64.not_le.mpr h)
  rw [checkPage, if_neg hwithin, hempty]
  rfl

/-- **A scan returns each document at most once, and all of them unless a page ends badly.** For
every query with an order that passes the checks, every page size that the index allows and every
course of the calls, if the sort values are preordered, the pages end after at most as many calls as
there are full pages and one more, and return documents in the order in which one call without an
offset and with a limit that is high enough returns them. They are all of them exactly if no full
page ends within a tie or at the place where it began; without ties the latter takes sort values
that hold other values. Texts and numbers are preordered. -/
theorem scan_complete_iff_unbroken (ix : Index) (b : Builder) (size : UInt64) (c : Corpus)
    (haccepted : b.validateSearch = .ok ()) (hsorts : b.sorts ≠ []) (hsize : size ≠ 0)
    (hlimit : size ≤ ix.config.cursorLimit) (hbound : size.toNat < Nat.pow 2 63)
    (hlive : c.failing = false) :
    (∃ root, (∀ done, b.compile done = .ok root) ∧
      ((∀ clause ∈ b.sortClauses,
          Preorders compareValues ((c.selected (.bool root)).map fun d => clause.value d.2)) →
        ∃ fetched pages,
          fetched.Perm (c.selected (.bool root)) ∧
          (∀ n : Int64, n.toInt = max (c.selected (.bool root)).length 1 →
            ∀ course : Course, course.Unhindered →
              ((ix.get (fun j => .ok j) { b with offset := none, limit := some n }).run
                Corpus.engine ix.name course c).2 = .ok (fetched.map Prod.snd)) ∧
          (∀ courses : Corpus → Option (List Json) → Course,
            (∀ state after, (courses state after).Unhindered) →
            ∀ calls, (c.selected (.bool root)).length / size.toNat + 1 ≤ calls →
              (scan (fun state after => (ix.cursor (fun j => .ok j) b size after).run Corpus.engine
                ix.name (courses state after) state) size calls c none).2 = .ok pages) ∧
          pages.length ≤ (c.selected (.bool root)).length / size.toNat + 1 ∧
          pages.map Prod.snd = List.replicate (pages.length - 1) false ++ [true] ∧
          (∃ returned : List (String × Json), returned.Sublist fetched ∧
            (pages.flatMap fun p => p.1.items) = returned.map Prod.snd) ∧
          ((pages.flatMap fun p => p.1.items) = fetched.map Prod.snd ↔
            Unbroken b.sortClauses size.toNat none
              (fetched.map fun d => sortValues b.sortClauses d.2)) ∧
          ((c.selected (.bool root)).Pairwise
              (fun d e => compareDocs b.sortClauses d e ≠ .eq) →
            (∀ d ∈ c.selected (.bool root), ∀ v ∈ sortValues b.sortClauses d.2, v.depth = 0) →
              (pages.flatMap fun p => p.1.items) = fetched.map Prod.snd))) ∧
    ∀ values : List Json,
      (∀ v ∈ values, v = .null ∨ ∃ s, v = .string s) ∨
        (∀ v ∈ values,
          v = .null ∨ (∃ n, v = .int n) ∨ ∃ x, Floating.finite x = true ∧ v = .float x) →
      Preorders compareValues values := by
  refine ⟨?_, fun values hvalues =>
    hvalues.elim preorders_compareValues_of_texts preorders_compareValues_of_numbers⟩
  obtain ⟨hclauses, -, -, -⟩ := Builder.validateSearch_eq_ok_iff.mp haccepted
  obtain ⟨contribution, -, hcompiled⟩ := Builder.compile_isOk hclauses
  refine ⟨_, fun done => (hcompiled done).2, fun hvalues => ?_⟩
  generalize Family.compose (FamilyKind.all.map contribution) = root at hcompiled hvalues
  have hk : 0 < size.toNat := Nat.pos_of_ne_zero fun hzero => hsize (UInt64.toNat_inj.mp hzero)
  have horder : b.sortClauses ≠ [] := by simpa [Builder.sortClauses] using hsorts
  have hdocs := preorders_compareDocs hvalues
  have hperm : (c.found b.sortClauses (.bool root)).Perm (c.selected (.bool root)) :=
    perm_sortBy _ _
  have hfound := hdocs.of_subset fun d hd => hperm.mem_iff.mp hd
  have hsorted := pairwise_sortBy hdocs
  obtain ⟨pages, htraversal, hscan⟩ := scan_traverses hk horder hfound hsorted
    (List.suffix_refl _) none rfl
  have hlength : (c.found b.sortClauses (.bool root)).length = (c.selected (.bool root)).length :=
    hperm.length_eq
  refine ⟨c.found b.sortClauses (.bool root), pages, hperm, ?_, ?_, ?_, htraversal.ends, ?_,
    htraversal.complete_iff, ?_⟩
  · intro n hn course hcourse
    have hrequest := fun done => Builder.searchRequest_of_compileUnchecked
      (Builder.validateSearch_of_limit haccepted (n := n) (by omega)) (hcompiled done).1
    have hall : (c.selected (.bool root)).length ≤ n.toInt.toNat := by omega
    rw [run_get hrequest hcourse hlive horder rfl rfl rfl hall]
    rfl
  · intro courses hcourses calls hcalls
    rw [← hlength] at hcalls
    refine hscan _ (fun state => state.docs = c.docs ∧ state.failing = false) ?_ calls hcalls c
      ⟨rfl, hlive⟩
    intro state hstate after
    have hrequest := fun done =>
      Builder.searchRequest_of_compileUnchecked haccepted (hcompiled done).1
    have hselected :
        state.found b.sortClauses (.bool root) = c.found b.sortClauses (.bool root) := by
      rw [Corpus.found, Corpus.selected, hstate.1]
      rfl
    refine ⟨{ state with calls := state.calls + 1 }, hstate, ?_⟩
    rw [← hselected]
    exact run_cursor (checkPage_eq_ok hsize hlimit hsorts) hrequest (hcourses state after) hstate.2
      hbound horder ix.name after
  · rw [← hlength]
    exact htraversal.length_le
  · obtain ⟨returned, hreturned, hitems⟩ := List.sublist_map_iff.mp htraversal.sublist
    exact ⟨returned, hreturned, hitems⟩
  · intro huntied hscalar
    exact htraversal.complete_iff.mpr (unbroken_of_untied hk hperm hdocs hsorted huntied hscalar)

/-- Two documents with names, given in reverse order. -/
def named : Corpus := .ofDocs [.object [("name", .string "b")], .object [("name", .string "a")]]

def byName : Builder := ({} : Builder).applyAll [.orderBy ⟨"name", true, none⟩]

theorem scan_byName_complete :
    byName.validateSearch = .ok () ∧ byName.sorts ≠ [] ∧ named.failing = false ∧
      ∃ (fetched : List (String × Json)) (pages : List (CursorPage Json × Bool)),
        fetched.Perm named.docs ∧
        (∀ calls, 3 ≤ calls →
          (scan (fun state after => (({ name := "i" } : Index).cursor (fun j => .ok j) byName 1
            after).run Corpus.engine "i" {} state) 1 calls named none).2 = .ok pages) ∧
        pages.length ≤ 3 ∧ (pages.flatMap fun p => p.1.items) = fetched.map Prod.snd := by
  have haccepted : byName.validateSearch = .ok () := by rfl
  have hsorts : byName.sorts ≠ [] := by decide
  have hlive : named.failing = false := by rfl
  obtain ⟨⟨root, hcompiled, hscan⟩, hpreorders⟩ :=
    scan_complete_iff_unbroken { name := "i" } byName 1 named haccepted hsorts (by decide)
      (by decide) (by decide) hlive
  obtain rfl : root = {} := Except.ok.inj ((hcompiled []).symm.trans rfl)
  have hvalues : ∀ clause ∈ byName.sortClauses, Preorders compareValues
      ((named.selected (.bool {})).map fun d => clause.value d.2) := by
    intro clause hclause
    obtain rfl : clause = SortClause.ofKey "name" true none := List.mem_singleton.mp hclause
    refine hpreorders _ (Or.inl fun v hv => ?_)
    have hv' : v ∈ [.string "b", .string "a"] := hv
    rcases List.mem_pair.mp hv' with rfl | rfl <;> exact Or.inr ⟨_, rfl⟩
  obtain ⟨fetched, pages, hperm, -, hpages, hlength, -, -, -, hcomplete⟩ := hscan hvalues
  have huntied : (named.selected (.bool {})).Pairwise
      fun d e => compareDocs byName.sortClauses d e ≠ .eq := by decide
  have hscalar : ∀ d ∈ named.selected (.bool {}), ∀ v ∈ sortValues byName.sortClauses d.2,
      v.depth = 0 := by decide
  have hcourse : ({} : Course).Unhindered := ⟨fun n => List.Perm.refl _, fun _ => rfl⟩
  exact ⟨haccepted, hsorts, hlive, fetched, pages, hperm,
    fun calls hcalls => hpages (fun _ _ => {}) (fun _ _ => hcourse) calls hcalls, hlength,
    hcomplete huntied hscalar⟩

/-- A document with a list of one number as the value of a field. -/
def listing (x : Json) : Json := .object [("a", .array [.array [x]])]

/-- Documents that list the two zeros and one. The lists of the zeros are the same as values and
differ as texts. -/
def zeros : Corpus :=
  .ofDocs [listing (.float (Floating.ofMagnitude true 0)),
    listing (.float (Floating.ofMagnitude false 0)), listing (.int 1)]

def byList : Builder := ({} : Builder).applyAll [.orderBy ⟨"a", true, none⟩]

/-- No two documents tie, and still the scan stops before the third: the second page ends at a place
that is the same as that of the first. -/
theorem scan_stops_between_zeros :
    byList.validateSearch = .ok () ∧ byList.sorts ≠ [] ∧ zeros.failing = false ∧
      byList.compile FamilyKind.all = .ok {} ∧ zeros.selected (.bool {}) = zeros.docs ∧
      (∀ clause ∈ byList.sortClauses,
        Preorders compareValues (zeros.docs.map fun d => clause.value d.2)) ∧
      zeros.docs.Pairwise (fun d e => compareDocs byList.sortClauses d e ≠ .eq) ∧
      ((({ name := "i" } : Index).get (fun j => .ok j)
        { byList with offset := none, limit := some 3 }).run Corpus.engine "i" {} zeros).2 =
          .ok [listing (.float (Floating.ofMagnitude true 0)),
            listing (.float (Floating.ofMagnitude false 0)), listing (.int 1)] ∧
      (scan (fun state after => (({ name := "i" } : Index).cursor (fun j => .ok j) byList 1
        after).run Corpus.engine "i" {} state) 1 4 zeros none).2 =
          .ok [(⟨[listing (.float (Floating.ofMagnitude true 0))],
              some [.array [.float (Floating.ofMagnitude true 0)]]⟩, false),
            (⟨[listing (.float (Floating.ofMagnitude false 0))],
              some [.array [.float (Floating.ofMagnitude false 0)]]⟩, true)] := by
  refine ⟨by rfl, by decide, by rfl, by rfl, by rfl, ?_, by decide, by rfl, by rfl⟩
  intro clause hclause
  obtain rfl : clause = SortClause.ofKey "a" true none := List.mem_singleton.mp hclause
  refine preorders_compareValues_of_asText fun v hv => ?_
  have hv' : v ∈ [.array [.float (Floating.ofMagnitude true 0)],
      .array [.float (Floating.ofMagnitude false 0)], .array [.int 1]] := hv
  simp only [List.mem_cons, List.not_mem_nil, or_false] at hv'
  rcases hv' with rfl | rfl | rfl <;> exact ⟨rfl, by simp⟩

end Index

end DocSearch
