import DocSearch.Corpus.Store
import DocSearch.Proofs.Numbers

/-!
# The order of search results

Documents are compared by their places, the lists of their sort values. If the values of each part
of the order are preordered, so are the documents by their places, and the documents that a search
finds come sorted: each of them once, and none after one that it is before.
-/

namespace DocSearch

/-! ### Values -/

section Values

variable {a b : Json} {values : List Json}

theorem compareValues_null_left (hb : b ≠ .null) : compareValues .null b = .gt := by
  cases b <;> first | exact absurd rfl hb | rfl

theorem compareValues_null_right (ha : a ≠ .null) : compareValues a .null = .lt := by
  cases a <;> first | exact absurd rfl ha | rfl

/-- What is missing comes last, so it does not matter for whether values are preordered. -/
theorem preorders_compareValues_of_not_null
    (h : Preorders compareValues (values.filter fun v => !v.isNull)) :
    Preorders compareValues values := by
  have hmem : ∀ v ∈ values, v ≠ .null → v ∈ values.filter fun v => !v.isNull := by
    intro v hv hnull
    rw [List.mem_filter]
    exact ⟨hv, by cases v <;> simp_all [Json.isNull]⟩
  have hnull : compareValues .null .null = .eq := rfl
  constructor
  · intro a ha b hb
    by_cases ha' : a = .null
    · by_cases hb' : b = .null
      · rw [ha', hb', hnull]
        rfl
      · rw [ha', compareValues_null_left hb', compareValues_null_right hb']
        rfl
    · by_cases hb' : b = .null
      · rw [hb', compareValues_null_left ha', compareValues_null_right ha']
        rfl
      · exact h.eq_swap a (hmem a ha ha') b (hmem b hb hb')
  · intro a ha b hb c hc hab hbc
    by_cases hc' : c = .null
    · by_cases ha' : a = .null
      · rw [ha', hc', hnull]
        rfl
      · rw [hc', compareValues_null_right ha']
        rfl
    · have hb' : b ≠ .null := by
        rintro rfl
        rw [compareValues_null_left hc'] at hbc
        exact absurd hbc (by decide)
      have ha' : a ≠ .null := by
        rintro rfl
        rw [compareValues_null_left hb'] at hab
        exact absurd hab (by decide)
      exact h.isLE_trans a (hmem a ha ha') b (hmem b hb hb') c (hmem c hc hc') hab hbc

/-- Values that are neither numbers nor missing are compared by their texts. -/
theorem preorders_compareValues_of_asText (h : ∀ v ∈ values, v.asFloat? = none ∧ v ≠ .null) :
    Preorders compareValues values := by
  have htexts : Preorders compare (values.map Json.asText) :=
    { eq_swap := fun _ _ _ _ => Std.OrientedOrd.eq_swap
      isLE_trans := fun _ _ _ _ _ _ => Std.TransOrd.isLE_trans }
  refine htexts.of_map.congr fun a ha b hb => ?_
  obtain ⟨hnumber, ha'⟩ := h a ha
  obtain ⟨-, hb'⟩ := h b hb
  unfold compareValues
  rw [hnumber]
  cases a <;> cases b <;> first | rfl | exact absurd rfl ha' | exact absurd rfl hb'

/-- Texts are preordered, some of them missing. -/
theorem preorders_compareValues_of_texts (h : ∀ v ∈ values, v = .null ∨ ∃ s, v = .string s) :
    Preorders compareValues values := by
  apply preorders_compareValues_of_not_null
  apply preorders_compareValues_of_asText
  intro v hv
  obtain ⟨hv, hnull⟩ := List.mem_filter.mp hv
  rcases h v hv with rfl | ⟨s, rfl⟩
  · exact absurd hnull (by decide)
  · exact ⟨rfl, by simp⟩

/-- Numbers of both kinds are preordered, some of them missing. -/
theorem preorders_compareValues_of_numbers (h : ∀ v ∈ values,
    v = .null ∨ (∃ n, v = .int n) ∨ ∃ x, Floating.finite x = true ∧ v = .float x) :
    Preorders compareValues values := by
  apply preorders_compareValues_of_not_null
  have hnumbers : ∀ v ∈ values.filter fun v => !v.isNull,
      ∃ x, v.asFloat? = some x ∧ Floating.Defined x := by
    intro v hv
    obtain ⟨hv, hnull⟩ := List.mem_filter.mp hv
    rcases h v hv with rfl | ⟨n, rfl⟩ | ⟨x, hx, rfl⟩
    · exact absurd hnull (by decide)
    · exact ⟨_, rfl, Floating.defined_ofInt n⟩
    · exact ⟨x, rfl, Floating.defined_of_finite hx⟩
  have hsizes : ∀ x ∈ (values.filter fun v => !v.isNull).map fun v => v.asFloat?.getD 0,
      Floating.Defined x := by
    intro x hx
    obtain ⟨v, hv, rfl⟩ := List.mem_map.mp hx
    obtain ⟨x, hvx, hx⟩ := hnumbers v hv
    rwa [hvx]
  refine (preorders_compareFloats hsizes).of_map.congr fun a ha b hb => ?_
  obtain ⟨x, hax, -⟩ := hnumbers a ha
  obtain ⟨y, hby, -⟩ := hnumbers b hb
  simp only [compareValues, hax, hby, Option.getD_some]

/-- Values that are the same tie, unless they hold other values: those are compared by their
texts. -/
theorem compareValues_of_same {a b : Json} (ha : a.depth = 0) (h : Json.same a b = true) :
    compareValues a b = .eq := by
  cases a with
  | null => cases b <;> first | rfl | cases h
  | bool x =>
    cases b with
    | bool y =>
      obtain rfl : x = y := by simpa [Json.same] using h
      exact Std.ReflOrd.compare_self
    | _ => cases h
  | int m =>
    cases b with
    | int n =>
      obtain rfl : m = n := by simpa [Json.same] using h
      exact compareFloats_self (Floating.defined_ofInt m)
    | _ => cases h
  | float x =>
    cases b with
    | float y => exact compareFloats_of_beq h
    | _ => cases h
  | string s =>
    cases b with
    | string t =>
      obtain rfl : s = t := by simpa [Json.same] using h
      exact Std.ReflOrd.compare_self
    | _ => cases h
  | array items => simp [Json.depth] at ha
  | object members => simp [Json.depth] at ha

end Values

/-! ### Places -/

section Places

variable {order : List SortClause} {docs : List (String × Json)}

/-- The order of two documents by their places. -/
def compareDocs (order : List SortClause) (d e : String × Json) : Ordering :=
  comparePlaces order (sortValues order d.2) (sortValues order e.2)

theorem compareDocs_cons (c : SortClause) (cs : List SortClause) (d e : String × Json) :
    compareDocs (c :: cs) d e =
      (if c.descending then (compareValues (c.value d.2) (c.value e.2)).swap
        else compareValues (c.value d.2) (c.value e.2)).then (compareDocs cs d e) := by
  rw [compareDocs, sortValues, sortValues, List.map_cons, List.map_cons, comparePlaces]
  cases (if c.descending then (compareValues (c.value d.2) (c.value e.2)).swap
    else compareValues (c.value d.2) (c.value e.2)) <;> rfl

/-- Documents are preordered by their places if their sort values are, part by part. -/
theorem preorders_compareDocs
    (h : ∀ c ∈ order, Preorders compareValues (docs.map fun d => c.value d.2)) :
    Preorders (compareDocs order) docs := by
  induction order with
  | nil => exact ⟨fun _ _ _ _ => rfl, fun _ _ _ _ _ _ _ _ => rfl⟩
  | cons c cs ih =>
    obtain ⟨hc, hcs⟩ := List.forall_mem_cons.mp h
    have hvalues : Preorders (fun d e : String × Json =>
        if c.descending then (compareValues (c.value d.2) (c.value e.2)).swap
          else compareValues (c.value d.2) (c.value e.2)) docs := by
      cases c.descending with
      | true => exact hc.of_map.swap
      | false => exact hc.of_map
    exact (hvalues.lex (ih hcs)).congr fun d _ e _ => compareDocs_cons c cs d e

theorem comparePlaces_of_sameItems {as bs : List Json} (has : ∀ a ∈ as, a.depth = 0)
    (h : Json.sameItems as bs = true) : comparePlaces order as bs = .eq := by
  induction order generalizing as bs with
  | nil => cases as <;> cases bs <;> rfl
  | cons c cs ih =>
    cases as with
    | nil => rfl
    | cons a as =>
      cases bs with
      | nil => rfl
      | cons b bs =>
        obtain ⟨ha, has⟩ := List.forall_mem_cons.mp has
        rw [Json.sameItems, Bool.and_eq_true] at h
        rw [comparePlaces, compareValues_of_same ha h.1]
        cases c.descending with
        | true => exact ih has h.2
        | false => exact ih has h.2

end Places

/-! ### Sorting -/

section Sorting

variable {α : Type} {cmp : α → α → Ordering} {items as : List α} {a : α}

theorem perm_insertBack (before : α → α → Bool) (a : α) (as : List α) :
    (insertBack before a as).Perm (a :: as) := by
  induction as with
  | nil => exact List.Perm.refl [a]
  | cons b bs ih =>
    rw [insertBack]
    by_cases hbefore : before a b = true
    · rw [if_pos hbefore]
      exact (ih.cons b).trans (List.Perm.swap a b bs)
    · rw [if_neg hbefore]

/-- The sorted list is given from its end: no item is before one that follows it there. -/
theorem pairwise_insertBack (h : Preorders cmp items) (ha : a ∈ items)
    (has : ∀ b ∈ as, b ∈ items) (hsorted : as.Pairwise fun x y => (cmp y x).isLE = true) :
    (insertBack (fun a b => cmp a b == .lt) a as).Pairwise fun x y => (cmp y x).isLE = true := by
  induction as with
  | nil => exact List.pairwise_singleton _ a
  | cons b bs ih =>
    obtain ⟨hb, hbs⟩ := List.forall_mem_cons.mp has
    obtain ⟨hfirst, hrest⟩ := List.pairwise_cons.mp hsorted
    rw [insertBack]
    by_cases hbefore : (cmp a b == .lt) = true
    · rw [if_pos hbefore, List.pairwise_cons]
      refine ⟨fun y hy => ?_, ih hbs hrest⟩
      rcases List.mem_cons.mp ((perm_insertBack _ a bs).mem_iff.mp hy) with rfl | hy
      · rw [beq_iff_eq.mp hbefore]
        rfl
      · exact hfirst y hy
    · rw [if_neg hbefore, List.pairwise_cons]
      have hba : (cmp b a).isLE = true := by
        rw [h.eq_swap b hb a ha]
        cases hcmp : cmp a b <;> simp_all
      refine ⟨fun y hy => ?_, hsorted⟩
      rcases List.mem_cons.mp hy with rfl | hy
      · exact hba
      · exact h.isLE_trans y (hbs y hy) b hb a ha (hfirst y hy) hba

theorem foldl_insertBack_perm (before : α → α → Bool) (as sorted : List α) :
    (as.foldl (fun sorted a => insertBack before a sorted) sorted).Perm (as ++ sorted) := by
  induction as generalizing sorted with
  | nil => exact List.Perm.refl sorted
  | cons a as ih =>
    have hstep : (as ++ insertBack before a sorted).Perm (as ++ a :: sorted) :=
      (perm_insertBack before a sorted).append_left as
    exact (ih _).trans (hstep.trans List.perm_middle)

theorem foldl_insertBack_pairwise (h : Preorders cmp items) (has : ∀ a ∈ as, a ∈ items)
    {sorted : List α} (hsorted : ∀ a ∈ sorted, a ∈ items)
    (hpairwise : sorted.Pairwise fun x y => (cmp y x).isLE = true) :
    (as.foldl (fun sorted a => insertBack (fun a b => cmp a b == .lt) a sorted)
      sorted).Pairwise fun x y => (cmp y x).isLE = true := by
  induction as generalizing sorted with
  | nil => exact hpairwise
  | cons a as ih =>
    obtain ⟨ha, has⟩ := List.forall_mem_cons.mp has
    refine ih has (fun b hb => ?_) (pairwise_insertBack h ha hsorted hpairwise)
    rcases List.mem_cons.mp ((perm_insertBack _ a sorted).mem_iff.mp hb) with rfl | hb
    · exact ha
    · exact hsorted b hb

theorem perm_sortBy (before : α → α → Bool) (as : List α) : (sortBy before as).Perm as := by
  have hfold := foldl_insertBack_perm before as []
  rw [List.append_nil] at hfold
  exact (List.reverse_perm _).trans hfold

theorem pairwise_sortBy (h : Preorders cmp as) :
    (sortBy (fun a b => cmp a b == .lt) as).Pairwise fun x y => (cmp x y).isLE = true := by
  rw [sortBy, List.pairwise_reverse]
  exact foldl_insertBack_pairwise h (fun _ ha => ha) (by simp) List.Pairwise.nil

end Sorting

end DocSearch
