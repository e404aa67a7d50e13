import DocSearch.Index
import DocSearch.Proofs.Sorting

/-!
# Pages of a sorted list

A page takes the first documents of what remains, and what remains after it is what comes after the
place of its last document. In a sorted list that is a suffix of what is left over, and all of it
unless the page ends within a tie. A scan also stops where two pages end at places that are the same
as values, so what makes it complete is a condition on the ends of pages only.
-/

namespace DocSearch

/-! ### Splitting lists -/

section Lists

variable {α : Type}

theorem filter_eq_dropWhile {p : α → Bool} {as : List α}
    (h : as.Pairwise fun a b => p a = true → p b = true) :
    as.filter p = as.dropWhile fun a => !p a := by
  induction as with
  | nil => rfl
  | cons a as ih =>
    obtain ⟨ha, has⟩ := List.pairwise_cons.mp h
    by_cases hp : p a = true
    · have hall : ∀ b ∈ a :: as, p b = true := List.forall_mem_cons.mpr ⟨hp, fun b hb => ha b hb hp⟩
      rw [List.filter_eq_self.mpr hall, List.dropWhile_cons_of_neg (by simpa using hp)]
    · rw [List.filter_cons_of_neg hp, List.dropWhile_cons_of_pos (by simpa using hp), ih has]

theorem exists_split {as : List α} {k : Nat} (hk : 0 < k) (h : k ≤ as.length) :
    ∃ front a back, as = front ++ a :: back ∧ front.length + 1 = k := by
  have hlast : k - 1 < as.length := by omega
  refine ⟨as.take (k - 1), as[k - 1], as.drop k, ?_, ?_⟩
  · have hdrop : as.drop (k - 1) = as[k - 1] :: as.drop k := by
      rw [List.drop_eq_getElem_cons hlast, Nat.sub_add_cancel hk]
    rw [← hdrop, List.take_append_drop]
  · rw [List.length_take]
    omega

end Lists

/-! ### What comes after a place -/

section Pages

variable {order : List SortClause} {k : Nat}

/-- The documents of a sorted list that come after a place. -/
def beyond (order : List SortClause) (after : Option (List Json)) (sorted : List (String × Json)) :
    List (String × Json) :=
  match after with
  | none => sorted
  | some place => sorted.filter fun d => comparePlaces order (sortValues order d.2) place == .gt

/-- After the place of a document come those behind it but for the ones that tie with it. -/
theorem beyond_of_split {sorted front back : List (String × Json)} {d : String × Json}
    (h : Preorders (compareDocs order) sorted)
    (hsorted : sorted.Pairwise fun d e => (compareDocs order d e).isLE = true)
    (hsplit : sorted = front ++ d :: back) :
    beyond order (some (sortValues order d.2)) sorted =
      back.dropWhile fun e => !(compareDocs order e d == .gt) := by
  show (sorted.filter fun e => compareDocs order e d == .gt) = _
  have hmem : ∀ e ∈ back, e ∈ sorted := by
    intro e he
    simp [hsplit, he]
  have hd : d ∈ sorted := by simp [hsplit]
  rw [hsplit, List.pairwise_append] at hsorted
  obtain ⟨-, hback, hfront⟩ := hsorted
  have hself : (compareDocs order d d == .gt) = false := by rw [h.refl hd]; rfl
  have hnone : front.filter (fun e => compareDocs order e d == .gt) = [] := by
    rw [List.filter_eq_nil_iff]
    intro e he hgt
    have hle := hfront e he d List.mem_cons_self
    rw [beq_iff_eq.mp hgt] at hle
    exact absurd hle (by decide)
  rw [hsplit, List.filter_append, hnone, List.nil_append, List.filter_cons_of_neg (by simp [hself])]
  refine filter_eq_dropWhile ((List.pairwise_cons.mp hback).2.imp_of_mem ?_)
  intro e e' he he' hle hgt
  have hge : compareDocs order e' e ≠ .lt := by
    rw [h.eq_swap e' (hmem e' he') e (hmem e he)]
    cases hcmp : compareDocs order e e' <;> simp_all
  exact beq_iff_eq.mpr
    (h.gt_of_ge_of_gt (hmem e' he') (hmem e he) hd hge (beq_iff_eq.mp hgt))

/-! ### Where pages end -/

/-- The place at which the page with a number ends, counted from one, and before the first page the
place that a list comes after. -/
def pageEnd (k : Nat) (after : Option (List Json)) (places : List (List Json)) :
    Nat → Option (List Json)
  | 0 => after
  | n + 1 => places[(n + 1) * k - 1]?

/-- Nothing is lost where a full page ends before the end of the list: the next place is after that
of the page, which is not the same as the one before. -/
def Unbroken (order : List SortClause) (k : Nat) (after : Option (List Json))
    (places : List (List Json)) : Prop :=
  ∀ n place next, pageEnd k after places (n + 1) = some place →
    places[(n + 1) * k]? = some next →
    comparePlaces order next place = .gt ∧
      ∀ previous, pageEnd k after places n = some previous →
        Json.sameItems previous place = false

theorem unbroken_of_length_le {after : Option (List Json)} {places : List (List Json)}
    (h : places.length ≤ k) : Unbroken order k after places := by
  intro n place next _ hnext
  have hlt := (List.getElem?_eq_some_iff.mp hnext).1
  rw [Nat.add_mul, Nat.one_mul] at hlt
  omega

theorem pageEnd_append (after : Option (List Json)) {front back : List (List Json)}
    {place : List Json} (hfront : front.length + 1 = k) (n : Nat) :
    pageEnd k after (front ++ place :: back) (n + 1) = pageEnd k (some place) back n := by
  cases n with
  | zero =>
    rw [pageEnd, pageEnd, Nat.zero_add, Nat.one_mul, ← hfront, Nat.add_sub_cancel,
      List.getElem?_append_right (Nat.le_refl _), Nat.sub_self, List.getElem?_cons_zero]
  | succ n =>
    have hpos : 0 < (n + 1) * k := Nat.mul_pos (Nat.succ_pos n) (by omega)
    have hsum : (n + 1 + 1) * k - 1 = front.length + ((n + 1) * k - 1 + 1) := by
      rw [Nat.add_mul (n + 1) 1 k]
      omega
    rw [pageEnd, pageEnd, hsum, List.getElem?_append_right (Nat.le_add_right _ _),
      Nat.add_sub_cancel_left, List.getElem?_cons_succ]

theorem getElem?_append_page {front back : List (List Json)} {place : List Json}
    (hfront : front.length + 1 = k) (n : Nat) :
    (front ++ place :: back)[(n + 1) * k]? = back[n * k]? := by
  have hsum : (n + 1) * k = front.length + (n * k + 1) := by
    rw [Nat.add_mul]
    omega
  rw [hsum, List.getElem?_append_right (Nat.le_add_right _ _), Nat.add_sub_cancel_left,
    List.getElem?_cons_succ]

/-- What there is to check at the end of the first page is apart from the rest. -/
theorem unbroken_append_iff {after : Option (List Json)} {front back : List (List Json)}
    {place : List Json} (hfront : front.length + 1 = k) :
    Unbroken order k after (front ++ place :: back) ↔
      (∀ next ∈ back.head?, comparePlaces order next place = .gt ∧
        ∀ previous ∈ after, Json.sameItems previous place = false) ∧
      Unbroken order k (some place) back := by
  constructor
  · intro h
    constructor
    · intro next hhead
      refine h 0 place next (pageEnd_append after hfront 0) ?_
      rw [getElem?_append_page hfront, Nat.zero_mul, ← List.head?_eq_getElem?]
      exact hhead
    · intro n
      rw [← pageEnd_append after hfront (n + 1),
        ← pageEnd_append after hfront n, ← getElem?_append_page hfront (n + 1)]
      exact h (n + 1)
  · rintro ⟨hfirst, hrest⟩ n
    rw [pageEnd_append after hfront, getElem?_append_page hfront]
    cases n with
    | zero =>
      intro p next hp hhead
      rw [Nat.zero_mul, ← List.head?_eq_getElem?] at hhead
      obtain rfl : place = p := Option.some.inj hp
      exact hfirst next hhead
    | succ n =>
      rw [pageEnd_append after hfront]
      exact hrest n

theorem unbroken_split_iff {after : Option (List Json)} {front back : List (String × Json)}
    {d : String × Json} (hfront : front.length + 1 = k) :
    Unbroken order k after ((front ++ d :: back).map fun e => sortValues order e.2) ↔
      (∀ next ∈ back.head?, compareDocs order next d = .gt ∧
        ∀ previous ∈ after, Json.sameItems previous (sortValues order d.2) = false) ∧
      Unbroken order k (some (sortValues order d.2)) (back.map fun e => sortValues order e.2) := by
  rw [List.map_append, List.map_cons, unbroken_append_iff (by rw [List.length_map, hfront])]
  refine and_congr_left fun _ => ?_
  cases back with
  | nil => simp
  | cons next back => simp [compareDocs]

theorem unbroken_of_pairwise (hk : 0 < k) {places : List (List Json)}
    (h : places.Pairwise fun p q =>
      comparePlaces order q p = .gt ∧ Json.sameItems p q = false) :
    Unbroken order k none places := by
  rw [List.pairwise_iff_getElem] at h
  intro n place next hplace hnext
  obtain ⟨hj, rfl⟩ := List.getElem?_eq_some_iff.mp hplace
  obtain ⟨hl, rfl⟩ := List.getElem?_eq_some_iff.mp hnext
  have hstep : (n + 1) * k = n * k + k := by rw [Nat.add_mul, Nat.one_mul]
  refine ⟨(h _ _ hj hl (by omega)).1, fun previous hprevious => ?_⟩
  cases n with
  | zero => cases hprevious
  | succ n =>
    obtain ⟨hi, rfl⟩ := List.getElem?_eq_some_iff.mp hprevious
    have hpos : 0 < (n + 1) * k := Nat.mul_pos (by omega) hk
    exact (h _ _ hi hj (by omega)).2

/-- Documents of which no two tie and whose sort values hold no other values lose nothing. -/
theorem unbroken_of_untied (hk : 0 < k) {docs sorted : List (String × Json)}
    (hperm : sorted.Perm docs) (h : Preorders (compareDocs order) docs)
    (hsorted : sorted.Pairwise fun d e => (compareDocs order d e).isLE = true)
    (huntied : docs.Pairwise fun d e => compareDocs order d e ≠ .eq)
    (hscalar : ∀ d ∈ docs, ∀ v ∈ sortValues order d.2, v.depth = 0) :
    Unbroken order k none (sorted.map fun d => sortValues order d.2) := by
  have hboth : docs.Pairwise fun d e =>
      compareDocs order d e ≠ .eq ∧ compareDocs order e d ≠ .eq := by
    refine huntied.imp_of_mem fun {d e} hd he hne => ⟨hne, ?_⟩
    rw [h.eq_swap e he d hd]
    simpa using hne
  have huntied' := hboth.perm hperm.symm fun hde => ⟨hde.2, hde.1⟩
  refine unbroken_of_pairwise hk (List.pairwise_map.mpr ?_)
  refine (hsorted.and huntied').imp_of_mem fun {d e} hd he hde => ?_
  obtain ⟨hle, hne, -⟩ := hde
  have hlt : compareDocs order d e = .lt := by
    cases hcmp : compareDocs order d e <;> simp_all
  constructor
  · exact (h.gt_iff_lt (hperm.mem_iff.mp he) (hperm.mem_iff.mp hd)).mpr hlt
  · rw [← Bool.not_eq_true]
    intro hsame
    exact hne (comparePlaces_of_sameItems (hscalar d (hperm.mem_iff.mp hd)) hsame)

/-! ### The pages of a scan -/

/-- The page of the first documents that remain. -/
def pageOf (order : List SortClause) (k : Nat) (rest : List (String × Json)) : CursorPage Json :=
  ⟨(rest.take k).map Prod.snd, Index.lastPlace ((rest.take k).map (Corpus.hit order))⟩

theorem lastPlace_map_hit (horder : order ≠ []) (front : List (String × Json))
    (d : String × Json) :
    Index.lastPlace ((front ++ [d]).map (Corpus.hit order)) = some (sortValues order d.2) := by
  have hplace : (sortValues order d.2).isEmpty = false := by
    simpa [sortValues] using horder
  rw [List.map_append, List.map_singleton, Index.lastPlace, List.getLast?_concat]
  show (if (sortValues order d.2).isEmpty then none else some (sortValues order d.2)) = _
  rw [hplace]
  rfl

theorem take_split {front back : List (String × Json)} {d : String × Json}
    (hfront : front.length + 1 = k) : (front ++ d :: back).take k = front ++ [d] := by
  rw [← hfront, List.take_length_add_append, List.take_succ_cons, List.take_zero]

theorem pageOf_of_split (horder : order ≠ []) {front back : List (String × Json)}
    {d : String × Json} (hfront : front.length + 1 = k) :
    pageOf order k (front ++ d :: back) =
      ⟨(front ++ [d]).map Prod.snd, some (sortValues order d.2)⟩ := by
  rw [pageOf, take_split hfront, lastPlace_map_hit horder]

variable {size : UInt64} {after : Option (List Json)}

/-- A full page is the last one only if it ends where it began. -/
theorem exhausted_of_full (horder : order ≠ []) (hk : size.toNat = k)
    {front : List (String × Json)} (hfront : front.length + 1 = k) (d : String × Json)
    (back : List (String × Json)) (after : Option (List Json)) :
    (pageOf order k (front ++ d :: back)).exhausted size after =
      after.any fun previous => Json.sameItems previous (sortValues order d.2) := by
  have hitems : ¬ ((front ++ [d]).map Prod.snd).length < size.toNat := by
    rw [List.length_map, List.length_append, List.length_singleton]
    omega
  rw [pageOf_of_split horder hfront, CursorPage.exhausted]
  simp only [hitems, decide_false, Bool.false_or]

theorem exhausted_of_short (hk : size.toNat = k) {rest : List (String × Json)}
    (hshort : rest.length < k) : (pageOf order k rest).exhausted size after = true := by
  have hitems : (pageOf order k rest).items.length < size.toNat := by
    rw [pageOf, List.length_map, List.take_of_length_le (Nat.le_of_lt hshort)]
    omega
  rw [CursorPage.exhausted]
  cases (pageOf order k rest).next with
  | none => rfl
  | some next => simp [hitems]

/-- What the pages of a scan have to do with the documents that remained before it: all pages but
the last go on, and documents are returned in order, each at most once. -/
structure Traversal (order : List SortClause) (k : Nat) (after : Option (List Json))
    (rest : List (String × Json)) (pages : List (CursorPage Json × Bool)) : Prop where
  length_le : pages.length ≤ rest.length / k + 1
  ends : pages.map Prod.snd = List.replicate (pages.length - 1) false ++ [true]
  sublist : (pages.flatMap fun p => p.1.items).Sublist (rest.map Prod.snd)
  complete_iff : (pages.flatMap fun p => p.1.items) = rest.map Prod.snd ↔
    Unbroken order k after (rest.map fun d => sortValues order d.2)

theorem Traversal.of_short {rest : List (String × Json)} (hshort : rest.length < k) :
    Traversal order k after rest [(pageOf order k rest, true)] := by
  have hitems : ([(pageOf order k rest, true)].flatMap fun p => p.1.items) =
      rest.map Prod.snd := by
    rw [List.flatMap_singleton, pageOf, List.take_of_length_le (Nat.le_of_lt hshort)]
  refine ⟨by simp, by simp, hitems ▸ List.Sublist.refl _, ?_⟩
  rw [hitems]
  refine iff_of_true rfl (unbroken_of_length_le ?_)
  rw [List.length_map]
  exact Nat.le_of_lt hshort

theorem Traversal.of_repeated (horder : order ≠ []) {front back : List (String × Json)}
    {d : String × Json} (hfront : front.length + 1 = k) {previous : List Json}
    (hrepeated : Json.sameItems previous (sortValues order d.2) = true) :
    Traversal order k (some previous) (front ++ d :: back)
      [(pageOf order k (front ++ d :: back), true)] := by
  have hitems : ([(pageOf order k (front ++ d :: back), true)].flatMap fun p => p.1.items) =
      (front ++ [d]).map Prod.snd := by
    rw [List.flatMap_singleton, pageOf_of_split horder hfront]
  have hdocs : (front ++ d :: back).map Prod.snd =
      (front ++ [d]).map Prod.snd ++ back.map Prod.snd := by simp
  refine ⟨by simp, by simp, ?_, ?_⟩
  · rw [hitems, hdocs]
    exact List.sublist_append_left _ _
  · rw [hitems, hdocs, unbroken_split_iff hfront]
    cases back with
    | nil => simp [unbroken_of_length_le]
    | cons next back => simp [hrepeated]

theorem Traversal.cons (horder : order ≠ []) {front back rest : List (String × Json)}
    {d : String × Json} (hfront : front.length + 1 = k)
    (hnew : ∀ previous ∈ after, Json.sameItems previous (sortValues order d.2) = false)
    (hrest : rest = back.dropWhile fun e => !(compareDocs order e d == .gt))
    {pages : List (CursorPage Json × Bool)}
    (h : Traversal order k (some (sortValues order d.2)) rest pages) :
    Traversal order k after (front ++ d :: back)
      ((pageOf order k (front ++ d :: back), false) :: pages) := by
  have hitems : (((pageOf order k (front ++ d :: back), false) :: pages).flatMap
      fun p => p.1.items) =
        (front ++ [d]).map Prod.snd ++ pages.flatMap fun p => p.1.items := by
    rw [List.flatMap_cons, pageOf_of_split horder hfront]
  have hdocs : (front ++ d :: back).map Prod.snd =
      (front ++ [d]).map Prod.snd ++ back.map Prod.snd := by simp
  have hsuffix : rest <:+ back := by
    rw [hrest]
    exact List.dropWhile_suffix _
  have hpages : 0 < pages.length := by
    have hends := congrArg List.length h.ends
    simp at hends
    omega
  constructor
  · have hdiv : (front ++ d :: back).length / k = back.length / k + 1 := by
      have hlength : (front ++ d :: back).length = back.length + k := by
        rw [List.length_append, List.length_cons]
        omega
      rw [hlength, Nat.add_div_right _ (by omega)]
    have hle := Nat.div_le_div_right (c := k) hsuffix.length_le
    have hlength := h.length_le
    rw [hdiv, List.length_cons]
    omega
  · rw [List.map_cons, h.ends, List.length_cons, Nat.add_sub_cancel, ← List.cons_append,
      ← List.replicate_succ, Nat.sub_add_cancel hpages]
  · rw [hitems, hdocs]
    exact (List.Sublist.refl _).append (h.sublist.trans (hsuffix.sublist.map _))
  · rw [hitems, hdocs, List.append_cancel_left_eq, unbroken_split_iff hfront]
    cases back with
    | nil =>
      obtain rfl : rest = [] := by simpa using hrest
      simpa using h.complete_iff
    | cons next back =>
      by_cases hgt : compareDocs order next d = .gt
      · obtain rfl : rest = next :: back := by simpa [hgt] using hrest
        have hhead : ∀ e ∈ (next :: back).head?, compareDocs order e d = .gt ∧
            ∀ previous ∈ after, Json.sameItems previous (sortValues order d.2) = false := by
          intro e he
          obtain rfl : next = e := Option.some.inj he
          exact ⟨hgt, hnew⟩
        rw [h.complete_iff]
        exact (and_iff_right hhead).symm
      · have hlost : rest <:+ back := by
          rw [hrest, List.dropWhile_cons_of_pos (by simpa using hgt)]
          exact List.dropWhile_suffix _
        refine iff_of_false (fun hall => ?_) fun hunbroken => hgt (hunbroken.1 next rfl).1
        have hlength := (h.sublist.trans (hlost.sublist.map _)).length_le
        rw [hall, List.length_map, List.length_map, List.length_cons] at hlength
        omega

end Pages

end DocSearch
