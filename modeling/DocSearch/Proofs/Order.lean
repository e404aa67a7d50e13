import DocSearch.Corpus.Rank

/-!
# Comparisons that preorder some items

A comparison need not behave on all values: numbers are compared by size and everything else by its
text, so values of several kinds can go round in a circle. What a search relies on is that the
comparison behaves on the values at hand. Comparing by several parts in turn keeps that.
-/

namespace DocSearch

variable {α β : Type}

/-- A comparison preorders the items of a list totally: it is opposite on opposite pairs, and it is
transitive. -/
structure Preorders (cmp : α → α → Ordering) (as : List α) : Prop where
  eq_swap : ∀ a ∈ as, ∀ b ∈ as, cmp a b = (cmp b a).swap
  isLE_trans : ∀ a ∈ as, ∀ b ∈ as, ∀ c ∈ as,
    (cmp a b).isLE = true → (cmp b c).isLE = true → (cmp a c).isLE = true

namespace Preorders

variable {cmp cmp' : α → α → Ordering} {as bs : List α} {a b c : α}

/-- On the items of the list the comparison is lawful. -/
theorem transCmp (h : Preorders cmp as) :
    Std.TransCmp fun a b : { a // a ∈ as } => cmp a.val b.val where
  eq_swap {a b} := h.eq_swap a.val a.property b.val b.property
  isLE_trans {a b c} := h.isLE_trans a.val a.property b.val b.property c.val c.property

theorem of_transCmp (h : Std.TransCmp fun a b : { a // a ∈ as } => cmp a.val b.val) :
    Preorders cmp as where
  eq_swap a ha b hb := h.eq_swap (a := ⟨a, ha⟩) (b := ⟨b, hb⟩)
  isLE_trans a ha b hb c hc := h.isLE_trans (a := ⟨a, ha⟩) (b := ⟨b, hb⟩) (c := ⟨c, hc⟩)

theorem of_subset (h : Preorders cmp as) (hsubset : ∀ a ∈ bs, a ∈ as) : Preorders cmp bs where
  eq_swap a ha b hb := h.eq_swap a (hsubset a ha) b (hsubset b hb)
  isLE_trans a ha b hb c hc :=
    h.isLE_trans a (hsubset a ha) b (hsubset b hb) c (hsubset c hc)

theorem of_map {f : β → α} {bs : List β} (h : Preorders cmp (bs.map f)) :
    Preorders (fun x y => cmp (f x) (f y)) bs where
  eq_swap _ hx _ hy := h.eq_swap _ (List.mem_map_of_mem hx) _ (List.mem_map_of_mem hy)
  isLE_trans _ hx _ hy _ hz := h.isLE_trans _ (List.mem_map_of_mem hx) _ (List.mem_map_of_mem hy)
    _ (List.mem_map_of_mem hz)

theorem congr (h : Preorders cmp as) (heq : ∀ a ∈ as, ∀ b ∈ as, cmp' a b = cmp a b) :
    Preorders cmp' as where
  eq_swap a ha b hb := by rw [heq a ha b hb, heq b hb a ha, h.eq_swap a ha b hb]
  isLE_trans a ha b hb c hc := by
    rw [heq a ha b hb, heq b hb c hc, heq a ha c hc]
    exact h.isLE_trans a ha b hb c hc

theorem swap (h : Preorders cmp as) : Preorders (fun a b => (cmp a b).swap) as := by
  have hopposite : Preorders (fun a b => cmp b a) as :=
    of_transCmp (@Std.TransCmp.opposite _ _ h.transCmp)
  refine hopposite.congr fun a ha b hb => ?_
  rw [h.eq_swap b hb a ha]

theorem lex (h : Preorders cmp as) (h' : Preorders cmp' as) :
    Preorders (fun a b => (cmp a b).then (cmp' a b)) as := by
  have hfirst := h.transCmp
  have hsecond := h'.transCmp
  exact of_transCmp (inferInstanceAs (Std.TransCmp
    (compareLex (fun a b : { a // a ∈ as } => cmp a.val b.val) fun a b => cmp' a.val b.val)))

theorem refl (h : Preorders cmp as) (ha : a ∈ as) : cmp a a = .eq := by
  have hself := h.eq_swap a ha a ha
  cases hcmp : cmp a a <;> simp [hcmp] at hself ⊢

theorem gt_iff_lt (h : Preorders cmp as) (ha : a ∈ as) (hb : b ∈ as) :
    cmp a b = .gt ↔ cmp b a = .lt := by
  rw [h.eq_swap a ha b hb]
  exact Ordering.swap_eq_gt

/-- What is not before an item is not before what the item is after. -/
theorem gt_of_ge_of_gt (h : Preorders cmp as) (ha : a ∈ as) (hb : b ∈ as) (hc : c ∈ as)
    (hab : cmp a b ≠ .lt) (hbc : cmp b c = .gt) : cmp a c = .gt := by
  have hge : (cmp a b).isGE = true := by cases hcmp : cmp a b <;> simp_all
  exact @Std.TransCmp.gt_of_isGE_of_gt _ _ h.transCmp ⟨a, ha⟩ ⟨b, hb⟩ ⟨c, hc⟩ hge hbc

end Preorders

end DocSearch
