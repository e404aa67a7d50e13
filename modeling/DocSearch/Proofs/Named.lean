import DocSearch.Named
import Mathlib.Data.List.Basic
import Mathlib.Data.List.Induction
import Mathlib.Data.String.Basic

/-!
# Collections of named values

A collection is a list in ascending order of the names. What it holds under a name is what was added
last under that name, and since the order is strict, no name stands in it twice.
-/

namespace DocSearch

variable {α : Type}

theorem lookup_cons_eq_ite {name key : String} {a : α} {entries : List (String × α)} :
    List.lookup name ((key, a) :: entries) =
      if name = key then some a else List.lookup name entries := by
  by_cases hname : name = key
  · simp [hname]
  · have hbeq : (name == key) = false := beq_false_of_ne hname
    simp [List.lookup_cons, hbeq, hname]

namespace Named

variable {named : Named α} {name key : String} {a : α} {entry : String × α}
  {entries : List (String × α)}

theorem lookup_insert : List.lookup name (named.insert key a) =
    if name = key then some a else List.lookup name named := by
  induction named with
  | nil => rw [insert, lookup_cons_eq_ite]
  | cons first rest ih =>
    obtain ⟨k, c⟩ := first
    rw [insert]
    by_cases hbefore : key < k
    · rw [if_pos hbefore, lookup_cons_eq_ite]
    · rw [if_neg hbefore]
      by_cases hkey : key = k
      · subst hkey
        rw [if_pos rfl, lookup_cons_eq_ite, lookup_cons_eq_ite]
        by_cases hname : name = key <;> simp [hname]
      · rw [if_neg hkey, lookup_cons_eq_ite, lookup_cons_eq_ite, ih]
        by_cases hname : name = k
        · have hne : name ≠ key := fun heq => hkey (heq.symm.trans hname)
          rw [if_pos hname, if_neg hne, if_pos hname]
        · rw [if_neg hname, if_neg hname]

theorem mem_of_mem_insert (h : entry ∈ named.insert key a) :
    entry = (key, a) ∨ entry ∈ named := by
  induction named with
  | nil => exact Or.inl (List.mem_singleton.mp h)
  | cons first rest ih =>
    obtain ⟨k, c⟩ := first
    rw [insert] at h
    by_cases hbefore : key < k
    · rw [if_pos hbefore] at h
      exact List.mem_cons.mp h
    · rw [if_neg hbefore] at h
      by_cases hkey : key = k
      · rw [if_pos hkey] at h
        exact (List.mem_cons.mp h).imp_right (List.mem_cons_of_mem _)
      · rw [if_neg hkey] at h
        rcases List.mem_cons.mp h with h | h
        · exact Or.inr (h ▸ List.mem_cons_self)
        · exact (ih h).imp_right (List.mem_cons_of_mem _)

theorem mem_names_insert :
    name ∈ (named.insert key a).names ↔ name = key ∨ name ∈ named.names := by
  induction named with
  | nil => simp [insert, names]
  | cons first rest ih =>
    obtain ⟨k, c⟩ := first
    rw [insert]
    by_cases hbefore : key < k
    · simp [hbefore, names]
    · by_cases hkey : key = k
      · simp [hkey, names]
      · simp only [names] at ih
        simp only [hbefore, hkey, if_false, names, List.map_cons, List.mem_cons, ih]
        exact or_left_comm

/-- The names stand in strictly ascending order. -/
def Ascending (named : Named α) : Prop := named.Pairwise fun x y => x.1 < y.1

/-- A collection in order all of whose values have a property. -/
def Each (P : α → Prop) (named : Named α) : Prop := named.Ascending ∧ ∀ e ∈ named, P e.2

theorem each_singleton {P : α → Prop} : Each P [(name, a)] ↔ P a := by
  simp [Each, Ascending]

theorem Ascending.nodup (h : named.Ascending) : named.names.Nodup := by
  rw [names, List.Nodup, List.pairwise_map]
  exact List.Pairwise.imp (fun hlt => ne_of_lt hlt) h

theorem Ascending.insert (h : named.Ascending) : (named.insert key a).Ascending := by
  induction named with
  | nil => exact List.pairwise_singleton _ _
  | cons first rest ih =>
    obtain ⟨k, c⟩ := first
    obtain ⟨hfirst, hrest⟩ := List.pairwise_cons.mp h
    rw [Named.insert]
    by_cases hbefore : key < k
    · rw [if_pos hbefore]
      refine List.pairwise_cons.mpr ⟨fun e he => ?_, h⟩
      rcases List.mem_cons.mp he with rfl | he
      · exact hbefore
      · exact lt_trans hbefore (hfirst e he)
    · rw [if_neg hbefore]
      by_cases hkey : key = k
      · rw [if_pos hkey]
        exact List.pairwise_cons.mpr ⟨fun e he => hkey ▸ hfirst e he, hrest⟩
      · rw [if_neg hkey]
        have hafter : k < key := lt_of_le_of_ne (not_lt.mp hbefore) (Ne.symm hkey)
        refine List.pairwise_cons.mpr ⟨fun e he => ?_, ih hrest⟩
        rcases mem_of_mem_insert he with rfl | he
        · exact hafter
        · exact hfirst e he

/-- Added one after the other, entries with distinct names are all there, in place of what had
their names before. -/
theorem lookup_foldl_insert (hdistinct : (entries.map Prod.fst).Nodup) :
    List.lookup name (entries.foldl (fun named e => Named.insert e.1 e.2 named) named) =
      (List.lookup name entries).or (List.lookup name named) := by
  induction entries generalizing named with
  | nil => rfl
  | cons first rest ih =>
    obtain ⟨key, a⟩ := first
    obtain ⟨hfirst, hrest⟩ := List.nodup_cons.mp hdistinct
    rw [List.foldl_cons, ih hrest, lookup_insert, lookup_cons_eq_ite]
    by_cases hname : name = key
    · subst hname
      have hlast : List.lookup name rest = none := by
        refine List.lookup_eq_none_iff.mpr fun e he => ?_
        have hmem : e.1 ∈ rest.map Prod.fst := List.mem_map_of_mem he
        exact bne_iff_ne.mpr fun heq => hfirst (heq ▸ hmem)
      rw [if_pos rfl, if_pos rfl, hlast]
      rfl
    · rw [if_neg hname, if_neg hname]

theorem Ascending.foldl_insert (h : named.Ascending) :
    (entries.foldl (fun named e => Named.insert e.1 e.2 named) named).Ascending := by
  induction entries generalizing named with
  | nil => exact h
  | cons first rest ih => exact ih h.insert

theorem mem_of_mem_foldl_insert (h : entry ∈ entries.foldl
    (fun named e => named.insert e.1 e.2) named) : entry ∈ entries ∨ entry ∈ named := by
  induction entries generalizing named with
  | nil => exact Or.inr h
  | cons first entries ih =>
    rcases ih h with hentries | hinsert
    · exact Or.inl (List.mem_cons_of_mem _ hentries)
    · rcases mem_of_mem_insert hinsert with rfl | hnamed
      · exact Or.inl List.mem_cons_self
      · exact Or.inr hnamed

theorem mem_names_foldl_insert :
    name ∈ (entries.foldl (fun named e => named.insert e.1 e.2) named).names ↔
      name ∈ entries.map Prod.fst ∨ name ∈ named.names := by
  induction entries generalizing named with
  | nil => simp
  | cons first entries ih =>
    rw [List.foldl_cons, ih, mem_names_insert, List.map_cons, List.mem_cons]
    tauto

theorem mem_of_mem_ofList (h : entry ∈ ofList entries) : entry ∈ entries :=
  (mem_of_mem_foldl_insert h).resolve_right List.not_mem_nil

theorem mem_names_ofList : name ∈ (ofList entries).names ↔ name ∈ entries.map Prod.fst := by
  rw [ofList, mem_names_foldl_insert, or_iff_left]
  exact List.not_mem_nil

theorem perm_insert (h : key ∉ named.names) : (named.insert key a).Perm ((key, a) :: named) := by
  induction named with
  | nil => exact List.Perm.refl _
  | cons first rest ih =>
    obtain ⟨k, c⟩ := first
    obtain ⟨hkey, hrest⟩ : key ≠ k ∧ key ∉ rest.map Prod.fst := by simpa [names] using h
    rw [insert, if_neg hkey]
    by_cases hbefore : key < k
    · rw [if_pos hbefore]
    · rw [if_neg hbefore]
      exact ((ih hrest).cons (k, c)).trans (List.Perm.swap ..)

/-- Entries with distinct names are only put in order. -/
theorem perm_ofList (h : (entries.map Prod.fst).Nodup) : (ofList entries).Perm entries := by
  induction entries using List.reverseRecOn with
  | nil => exact List.Perm.refl _
  | append_singleton entries last ih =>
    rw [List.map_append, List.map_singleton, List.nodup_append] at h
    obtain ⟨hentries, -, hdisjoint⟩ := h
    have hlast : last.1 ∉ (ofList entries).names := fun hmem =>
      hdisjoint _ (mem_names_ofList.mp hmem) _ (List.mem_singleton_self _) rfl
    rw [ofList, List.foldl_concat, ← ofList]
    exact (perm_insert hlast).trans
      (((ih hentries).cons last).trans (List.perm_append_singleton last entries).symm)

theorem ascending_ofList (entries : List (String × α)) : (ofList entries).Ascending :=
  Ascending.foldl_insert List.Pairwise.nil

/-- A collection is what its entries are put together to, in whatever order they come. -/
theorem ofList_of_perm (h : named.Ascending) (hperm : entries.Perm named) :
    ofList entries = named := by
  have hnodup : (entries.map Prod.fst).Nodup := (hperm.map Prod.fst).nodup_iff.mpr h.nodup
  refine ((perm_ofList hnodup).trans hperm).eq_of_pairwise ?_ (ascending_ofList entries) h
  intro x y _ _ hlt hgt
  exact absurd hgt (lt_asymm hlt)

section Map

variable {β : Type} (f : String → α → β)

theorem insert_map (key : String) (a : α) (named : Named α) :
    insert key (f key a) (named.map fun e => (e.1, f e.1 e.2)) =
      (named.insert key a).map fun e => (e.1, f e.1 e.2) := by
  induction named with
  | nil => rfl
  | cons e rest ih =>
    rw [List.map_cons, insert, insert]
    split
    · rfl
    split
    · rfl
    · rw [ih, List.map_cons]

theorem foldl_insert_map (entries : List (String × α)) (named : Named α) :
    (entries.map fun e => (e.1, f e.1 e.2)).foldl (fun named e => insert e.1 e.2 named)
        (named.map fun e => (e.1, f e.1 e.2)) =
      (entries.foldl (fun named e => insert e.1 e.2 named) named).map
        fun e => (e.1, f e.1 e.2) := by
  induction entries generalizing named with
  | nil => rfl
  | cons e entries ih => rw [List.map_cons, List.foldl_cons, List.foldl_cons, insert_map, ih]

/-- What is made of each value by its name is made of those that stay. -/
theorem ofList_map (entries : List (String × α)) :
    ofList (entries.map fun e => (e.1, f e.1 e.2)) =
      (ofList entries).map fun e => (e.1, f e.1 e.2) :=
  foldl_insert_map f entries []

end Map

end Named

/-! ### Names alone -/

theorem mem_insertName {name key : String} {names : List String} :
    name ∈ insertName key names ↔ name = key ∨ name ∈ names := by
  induction names with
  | nil => simp [insertName]
  | cons first rest ih =>
    rw [insertName]
    by_cases hbefore : key < first
    · rw [if_pos hbefore, List.mem_cons]
    · rw [if_neg hbefore]
      by_cases hkey : key = first
      · rw [if_pos hkey, hkey, List.mem_cons, or_self_left]
      · rw [if_neg hkey, List.mem_cons, List.mem_cons, ih]
        exact or_left_comm

theorem mem_foldl_insertName {name : String} {names sorted : List String} :
    name ∈ names.foldl (fun sorted name => insertName name sorted) sorted ↔
      name ∈ names ∨ name ∈ sorted := by
  induction names generalizing sorted with
  | nil => simp
  | cons first names ih =>
    rw [List.foldl_cons, ih, mem_insertName, List.mem_cons]
    tauto

theorem mem_sortNames {name : String} {names : List String} :
    name ∈ sortNames names ↔ name ∈ names := by
  rw [sortNames, mem_foldl_insertName, or_iff_left]
  exact List.not_mem_nil

end DocSearch
