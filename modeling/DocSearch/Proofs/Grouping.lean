import DocSearch.Corpus.Tally
import DocSearch.Proofs.Sorting
import Mathlib.Algebra.GroupWithZero.Nat
import Mathlib.Data.List.Nodup

/-!
# Documents grouped by a value

A document occurs at a field once for each of the values that it has there. Documents are grouped
one occurrence after the other, and what each of these steps keeps is that the groups are those of
the occurrences so far: one for each value, with the documents that carry it.
-/

namespace DocSearch

/-- A text or an integer, which is the same as another value only if it is that value. -/
def Json.Plain : Json → Prop
  | .string _ | .int _ => True
  | _ => False

instance : DecidablePred Json.Plain := fun v =>
  match v with
  | .string _ | .int _ => .isTrue trivial
  | .null | .bool _ | .float _ | .array _ | .object _ => .isFalse id

theorem Json.same_iff_eq {j v : Json} (hv : v.Plain) : Json.same j v = true ↔ j = v := by
  cases v with
  | string s => cases j <;> simp [Json.same]
  | int n => cases j <;> simp [Json.same]
  | _ => exact absurd hv id

/-- The values that documents have at a field, each with its document. -/
def occurrences (field : String) (docs : List Json) : List (Json × Json) :=
  docs.flatMap fun doc => (valuesAt doc field).map fun v => (v, doc)

/-- The documents that occur with a value, each as often as it does. -/
def carriers (value : Json) (occurring : List (Json × Json)) : List Json :=
  (occurring.filter fun o => Json.same value o.1).map Prod.snd

section Occurrences

variable {field : String} {docs : List Json} {occurring : List (Json × Json)} {key doc : Json}

theorem mem_occurrences {o : Json × Json} :
    o ∈ occurrences field docs ↔ o.2 ∈ docs ∧ o.1 ∈ valuesAt o.2 field := by
  obtain ⟨v, d⟩ := o
  simp only [occurrences, List.mem_flatMap, List.mem_map, Prod.mk.injEq]
  constructor
  · rintro ⟨d', hd', v', hv', rfl, rfl⟩
    exact ⟨hd', hv'⟩
  · rintro ⟨hd, hv⟩
    exact ⟨d, hd, v, hv, rfl, rfl⟩

theorem length_occurrences_le {k : Nat} (h : ∀ doc ∈ docs, (valuesAt doc field).length ≤ k) :
    (occurrences field docs).length ≤ docs.length * k := by
  induction docs with
  | nil => simp [occurrences]
  | cons doc docs ih =>
    obtain ⟨hdoc, hdocs⟩ := List.forall_mem_cons.mp h
    have hrest := ih hdocs
    rw [occurrences] at hrest
    rw [occurrences, List.flatMap_cons, List.length_append, List.length_map, List.length_cons,
      Nat.add_mul, Nat.one_mul]
    omega

theorem mem_of_mem_carriers (h : doc ∈ carriers key (occurrences field docs)) : doc ∈ docs := by
  obtain ⟨o, ho, rfl⟩ := List.mem_map.mp h
  exact (mem_occurrences.mp (List.mem_filter.mp ho).1).1

theorem length_carriers_le : (carriers key occurring).length ≤ occurring.length := by
  rw [carriers, List.length_map]
  exact List.length_filter_le _ _

theorem carriers_append (others : List (Json × Json)) :
    carriers key (occurring ++ others) = carriers key occurring ++ carriers key others := by
  rw [carriers, List.filter_append, List.map_append]
  rfl

theorem carriers_of_not_mem (hplain : ∀ o ∈ occurring, o.1.Plain)
    (hkey : key ∉ occurring.map Prod.fst) : carriers key occurring = [] := by
  rw [carriers, List.map_eq_nil_iff, List.filter_eq_nil_iff]
  intro o ho hsame
  rw [Json.same_iff_eq (hplain o ho)] at hsame
  exact hkey (hsame ▸ List.mem_map_of_mem ho)

theorem carriers_singleton_self (hkey : key.Plain) : carriers key [(key, doc)] = [doc] := by
  simp [carriers, (Json.same_iff_eq hkey).mpr rfl]

theorem carriers_singleton_of_ne {other : Json} (hkey : key.Plain) (hne : other ≠ key) :
    carriers other [(key, doc)] = [] :=
  carriers_of_not_mem (by simpa using hkey) (by simpa using hne)

end Occurrences

/-! ### Adding to groups -/

namespace Groups

variable {groups back : Groups} {occurring : List (Json × Json)} {key doc : Json}

theorem add_of_not_mem (hplain : key.Plain) (hkey : key ∉ groups.map Prod.fst) :
    add key doc groups = groups ++ [(key, [doc])] := by
  induction groups with
  | nil => rfl
  | cons g groups ih =>
    obtain ⟨k, members⟩ := g
    rw [List.map_cons, List.mem_cons, not_or] at hkey
    have hsame : ¬ Json.same k key = true := by
      rw [Json.same_iff_eq hplain]
      exact Ne.symm hkey.1
    rw [add, if_neg hsame, ih hkey.2, List.cons_append]

theorem add_of_mem (hplain : key.Plain) {members : List Json}
    (hkey : key ∉ groups.map Prod.fst) :
    add key doc (groups ++ (key, members) :: back) =
      groups ++ (key, members ++ [doc]) :: back := by
  induction groups with
  | nil => rw [List.nil_append, add, if_pos ((Json.same_iff_eq hplain).mpr rfl), List.nil_append]
  | cons g groups ih =>
    obtain ⟨k, others⟩ := g
    rw [List.map_cons, List.mem_cons, not_or] at hkey
    have hsame : ¬ Json.same k key = true := by
      rw [Json.same_iff_eq hplain]
      exact Ne.symm hkey.1
    rw [List.cons_append, add, if_neg hsame, ih hkey.2, List.cons_append]

/-- The groups of some occurrences: one for each value that occurs, with its carriers, and each
occurrence in one of them. -/
structure Collect (groups : Groups) (occurring : List (Json × Json)) : Prop where
  distinct : (groups.map Prod.fst).Nodup
  keys : ∀ key, key ∈ groups.map Prod.fst ↔ key ∈ occurring.map Prod.fst
  members : ∀ g ∈ groups, g.2 = carriers g.1 occurring
  total : (groups.map fun g => g.2.length).sum = occurring.length

theorem Collect.of_perm {sorted : Groups} (h : Collect groups occurring)
    (hperm : sorted.Perm groups) : Collect sorted occurring where
  distinct := (hperm.map Prod.fst).nodup_iff.mpr h.distinct
  keys key := ((hperm.map Prod.fst).mem_iff).trans (h.keys key)
  members g hg := h.members g (hperm.mem_iff.mp hg)
  total := ((hperm.map _).sum_nat).trans h.total

/-- One more occurrence of a value goes to its group, or opens one. -/
theorem Collect.add (h : Collect groups occurring) (hplain : ∀ o ∈ occurring, o.1.Plain)
    (hkey : key.Plain) :
    Collect (Groups.add key doc groups) (occurring ++ [(key, doc)]) := by
  -- the carriers of the other values stay the same
  have hothers : ∀ g ∈ groups, g.1 ≠ key → g.2 = carriers g.1 (occurring ++ [(key, doc)]) := by
    intro g hg hne
    rw [carriers_append, carriers_singleton_of_ne hkey hne, List.append_nil]
    exact h.members g hg
  by_cases hmem : key ∈ groups.map Prod.fst
  · obtain ⟨⟨k, members⟩, hg, rfl⟩ := List.mem_map.mp hmem
    obtain ⟨front, back, rfl⟩ := List.append_of_mem hg
    have hdistinct := h.distinct
    rw [List.map_append, List.map_cons, List.nodup_middle, List.nodup_cons, List.mem_append,
      not_or] at hdistinct
    obtain ⟨⟨hfront, hback⟩, -⟩ := hdistinct
    rw [add_of_mem hkey hfront]
    refine ⟨?_, fun other => ?_, fun g hg => ?_, ?_⟩
    · simpa using h.distinct
    · have hkeys := h.keys other
      have hold := (h.keys k).mp hmem
      simp only [List.map_append, List.map_cons, List.mem_append, List.mem_cons, List.map_nil,
        List.not_mem_nil, or_false] at hkeys ⊢
      rw [hkeys]
      refine ⟨Or.inl, fun hother => hother.elim id ?_⟩
      rintro rfl
      exact hold
    · rcases List.mem_append.mp hg with hg' | hg'
      · exact hothers g (by simp [hg']) fun heq => hfront (heq ▸ List.mem_map_of_mem hg')
      · rcases List.mem_cons.mp hg' with rfl | hg''
        · have hmembers : members = carriers k occurring := h.members (k, members) (by simp)
          rw [carriers_append, carriers_singleton_self hkey, ← hmembers]
        · exact hothers g (by simp [hg'']) fun heq => hback (heq ▸ List.mem_map_of_mem hg'')
    · have htotal := h.total
      simp only [List.map_append, List.map_cons, List.sum_append_nat, List.sum_cons,
        List.length_append, List.length_singleton] at htotal ⊢
      omega
  · rw [add_of_not_mem hkey hmem]
    have hnew : key ∉ occurring.map Prod.fst := fun hold => hmem ((h.keys key).mpr hold)
    refine ⟨?_, fun k => ?_, fun g hg => ?_, ?_⟩
    · rw [List.map_append, List.map_singleton]
      refine List.nodup_append.mpr ⟨h.distinct, List.nodup_singleton key, fun k hk other ho => ?_⟩
      intro heq
      obtain rfl : k = key := heq.trans (List.mem_singleton.mp ho)
      exact hmem hk
    · simp only [List.map_append, List.map_singleton, List.mem_append, h.keys k]
    · rcases List.mem_append.mp hg with hg | hg
      · exact hothers g hg fun heq => hmem (heq ▸ List.mem_map_of_mem hg)
      · obtain rfl := List.mem_singleton.mp hg
        rw [carriers_append, carriers_of_not_mem hplain hnew, carriers_singleton_self hkey]
        rfl
    · simp [h.total]

theorem Collect.foldl {further : List (Json × Json)} (h : Collect groups occurring)
    (hplain : ∀ o ∈ occurring ++ further, o.1.Plain) :
    Collect (further.foldl (fun groups o => Groups.add o.1 o.2 groups) groups)
      (occurring ++ further) := by
  induction further generalizing groups occurring with
  | nil => rwa [List.append_nil]
  | cons o further ih =>
    rw [List.append_cons] at hplain ⊢
    have hbefore : ∀ o' ∈ occurring ++ [o], o'.1.Plain :=
      fun o' ho' => hplain o' (List.mem_append_left _ ho')
    refine ih (h.add (fun o' ho' => hbefore o' (List.mem_append_left _ ho')) ?_) hplain
    exact hbefore o (by simp)

end Groups

theorem groupBy_eq_foldl (field : String) (docs : List Json) :
    groupBy field docs =
      (occurrences field docs).foldl (fun groups o => Groups.add o.1 o.2 groups) [] := by
  rw [occurrences, List.foldl_flatMap, groupBy]
  simp only [List.foldl_map]

theorem collect_groupBy {field : String} {docs : List Json}
    (hplain : ∀ o ∈ occurrences field docs, o.1.Plain) :
    Groups.Collect (groupBy field docs) (occurrences field docs) := by
  have hnone : Groups.Collect [] [] := ⟨List.Pairwise.nil, by simp, by simp, rfl⟩
  rw [groupBy_eq_foldl]
  exact hnone.foldl hplain

/-! ### The groups that are listed -/

/-- The groups of a field in the order in which they are listed. -/
def sortedGroups (field : String) (docs : List Json) : Groups :=
  sortBy listedBefore (groupBy field docs)

/-- The groups of a field that become buckets. -/
def listedGroups (field : String) (docs : List Json) : Groups :=
  (sortedGroups field docs).take defaultBuckets

/-- How many occurrences are in groups that do not become buckets. -/
def unlistedCount (field : String) (docs : List Json) : Nat :=
  (((sortedGroups field docs).drop defaultBuckets).map fun g => g.2.length).sum

section Listed

variable {field : String} {docs : List Json} {g : Json × List Json}
  (hplain : ∀ o ∈ occurrences field docs, o.1.Plain)

include hplain

theorem collect_sortedGroups :
    Groups.Collect (sortedGroups field docs) (occurrences field docs) :=
  (collect_groupBy hplain).of_perm (perm_sortBy _ _)

theorem nodup_listedGroups : ((listedGroups field docs).map Prod.fst).Nodup := by
  rw [listedGroups, List.map_take]
  exact (collect_sortedGroups hplain).distinct.sublist (List.take_sublist _ _)

theorem members_of_mem_listedGroups (hg : g ∈ listedGroups field docs) :
    g.2 = carriers g.1 (occurrences field docs) :=
  (collect_sortedGroups hplain).members g (List.mem_of_mem_take hg)

theorem key_of_mem_listedGroups (hg : g ∈ listedGroups field docs) :
    g.1 ∈ (occurrences field docs).map Prod.fst :=
  ((collect_sortedGroups hplain).keys g.1).mp (List.mem_map_of_mem (List.mem_of_mem_take hg))

theorem sum_listedGroups :
    ((listedGroups field docs).map fun g => g.2.length).sum + unlistedCount field docs =
      (occurrences field docs).length := by
  calc ((listedGroups field docs).map fun g => g.2.length).sum + unlistedCount field docs
      = ((sortedGroups field docs).map fun g => g.2.length).sum := by
        rw [unlistedCount, ← List.sum_append_nat, ← List.map_append, listedGroups,
          List.take_append_drop]
    _ = (occurrences field docs).length := (collect_sortedGroups hplain).total

theorem listedGroups_eq_nil_iff :
    listedGroups field docs = [] ↔ occurrences field docs = [] := by
  constructor
  · intro hnil
    have hsorted : sortedGroups field docs = [] :=
      (List.take_eq_nil_iff.mp hnil).resolve_left (by decide)
    have htotal := (collect_sortedGroups hplain).total
    rw [hsorted] at htotal
    exact List.length_eq_zero_iff.mp htotal.symm
  · intro hnone
    refine List.eq_nil_iff_forall_not_mem.mpr fun g hg => ?_
    have hkey := key_of_mem_listedGroups hplain hg
    rw [hnone] at hkey
    exact List.not_mem_nil hkey

end Listed

end DocSearch
