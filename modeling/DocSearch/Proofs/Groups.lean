import DocSearch.Proofs.Conditions

/-!
# Queries that calls can build

A call puts a nested condition into the group of the path of its field. So in every query that is
built by calls the conditions of a group have its path, which is all that the meaning of a nested
query needs.
-/

namespace DocSearch

namespace NestedGroup

/-- All conditions of a group belong to its path. -/
def Placed (g : NestedGroup) : Prop := ∀ c ∈ g.clauses, (nestedPath c.field).getD "" = g.path

theorem placed_open {path : String} {c : Clause} (h : (nestedPath c.field).getD "" = path) :
    Placed ⟨path, Clauses.add {} c⟩ := by
  intro d hd
  rcases Clauses.mem_add.mp hd with hd | rfl
  · exact absurd hd (Clauses.not_mem_empty d)
  · exact h

theorem Placed.add {g : NestedGroup} (hg : g.Placed) {c : Clause}
    (h : (nestedPath c.field).getD "" = g.path) : Placed { g with clauses := g.clauses.add c } := by
  intro d hd
  rcases Clauses.mem_add.mp hd with hd | rfl
  · exact hg d hd
  · exact h

/-- In a group with a path the path of each field is that of the group. -/
theorem Placed.nestedPath_eq {g : NestedGroup} (hg : g.Placed) (hpath : g.path ≠ "") {c : Clause}
    (hc : c ∈ g.clauses) : nestedPath c.field = some g.path := by
  have hplaced := hg c hc
  cases hfield : nestedPath c.field with
  | none =>
    rw [hfield] at hplaced
    exact absurd hplaced.symm hpath
  | some path =>
    rw [hfield] at hplaced
    exact congrArg some hplaced

end NestedGroup

theorem placed_addToGroup {path : String} {c : Clause} {gs : List NestedGroup}
    (h : (nestedPath c.field).getD "" = path) (hgs : ∀ g ∈ gs, g.Placed) :
    ∀ g ∈ addToGroup path c gs, g.Placed := by
  induction gs with
  | nil =>
    intro g hg
    rw [addToGroup, List.mem_singleton] at hg
    exact hg ▸ NestedGroup.placed_open h
  | cons first gs ih =>
    obtain ⟨hfirst, hrest⟩ := List.forall_mem_cons.mp hgs
    rw [addToGroup]
    by_cases hpath : first.path = path
    · rw [if_pos hpath, List.forall_mem_cons]
      exact ⟨hfirst.add (h.trans hpath.symm), hrest⟩
    · rw [if_neg hpath, List.forall_mem_cons]
      exact ⟨hfirst, ih hrest⟩

namespace Builder

/-- A query that calls build from a new one, with or without a schema. -/
def Reachable (b : Builder) : Prop :=
  ∃ (schema : Option Schema) (calls : List Call),
    b = ({ schema := schema } : Builder).applyAll calls

/-- Every nested condition stands in the group of its path. -/
def Placed (b : Builder) : Prop := ∀ g ∈ b.nested, g.Placed

theorem Placed.apply {b : Builder} (h : b.Placed) (call : Call) : (b.apply call).Placed := by
  cases call with
  | nestedClause c => exact placed_addToGroup rfl h
  | clear => exact fun g hg => absurd hg List.not_mem_nil
  | _ => exact h

theorem Placed.applyAll {b : Builder} (h : b.Placed) (calls : List Call) :
    (b.applyAll calls).Placed := by
  induction calls generalizing b with
  | nil => exact h
  | cons call calls ih => exact ih (h.apply call)

theorem Reachable.placed {b : Builder} (h : b.Reachable) : b.Placed := by
  obtain ⟨schema, calls, rfl⟩ := h
  exact Placed.applyAll (fun g hg => absurd hg List.not_mem_nil) calls

end Builder

end DocSearch
