import DocSearch.Proofs.Outcome
import DocSearch.Validation

/-!
# The conditions of a scope

A scope keeps its conditions in eleven lists, one for each kind. Here it is seen as one collection:
a condition belongs to a scope if it stands in the list of its kind, and a scope passes its checks
exactly when each of its conditions does.
-/

namespace DocSearch

namespace Clause

/-- The check of a condition itself, whatever its kind. -/
def validate : Clause → Except ValidationError Unit
  | .where_ p => p.validate
  | .whereIn p => p.validate
  | .whereNotIn p => p.validate
  | .filter p => p.validate
  | .filterIn p => p.validate
  | .match_ p => p.validate
  | .matchIn p => p.validate
  | .matchNotIn p => p.validate
  | .phrase p => p.validate
  | .phraseIn p => p.validate
  | .phraseNotIn p => p.validate

/-- All checks of a condition in a scope. -/
def check (schema : Option Schema) (nested : Bool) (c : Clause) : Except ValidationError Unit :=
  checkClause schema nested c.field c.validate

end Clause

namespace Clauses

/-- A condition stands in the list of its kind. -/
protected def Mem (cs : Clauses) : Clause → Prop
  | .where_ p => p ∈ cs.wheres
  | .whereIn p => p ∈ cs.whereIns
  | .whereNotIn p => p ∈ cs.whereNotIns
  | .filter p => p ∈ cs.filters
  | .filterIn p => p ∈ cs.filterIns
  | .match_ p => p ∈ cs.matches_
  | .matchIn p => p ∈ cs.matchIns
  | .matchNotIn p => p ∈ cs.matchNotIns
  | .phrase p => p ∈ cs.phrases
  | .phraseIn p => p ∈ cs.phraseIns
  | .phraseNotIn p => p ∈ cs.phraseNotIns

instance : Membership Clause Clauses := ⟨Clauses.Mem⟩

theorem mem_def {cs : Clauses} {c : Clause} : c ∈ cs ↔ cs.Mem c := Iff.rfl

theorem not_mem_empty (c : Clause) : c ∉ ({} : Clauses) := by
  rw [mem_def]
  cases c <;> exact List.not_mem_nil

theorem mem_add {cs : Clauses} {c d : Clause} : c ∈ cs.add d ↔ c ∈ cs ∨ c = d := by
  simp only [mem_def]
  cases d <;> cases c <;> simp [add, Clauses.Mem]

/-- What holds of all conditions holds of those of each kind. The kinds come in the order of the
checks. -/
theorem forall_mem_iff {cs : Clauses} {P : Clause → Prop} :
    (∀ c ∈ cs, P c) ↔
      (∀ p ∈ cs.whereIns, P (.whereIn p)) ∧ (∀ p ∈ cs.whereNotIns, P (.whereNotIn p)) ∧
      (∀ p ∈ cs.wheres, P (.where_ p)) ∧ (∀ p ∈ cs.filterIns, P (.filterIn p)) ∧
      (∀ p ∈ cs.filters, P (.filter p)) ∧ (∀ p ∈ cs.matchIns, P (.matchIn p)) ∧
      (∀ p ∈ cs.matchNotIns, P (.matchNotIn p)) ∧ (∀ p ∈ cs.matches_, P (.match_ p)) ∧
      (∀ p ∈ cs.phraseIns, P (.phraseIn p)) ∧ (∀ p ∈ cs.phraseNotIns, P (.phraseNotIn p)) ∧
      (∀ p ∈ cs.phrases, P (.phrase p)) := by
  constructor
  · intro h
    exact ⟨fun p hp => h (.whereIn p) hp, fun p hp => h (.whereNotIn p) hp,
      fun p hp => h (.where_ p) hp, fun p hp => h (.filterIn p) hp,
      fun p hp => h (.filter p) hp, fun p hp => h (.matchIn p) hp,
      fun p hp => h (.matchNotIn p) hp, fun p hp => h (.match_ p) hp,
      fun p hp => h (.phraseIn p) hp, fun p hp => h (.phraseNotIn p) hp,
      fun p hp => h (.phrase p) hp⟩
  · rintro ⟨hwhereIns, hwhereNotIns, hwheres, hfilterIns, hfilters, hmatchIns, hmatchNotIns,
      hmatches, hphraseIns, hphraseNotIns, hphrases⟩ c hc
    cases c with
    | where_ p => exact hwheres p hc
    | whereIn p => exact hwhereIns p hc
    | whereNotIn p => exact hwhereNotIns p hc
    | filter p => exact hfilters p hc
    | filterIn p => exact hfilterIns p hc
    | match_ p => exact hmatches p hc
    | matchIn p => exact hmatchIns p hc
    | matchNotIn p => exact hmatchNotIns p hc
    | phrase p => exact hphrases p hc
    | phraseIn p => exact hphraseIns p hc
    | phraseNotIn p => exact hphraseNotIns p hc

end Clauses

/-! ### Passing the checks -/

theorem checkAll_eq_ok_iff {α : Type} {check : α → Except ValidationError Unit} {as : List α} :
    checkAll check as = .ok () ↔ ∀ a ∈ as, check a = .ok () := by
  induction as with
  | nil => simp [checkAll]
  | cons a as ih => rw [checkAll, check_bind_eq_ok_iff, ih, List.forall_mem_cons]

theorem Clauses.validate_eq_ok_iff {cs : Clauses} {schema : Option Schema} {nested : Bool} :
    cs.validate schema nested = .ok () ↔ ∀ c ∈ cs, c.check schema nested = .ok () := by
  rw [forall_mem_iff]
  simp only [Clauses.validate, checkSets, checkPredicates, check_bind_eq_ok_iff,
    checkAll_eq_ok_iff, Clause.check, Clause.validate, Clause.field]

theorem Clause.check_eq_ok_iff {schema : Option Schema} {nested : Bool} {c : Clause} :
    c.check schema nested = .ok () ↔
      checkNestedName nested c.field = .ok () ∧ c.validate = .ok () ∧
        checkField schema c.field = .ok () := by
  rw [Clause.check, checkClause, check_bind_eq_ok_iff, check_bind_eq_ok_iff]

theorem NestedGroup.validate_eq_ok_iff {g : NestedGroup} {schema : Option Schema} :
    g.validate schema = .ok () ↔ g.path ≠ "" ∧ ∀ c ∈ g.clauses, c.check schema true = .ok () := by
  unfold NestedGroup.validate
  by_cases hpath : g.path = ""
  · simp [hpath]
  · have hempty : g.path.isEmpty = false := by simpa using hpath
    simp [hempty, hpath, Clauses.validate_eq_ok_iff]

/-- A query passes exactly when all its conditions do and no group has an empty path. -/
theorem Builder.validateClauses_eq_ok_iff {b : Builder} :
    b.validateClauses = .ok () ↔
      (∀ c ∈ b.clauses, c.check b.schema false = .ok ()) ∧
        ∀ g ∈ b.nested, g.path ≠ "" ∧ ∀ c ∈ g.clauses, c.check b.schema true = .ok () := by
  simp only [Builder.validateClauses, check_bind_eq_ok_iff, Clauses.validate_eq_ok_iff,
    checkAll_eq_ok_iff, NestedGroup.validate_eq_ok_iff]

end DocSearch
