import DocSearch.Proofs.Conditions
import DocSearch.Query.Compile
import Mathlib.Tactic.Choose

/-!
# Families that cannot fail

The checks and the compiler read operators and values on their own: the checks by the tables of a
context, the compiler by the shape of the query that it makes. What passes the checks is compiled
without a failure, so the order in which the families are done, which decides between failures,
decides nothing.
-/

namespace DocSearch

/-! ### Single conditions -/

section Predicate

variable {context : Context} {p : Predicate context} {op : Operator}

theorem Predicate.allowed_eq_ok_iff :
    p.allowed = .ok op ↔ p.operator? = some op ∧ op ∈ context.operators := by
  unfold Predicate.allowed
  cases hop : p.operator? with
  | none => simp
  | some written =>
    by_cases hmem : written ∈ context.operators
    · simp only [if_pos hmem, Except.ok.injEq, Option.some.injEq]
      exact ⟨fun heq => ⟨heq, heq ▸ hmem⟩, fun h => h.1⟩
    · simp only [if_neg hmem, reduceCtorEq, Option.some.injEq, false_iff]
      exact fun h => hmem (h.1 ▸ h.2)

/-- The operators that a context allows with any text only ask for equality. -/
theorem Context.isRange_eq_false_of_mem (h : op ∈ context.textOperators) : op.isRange = false := by
  cases context <;> cases op <;> first | rfl | (revert h; decide)

theorem Predicate.validate_eq_ok_iff :
    p.validate = .ok () ↔ ∃ op, p.allowed = .ok op ∧
      (p.value.isRangeable = true ∨ p.value.isText = true ∧ op ∈ context.textOperators) := by
  rw [Predicate.validate, bind_eq_ok_iff]
  refine exists_congr fun op => and_congr_right fun _ => ?_
  by_cases hrange : p.value.isRangeable = true
  · simp [hrange]
  · cases hvalue : p.value with
    | text s => by_cases hmem : op ∈ context.textOperators <;> simp_all [Scalar.isText]
    | _ => simp_all [Scalar.isText]

/-- A condition that passes and compares by size has a value that can be so compared. -/
theorem Predicate.isRangeable_of_validate (h : p.validate = .ok ()) (hop : p.allowed = .ok op)
    (hrange : op.isRange = true) : p.value.isRangeable = true := by
  obtain ⟨op', hop', hvalue⟩ := Predicate.validate_eq_ok_iff.mp h
  obtain rfl : op = op' := Except.ok.inj (hop.symm.trans hop')
  rcases hvalue with hvalue | ⟨_, hmem⟩
  · exact hvalue
  · rw [Context.isRange_eq_false_of_mem hmem] at hrange
    exact absurd hrange (by simp)

theorem rangeClause_isOk (hvalue : p.value.isRangeable = true) (hrange : op.isRange = true) :
    ∃ q, rangeClause p op = .ok q := by
  cases op <;> simp_all [rangeClause, Operator.isRange]

theorem textClause_isOk {make : String → Json → Query} (h : p.validate = .ok ()) :
    ∃ family, textClause make p = .ok family := by
  obtain ⟨op, hop, _⟩ := Predicate.validate_eq_ok_iff.mp h
  rw [textClause, hop, ok_bind]
  cases op <;> exact ⟨_, rfl⟩

end Predicate

theorem whereClause_isOk {p : Predicate .scored} (h : p.validate = .ok ()) :
    ∃ family, whereClause p = .ok family := by
  obtain ⟨op, hop, _⟩ := Predicate.validate_eq_ok_iff.mp h
  rw [whereClause, hop, ok_bind]
  by_cases hrange : op.isRange = true
  · obtain ⟨q, hq⟩ := rangeClause_isOk (Predicate.isRangeable_of_validate h hop hrange) hrange
    cases op <;> simp_all [Operator.isRange, pure, Except.pure]
  · cases op <;> simp_all [Operator.isRange, pure, Except.pure]

theorem filterClause_isOk {p : Predicate .filter} (h : p.validate = .ok ()) :
    ∃ family, filterClause p = .ok family := by
  obtain ⟨op, hop, _⟩ := Predicate.validate_eq_ok_iff.mp h
  have hmem : op ∈ Context.operators .filter := (Predicate.allowed_eq_ok_iff.mp hop).2
  rw [filterClause, hop, ok_bind]
  by_cases hrange : op.isRange = true
  · obtain ⟨q, hq⟩ := rangeClause_isOk (Predicate.isRangeable_of_validate h hop hrange) hrange
    cases op <;> simp_all [Operator.isRange, pure, Except.pure]
  · -- of the operators that do not compare by size the context leaves equality only
    cases op <;> simp_all [Operator.isRange, Context.operators, pure, Except.pure]

/-! ### Families -/

theorem collect_isOk {α : Type} {f : α → Except ValidationError Family} {as : List α}
    (h : ∀ a ∈ as, ∃ family, f a = .ok family) : ∃ family, collect f as = .ok family := by
  induction as with
  | nil => exact ⟨{}, rfl⟩
  | cons a as ih =>
    obtain ⟨first, hfirst⟩ := h a List.mem_cons_self
    obtain ⟨rest, hrest⟩ := ih fun x hx => h x (List.mem_cons_of_mem a hx)
    exact ⟨first.append rest, by rw [collect, hfirst, ok_bind, hrest, ok_bind]; rfl⟩

namespace Clauses

variable {cs : Clauses}

theorem whereFamily_isOk (h : ∀ c ∈ cs, c.validate = .ok ()) :
    ∃ family, cs.whereFamily = .ok family := by
  obtain ⟨singles, hsingles⟩ := collect_isOk (f := whereClause)
    fun p (hp : p ∈ cs.wheres) => whereClause_isOk (h (.where_ p) hp)
  rw [whereFamily, hsingles, ok_bind]
  exact ⟨_, rfl⟩

theorem filterFamily_isOk (h : ∀ c ∈ cs, c.validate = .ok ()) :
    ∃ family, cs.filterFamily = .ok family := by
  obtain ⟨singles, hsingles⟩ := collect_isOk (f := filterClause)
    fun p (hp : p ∈ cs.filters) => filterClause_isOk (h (.filter p) hp)
  rw [filterFamily, hsingles, ok_bind]
  exact ⟨_, rfl⟩

theorem textFamily_isOk {context : Context} {make : String → Json → Query}
    {ins notIns : List (SetPredicate context)} {ps : List (Predicate context)}
    (h : ∀ p ∈ ps, p.validate = .ok ()) : ∃ family, textFamily make ins notIns ps = .ok family := by
  obtain ⟨singles, hsingles⟩ := collect_isOk (f := textClause make)
    fun p (hp : p ∈ ps) => textClause_isOk (h p hp)
  rw [textFamily, hsingles, ok_bind]
  exact ⟨_, rfl⟩

theorem fullTextFamily_isOk (h : ∀ c ∈ cs, c.validate = .ok ()) :
    ∃ family, cs.fullTextFamily = .ok family :=
  textFamily_isOk fun p hp => h (.match_ p) hp

theorem phraseFamily_isOk (h : ∀ c ∈ cs, c.validate = .ok ()) :
    ∃ family, cs.phraseFamily = .ok family :=
  textFamily_isOk fun p hp => h (.phrase p) hp

theorem compile_isOk (h : ∀ c ∈ cs, c.validate = .ok ()) : ∃ q, cs.compile = .ok q := by
  obtain ⟨wheres, hwheres⟩ := whereFamily_isOk h
  obtain ⟨filters, hfilters⟩ := filterFamily_isOk h
  obtain ⟨texts, htexts⟩ := fullTextFamily_isOk h
  obtain ⟨phrases, hphrases⟩ := phraseFamily_isOk h
  rw [compile, hwheres, ok_bind, hfilters, ok_bind, htexts, ok_bind, hphrases, ok_bind]
  exact ⟨_, rfl⟩

end Clauses

theorem NestedGroup.compile_isOk {g : NestedGroup} (hpath : g.path ≠ "")
    (h : ∀ c ∈ g.clauses, c.validate = .ok ()) : ∃ family, g.compile = .ok family := by
  obtain ⟨inner, hinner⟩ := Clauses.compile_isOk h
  have hempty : g.path.isEmpty = false := by simpa using hpath
  rw [NestedGroup.compile, hempty, if_neg (by simp), hinner, ok_bind]
  exact ⟨_, rfl⟩

/-! ### Schedules -/

namespace Builder

variable {b : Builder}

/-- Every family of a query that passes its checks has a contribution. -/
theorem family_isOk (h : b.validateClauses = .ok ()) (k : FamilyKind) :
    ∃ family, b.family k = .ok family := by
  obtain ⟨htop, hnested⟩ := validateClauses_eq_ok_iff.mp h
  have hown : ∀ c ∈ b.clauses, c.validate = .ok () :=
    fun c hc => (Clause.check_eq_ok_iff.mp (htop c hc)).2.1
  cases k with
  | wheres => exact Clauses.whereFamily_isOk hown
  | filters => exact Clauses.filterFamily_isOk hown
  | fullTexts => exact Clauses.fullTextFamily_isOk hown
  | phrases => exact Clauses.phraseFamily_isOk hown
  | nested =>
    refine collect_isOk fun g hg => NestedGroup.compile_isOk (hnested g hg).1 fun c hc => ?_
    exact (Clause.check_eq_ok_iff.mp ((hnested g hg).2 c hc)).2.1

/-- Without failures the families are composed in their fixed order, whichever is done first. -/
theorem compileUnchecked_of_families {contribution : FamilyKind → Family}
    (h : ∀ k, b.family k = .ok (contribution k)) (done : List FamilyKind) :
    b.compileUnchecked done = .ok (Family.compose (FamilyKind.all.map contribution)) := by
  have hnone : done.findSome? (fun k => failure? (b.family k)) = none := by
    rw [List.findSome?_eq_none_iff]
    intro k _
    rw [h k]
    rfl
  have hfamilies : ∀ ks, b.families ks = .ok (ks.map contribution) := by
    intro ks
    induction ks with
    | nil => rfl
    | cons k ks ih => rw [families, h k, ok_bind, ih, ok_bind]; rfl
  rw [compileUnchecked, hnone, hfamilies]
  rfl

theorem compile_of_validate_eq_error {e : ValidationError} (h : b.validateClauses = .error e)
    (done : List FamilyKind) : b.compile done = .error e := by
  rw [compile, h, error_bind]

theorem compile_of_validate_eq_ok (h : b.validateClauses = .ok ()) (done : List FamilyKind) :
    b.compile done = b.compileUnchecked done := by
  rw [compile, h, ok_bind]

/-- A query that passes its checks compiles to the composition of its families in every order in
which they are done. -/
theorem compile_isOk (h : b.validateClauses = .ok ()) :
    ∃ contribution : FamilyKind → Family, (∀ k, b.family k = .ok (contribution k)) ∧
      ∀ done, b.compileUnchecked done = .ok (Family.compose (FamilyKind.all.map contribution)) ∧
        b.compile done = .ok (Family.compose (FamilyKind.all.map contribution)) := by
  choose contribution hcontribution using family_isOk h
  refine ⟨contribution, hcontribution, fun done => ?_⟩
  have hunchecked := compileUnchecked_of_families hcontribution done
  exact ⟨hunchecked, (compile_of_validate_eq_ok h done).trans hunchecked⟩

/-- **The checks decide compilation.** A query that passes them has a contribution from each family
and compiles to their composition in every order in which the families are done; one that does not
is rejected with the failure of the checks. So no failure of a family is ever seen that the checks
let through, and the outcome does not depend on the schedule. -/
theorem validateClauses_decides_compile (b : Builder) :
    (b.validateClauses = .ok () →
      ∃ contribution : FamilyKind → Family, (∀ k, b.family k = .ok (contribution k)) ∧
        ∀ done, b.compileUnchecked done = .ok (Family.compose (FamilyKind.all.map contribution)) ∧
          b.compile done = .ok (Family.compose (FamilyKind.all.map contribution))) ∧
    (∀ e, b.validateClauses = .error e → ∀ done, b.compile done = .error e) ∧
    (∀ done e, b.compileUnchecked done = .error e → ∃ e', b.validateClauses = .error e') ∧
    ∀ done done', b.compile done = b.compile done' := by
  refine ⟨compile_isOk, fun e h done => compile_of_validate_eq_error h done, ?_, ?_⟩
  · intro done e herror
    cases hvalidate : b.validateClauses with
    | error e' => exact ⟨e', rfl⟩
    | ok u =>
      obtain ⟨_, _, hcompiled⟩ := compile_isOk hvalidate
      rw [(hcompiled done).1] at herror
      exact absurd herror (by simp)
  · intro done done'
    cases hvalidate : b.validateClauses with
    | error e =>
      rw [compile_of_validate_eq_error hvalidate, compile_of_validate_eq_error hvalidate]
    | ok u =>
      obtain ⟨_, _, hcompiled⟩ := compile_isOk hvalidate
      rw [(hcompiled done).2, (hcompiled done').2]

end Builder

end DocSearch
