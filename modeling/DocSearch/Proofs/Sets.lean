import DocSearch.Proofs.Meaning

/-!
# Conditions on lists of values

A condition on a list asks for one of its values, or for none. Seven kinds of conditions are so
compiled, in three families: to one query for the list, to a combination of alternatives, or to one
query for each value. What they have in common is that a document passes the contribution of a list
depending only on which values of the list it meets, so that lists of one value decide about all.
The combination of alternatives is the exception: it asks for nothing if the list is empty.
-/

namespace DocSearch

/-- The kinds of conditions on lists of values. -/
inductive SetKind where
  | whereIn | whereNotIn | filterIn | matchIn | matchNotIn | phraseIn | phraseNotIn
  deriving Repr, DecidableEq

namespace SetKind

def clause (kind : SetKind) (field : String) (values : List Scalar) : Clause :=
  match kind with
  | .whereIn => .whereIn ⟨field, values⟩
  | .whereNotIn => .whereNotIn ⟨field, values⟩
  | .filterIn => .filterIn ⟨field, values⟩
  | .matchIn => .matchIn ⟨field, values⟩
  | .matchNotIn => .matchNotIn ⟨field, values⟩
  | .phraseIn => .phraseIn ⟨field, values⟩
  | .phraseNotIn => .phraseNotIn ⟨field, values⟩

/-- The family that a condition belongs to. -/
def family : SetKind → FamilyKind
  | .whereIn | .whereNotIn => .wheres
  | .filterIn => .filters
  | .matchIn | .matchNotIn => .fullTexts
  | .phraseIn | .phraseNotIn => .phrases

/-- What a condition contributes to its family. -/
def contribution (kind : SetKind) (field : String) (values : List Scalar) : Family :=
  match kind with
  | .whereIn => { must := [(⟨field, values⟩ : SetPredicate .scored).termsQuery] }
  | .whereNotIn => { mustNot := [(⟨field, values⟩ : SetPredicate .scored).termsQuery] }
  | .filterIn => { filter := [(⟨field, values⟩ : SetPredicate .filter).termsQuery] }
  | .matchIn => { must := [alternatives .ofFullText (⟨field, values⟩ : SetPredicate .fullText)] }
  | .matchNotIn => { mustNot := exclusions .ofFullText (⟨field, values⟩ : SetPredicate .fullText) }
  | .phraseIn => { must := [alternatives .ofPhrase (⟨field, values⟩ : SetPredicate .phrase)] }
  | .phraseNotIn => { mustNot := exclusions .ofPhrase (⟨field, values⟩ : SetPredicate .phrase) }

/-- One of some values of a field is what a listed value stands for in conditions of the kind. -/
def Meets (kind : SetKind) (found : List Json) (listed : Scalar) : Prop :=
  match kind with
  | .whereIn | .whereNotIn | .filterIn => ∃ v ∈ found, v.asText = listed.toJson.asText
  | .matchIn | .matchNotIn => ∃ v ∈ found, SharesToken listed.toJson v
  | .phraseIn | .phraseNotIn => ∃ v ∈ found, ContainsTokens listed.toJson v

end SetKind

namespace Builder

/-- A query that holds one condition only. -/
def holding (schema : Option Schema) (c : Clause) : Builder :=
  ({ schema := schema } : Builder).apply (.clause c)

/-- A query compiles, to the same in every schedule, and what it compiles to selects a document. -/
def Finds (b : Builder) (doc : Json) : Prop :=
  ∃ root, (∀ done, b.compile done = .ok root) ∧ (Query.bool root).selects doc = true

end Builder

/-! ### Documents that pass a contribution -/

namespace SetKind

variable {kind : SetKind} {field : String} {values : List Scalar} {doc : Json}

theorem lists_iff {context : Context} {p : SetPredicate context} {found : List Json} :
    p.Lists found ↔ ∃ listed ∈ p.values, ∃ v ∈ found, v.asText = listed.toJson.asText := by
  constructor
  · rintro ⟨v, hv, listed, hlisted, heq⟩
    exact ⟨listed, hlisted, v, hv, heq⟩
  · rintro ⟨listed, hlisted, v, hv, heq⟩
    exact ⟨v, hv, listed, hlisted, heq⟩

theorem admits_contribution_of_inclusion (hkind : kind ∈ [whereIn, filterIn]) :
    (kind.contribution field values).Admits doc ↔
      ∃ v ∈ values, kind.Meets (valuesAt doc field) v := by
  simp only [List.mem_cons, List.not_mem_nil, or_false] at hkind
  rcases hkind with rfl | rfl
  · rw [contribution, Family.admits_must, selects_termsQuery, lists_iff]
    rfl
  · rw [contribution, Family.admits_filter, selects_termsQuery, lists_iff]
    rfl

theorem admits_contribution_of_alternatives (hkind : kind ∈ [matchIn, phraseIn]) :
    (kind.contribution field values).Admits doc ↔
      values = [] ∨ ∃ v ∈ values, kind.Meets (valuesAt doc field) v := by
  simp only [List.mem_cons, List.not_mem_nil, or_false] at hkind
  rcases hkind with rfl | rfl
  · rw [contribution, Family.admits_must, selects_alternatives asks_ofFullText]
    rfl
  · rw [contribution, Family.admits_must, selects_alternatives asks_ofPhrase]
    rfl

theorem admits_contribution_of_exclusion
    (hkind : kind ∈ [whereNotIn, matchNotIn, phraseNotIn]) :
    (kind.contribution field values).Admits doc ↔
      ∀ v ∈ values, ¬ kind.Meets (valuesAt doc field) v := by
  have hnone : ∀ {qs : List Query}, ({ mustNot := qs } : Family).Admits doc ↔
      ∀ q ∈ qs, q.selects doc = false := by
    intro qs
    simp [Family.Admits]
  have hmeets : (∀ v ∈ values, ¬ kind.Meets (valuesAt doc field) v) ↔
      ¬ ∃ v ∈ values, kind.Meets (valuesAt doc field) v := by
    simp only [not_exists, not_and]
  rw [hmeets]
  simp only [List.mem_cons, List.not_mem_nil, or_false] at hkind
  rcases hkind with rfl | rfl | rfl
  · rw [contribution, Family.admits_mustNot, selects_termsQuery, lists_iff]
    rfl
  · rw [contribution, hnone, admits_exclusions asks_ofFullText]
    rfl
  · rw [contribution, hnone, admits_exclusions asks_ofPhrase]
    rfl

end SetKind

/-! ### Queries that hold one condition on a list -/

namespace Builder

open SetKind

variable {schema : Option Schema} {kind : SetKind} {field : String} {values : List Scalar}
  {doc : Json}

theorem family_holding (k : FamilyKind) :
    (holding schema (kind.clause field values)).family k =
      .ok (if k = kind.family then kind.contribution field values else {}) := by
  cases kind with
  | matchNotIn | phraseNotIn =>
    -- several queries for one condition
    cases k with
    | fullTexts | phrases =>
      simp [family, holding, apply, SetKind.clause, Clauses.add, SetKind.family, contribution,
        Clauses.fullTextFamily, Clauses.phraseFamily, Clauses.textFamily, collect, Family.append,
        pure, Except.pure]
    | _ => rfl
  | _ => cases k <;> rfl

theorem validateClauses_holding (hfield : checkField schema field = .ok ())
    (hvalues : ∀ v ∈ values, (v.isNumeric || v.isText) = true) :
    (holding schema (kind.clause field values)).validateClauses = .ok () := by
  have hvalid : ∀ context, (⟨field, values⟩ : SetPredicate context).validate = .ok () := by
    intro context
    rw [SetPredicate.validate, if_pos (List.all_eq_true.mpr hvalues)]
  have hcheck : (kind.clause field values).check schema false = .ok () := by
    rw [Clause.check_eq_ok_iff]
    cases kind <;> exact ⟨rfl, hvalid _, hfield⟩
  refine validateClauses_eq_ok_iff.mpr ⟨fun c hc => ?_, fun g hg => absurd hg List.not_mem_nil⟩
  rcases Clauses.mem_add.mp hc with hc | rfl
  · exact absurd hc (Clauses.not_mem_empty c)
  · exact hcheck

/-- A query with one condition on a list finds the documents that pass its contribution. -/
theorem finds_holding_iff (hfield : checkField schema field = .ok ())
    (hvalues : ∀ v ∈ values, (v.isNumeric || v.isText) = true) :
    (holding schema (kind.clause field values)).Finds doc ↔
      (kind.contribution field values).Admits doc := by
  have hcompile : ∀ done, (holding schema (kind.clause field values)).compile done =
      .ok (Family.compose (FamilyKind.all.map fun k =>
        if k = kind.family then kind.contribution field values else {})) := by
    intro done
    rw [compile_of_validate_eq_ok (validateClauses_holding hfield hvalues),
      compileUnchecked_of_families family_holding]
  have hselects : (Query.bool (Family.compose (FamilyKind.all.map fun k =>
      if k = kind.family then kind.contribution field values else {}))).selects doc = true ↔
        (kind.contribution field values).Admits doc := by
    have hmem : kind.family ∈ FamilyKind.all := by cases kind <;> decide
    rw [Family.selects_compose, List.forall_mem_map]
    constructor
    · intro h
      have hown := h _ hmem
      rwa [if_pos rfl] at hown
    · intro h k _
      by_cases hk : k = kind.family
      · rwa [if_pos hk]
      · rw [if_neg hk]
        exact Family.admits_empty
  rw [← hselects]
  constructor
  · rintro ⟨root, hroot, hfound⟩
    obtain rfl := Except.ok.inj ((hroot []).symm.trans (hcompile []))
    exact hfound
  · intro hfound
    exact ⟨_, hcompile, hfound⟩

/-- **Conditions on lists of one value decide about all lists, except for empty lists of texts to be
matched.** With every list of texts and finite numbers a query that holds just a condition on that
list compiles in every schedule. Where the condition asks for one of the values it finds a document
if and only if the condition on one of them does, where it asks for none if and only if the
condition on each of them does. The exception are texts to be matched: a query with an empty list
of them finds every document. -/
theorem finds_holding_iff_each (hfield : checkField schema field = .ok ())
    (hvalues : ∀ v ∈ values, (v.isNumeric || v.isText) = true) :
    (∀ kind : SetKind, ∃ root, ∀ done,
      (holding schema (kind.clause field values)).compile done = .ok root) ∧
    (∀ kind ∈ [whereIn, filterIn], ∀ doc,
      (holding schema (kind.clause field values)).Finds doc ↔
        ∃ v ∈ values, (holding schema (kind.clause field [v])).Finds doc) ∧
    (∀ kind ∈ [matchIn, phraseIn], ∀ doc,
      (holding schema (kind.clause field values)).Finds doc ↔
        values = [] ∨ ∃ v ∈ values, (holding schema (kind.clause field [v])).Finds doc) ∧
    ∀ kind ∈ [whereNotIn, matchNotIn, phraseNotIn], ∀ doc,
      (holding schema (kind.clause field values)).Finds doc ↔
        ∀ v ∈ values, (holding schema (kind.clause field [v])).Finds doc := by
  have hone : ∀ v ∈ values, ∀ listed ∈ [v], (listed.isNumeric || listed.isText) = true := by
    intro v hv listed hlisted
    exact List.mem_singleton.mp hlisted ▸ hvalues v hv
  refine ⟨fun kind => ?_, fun kind hkind doc => ?_, fun kind hkind doc => ?_,
    fun kind hkind doc => ?_⟩
  · obtain ⟨contribution, -, hcompiled⟩ :=
      compile_isOk (@validateClauses_holding schema kind _ _ hfield hvalues)
    exact ⟨_, fun done => (hcompiled done).2⟩
  · rw [finds_holding_iff hfield hvalues, admits_contribution_of_inclusion hkind]
    refine exists_congr fun v => and_congr_right fun hv => ?_
    rw [finds_holding_iff hfield (hone v hv), admits_contribution_of_inclusion hkind]
    simp
  · rw [finds_holding_iff hfield hvalues, admits_contribution_of_alternatives hkind]
    refine or_congr_right (exists_congr fun v => and_congr_right fun hv => ?_)
    rw [finds_holding_iff hfield (hone v hv), admits_contribution_of_alternatives hkind]
    simp
  · rw [finds_holding_iff hfield hvalues, admits_contribution_of_exclusion hkind]
    refine forall₂_congr fun v hv => ?_
    rw [finds_holding_iff hfield (hone v hv), admits_contribution_of_exclusion hkind]
    simp

/-- Two values, one of them with two tokens. -/
def titles : List Scalar := [.text "red fox", .int 2]

theorem finds_titles_iff :
    checkField none "title" = .ok () ∧ (∀ v ∈ titles, (v.isNumeric || v.isText) = true) ∧
      (∀ doc, (holding none (matchIn.clause "title" titles)).Finds doc ↔
        (holding none (matchIn.clause "title" [.text "red fox"])).Finds doc ∨
          (holding none (matchIn.clause "title" [.int 2])).Finds doc) ∧
      ∀ doc, (holding none (whereNotIn.clause "title" titles)).Finds doc ↔
        (holding none (whereNotIn.clause "title" [.text "red fox"])).Finds doc ∧
          (holding none (whereNotIn.clause "title" [.int 2])).Finds doc := by
  have hfield : checkField none "title" = .ok () := rfl
  have hvalues : ∀ v ∈ titles, (v.isNumeric || v.isText) = true := by decide
  obtain ⟨-, -, halternatives, hexclusion⟩ :=
    finds_holding_iff_each hfield hvalues
  refine ⟨hfield, hvalues, fun doc => ?_, fun doc => ?_⟩
  · rw [halternatives matchIn (by decide)]
    simp [titles]
  · rw [hexclusion whereNotIn (by decide)]
    simp [titles]

/-- With an empty list of texts to be matched a query finds a document though no value is listed;
with an empty list of values to be equal to it does not. -/
theorem finds_without_texts :
    checkField none "a" = .ok () ∧
      (∀ kind ∈ [matchIn, phraseIn],
        (holding none (kind.clause "a" [])).Finds (.object [("a", .string "x")]) ∧
          ¬ ∃ v ∈ [], (holding none (kind.clause "a" [v])).Finds (.object [("a", .string "x")])) ∧
      ∀ kind ∈ [whereIn, filterIn],
        ¬ (holding none (kind.clause "a" [])).Finds (.object [("a", .string "x")]) := by
  have hfield : checkField none "a" = .ok () := rfl
  have hvalues : ∀ v ∈ ([] : List Scalar), (v.isNumeric || v.isText) = true := by simp
  refine ⟨hfield, fun kind hkind => ⟨?_, by simp⟩, fun kind hkind => ?_⟩
  · rw [finds_holding_iff hfield hvalues, admits_contribution_of_alternatives hkind]
    exact Or.inl rfl
  · rw [finds_holding_iff hfield hvalues, admits_contribution_of_inclusion hkind]
    simp

end Builder

end DocSearch
