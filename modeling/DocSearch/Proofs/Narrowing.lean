import DocSearch.Proofs.Meaning
import DocSearch.Proofs.Placement

/-!
# Conditions only narrow

Wherever a condition is placed, a document has to pass it besides all others: what must hold, what
must not hold and the filter are all asked for together, alternatives stand in a query of their own,
and a group asks for one object that passes all its conditions. So a query with more conditions
selects no more documents.

`Clause.contribution` is what one condition has to do with this, whatever its kind and also if its
list is empty. What is carried from one call to the next is `Builder.Includes`: a query has all
conditions of another one, those of a group in the group with its path.
-/

namespace DocSearch

/-! ### What each condition asks for -/

/-- What a condition contributes to its scope. -/
def Clause.contribution : Clause → Family
  | .where_ p => .single p.excludes p.query
  | .whereIn p => { must := [p.query] }
  | .whereNotIn p => { mustNot := [p.query] }
  | .filter p => { filter := [p.query] }
  | .filterIn p => { filter := [p.query] }
  | .match_ p => .single p.excludes (p.textQuery .fullText)
  | .matchIn p => { must := [p.anyTextQuery .fullText] }
  | .matchNotIn p => { mustNot := p.textQueries .fullText }
  | .phrase p => .single p.excludes (p.textQuery .phrase)
  | .phraseIn p => { must := [p.anyTextQuery .phrase] }
  | .phraseNotIn p => { mustNot := p.textQueries .phrase }

/-- Conditions that exclude and those that do not make one list of conditions to pass. -/
theorem forall_single_admits_iff {α : Type} {excludes : α → Bool} {query : α → Query}
    {ps : List α} {doc : Json} :
    (∀ p ∈ ps, (Family.single (excludes p) (query p)).Admits doc) ↔
      (∀ q ∈ (ps.filter (!excludes ·)).map query, q.selects doc = true) ∧
        ∀ q ∈ (ps.filter (excludes ·)).map query, q.selects doc = false := by
  have hone (p : α) : (Family.single (excludes p) (query p)).Admits doc ↔
      (excludes p = false → (query p).selects doc = true) ∧
        (excludes p = true → (query p).selects doc = false) := by
    cases hexcludes : excludes p with
    | true => simp [Family.single, Family.admits_mustNot]
    | false => simp [Family.single, Family.admits_must]
  simp only [hone, List.forall_mem_map, List.mem_filter, Bool.not_eq_eq_eq_not, Bool.not_true,
    and_imp, forall_and]

/-- A scope selects the documents that pass what each of its conditions contributes. -/
theorem Clauses.selects_placed_iff {cs : Clauses} {doc : Json} :
    (Query.bool cs.placed).selects doc = true ↔ ∀ c ∈ cs, c.contribution.Admits doc := by
  have hmustNot {qs : List Query} : ({ mustNot := qs } : Family).Admits doc ↔
      ∀ q ∈ qs, q.selects doc = false := by
    simp [Family.Admits]
  rw [placed, selects_bool, forall_mem_iff]
  simp only [Clause.contribution, forall_single_admits_iff, Family.admits_must,
    Family.admits_filter, hmustNot, List.forall_mem_append, List.forall_mem_map,
    List.forall_mem_flatMap, List.forall_mem_singleton, and_assoc]
  -- the parts of a combination come one after the other, the kinds of conditions each with its own
  constructor
  · rintro ⟨hwhereIns, hwheres, hmatchIns, hmatches, hphraseIns, hphrases, hfilterIns, hfilters,
      hwhereNotIns, hwheres', hmatchNotIns, hmatches', hphraseNotIns, hphrases'⟩
    exact ⟨hwhereIns, hwhereNotIns, hwheres, hwheres', hfilterIns, hfilters, hmatchIns,
      hmatchNotIns, hmatches, hmatches', hphraseIns, hphraseNotIns, hphrases, hphrases'⟩
  · rintro ⟨hwhereIns, hwhereNotIns, hwheres, hwheres', hfilterIns, hfilters, hmatchIns,
      hmatchNotIns, hmatches, hmatches', hphraseIns, hphraseNotIns, hphrases, hphrases'⟩
    exact ⟨hwhereIns, hwheres, hmatchIns, hmatches, hphraseIns, hphrases, hfilterIns, hfilters,
      hwhereNotIns, hwheres', hmatchNotIns, hmatches', hphraseNotIns, hphrases'⟩

/-- A nested query selects a document with one object that passes all conditions of its group. -/
theorem NestedGroup.selects_nested_iff {g : NestedGroup} {doc : Json} :
    (Query.nested g.path (.bool g.clauses.placed)).selects doc = true ↔
      ∃ item ∈ valuesAt doc g.path, ∀ c ∈ g.clauses,
        c.contribution.Admits (placeAt item (pathParts g.path)) := by
  rw [Query.selects, List.any_eq_true]
  exact exists_congr fun item => and_congr_right fun _ => Clauses.selects_placed_iff

theorem Builder.selects_placed_iff {b : Builder} {doc : Json} :
    (Query.bool b.placed).selects doc = true ↔
      (∀ c ∈ b.clauses, c.contribution.Admits doc) ∧ ∀ g ∈ b.nested,
        (Query.nested g.path (.bool g.clauses.placed)).selects doc = true := by
  rw [← Clauses.selects_placed_iff, Clauses.placed, selects_bool, placed, Clauses.placed,
    selects_bool, List.forall_mem_append, List.forall_mem_map]
  tauto

/-! ### Queries with more conditions -/

namespace Builder

/-- A query has all conditions of another one, those in a group in a group with its path. -/
structure Includes (b' b : Builder) : Prop where
  clauses : ∀ c ∈ b.clauses, c ∈ b'.clauses
  nested : ∀ g ∈ b.nested, ∃ g' ∈ b'.nested, g'.path = g.path ∧ ∀ c ∈ g.clauses, c ∈ g'.clauses
  schema : b'.schema = b.schema

theorem Includes.refl (b : Builder) : b.Includes b :=
  ⟨fun _ hc => hc, fun g hg => ⟨g, hg, rfl, fun _ hc => hc⟩, rfl⟩

theorem Includes.trans {b b' b'' : Builder} (h : b'.Includes b) (h' : b''.Includes b') :
    b''.Includes b := by
  refine ⟨fun c hc => h'.clauses c (h.clauses c hc), fun g hg => ?_, h'.schema.trans h.schema⟩
  obtain ⟨g', hg', hpath, hclauses⟩ := h.nested g hg
  obtain ⟨g'', hg'', hpath', hclauses'⟩ := h'.nested g' hg'
  exact ⟨g'', hg'', hpath'.trans hpath, fun c hc => hclauses' c (hclauses c hc)⟩

end Builder

/-- No group loses a condition when one is added, whether or not its path has a group. -/
theorem exists_of_mem_addToGroup {path : String} {c : Clause} {gs : List NestedGroup} :
    ∀ g ∈ gs, ∃ g' ∈ addToGroup path c gs, g'.path = g.path ∧ ∀ d ∈ g.clauses, d ∈ g'.clauses := by
  induction gs with
  | nil => exact fun g hg => absurd hg List.not_mem_nil
  | cons first gs ih =>
    rw [addToGroup]
    by_cases hpath : first.path = path
    · rw [if_pos hpath, List.forall_mem_cons]
      refine ⟨⟨_, List.mem_cons_self, rfl, fun d hd => Clauses.mem_add.mpr (Or.inl hd)⟩, ?_⟩
      exact fun g hg => ⟨g, List.mem_cons_of_mem _ hg, rfl, fun _ hd => hd⟩
    · rw [if_neg hpath, List.forall_mem_cons]
      refine ⟨⟨first, List.mem_cons_self, rfl, fun _ hd => hd⟩, fun g hg => ?_⟩
      obtain ⟨g', hg', hsame⟩ := ih g hg
      exact ⟨g', List.mem_cons_of_mem first hg', hsame⟩

/-- Whether a call adds a condition, inside or outside of groups. -/
def Call.addsCondition : Call → Bool
  | .clause _ | .nestedClause _ => true
  | _ => false

namespace Builder

variable {b b' : Builder}

theorem includes_apply {call : Call} (h : call.addsCondition = true) :
    (b.apply call).Includes b := by
  cases call with
  | clause c =>
    exact ⟨fun d hd => Clauses.mem_add.mpr (Or.inl hd), (Includes.refl b).nested, rfl⟩
  | nestedClause c => exact ⟨fun _ hd => hd, exists_of_mem_addToGroup, rfl⟩
  | _ => cases h

theorem includes_applyAll {calls : List Call} (h : ∀ call ∈ calls, call.addsCondition = true) :
    (b.applyAll calls).Includes b := by
  induction calls generalizing b with
  | nil => exact Includes.refl b
  | cons call calls ih =>
    obtain ⟨hcall, hcalls⟩ := List.forall_mem_cons.mp h
    exact (includes_apply hcall).trans (ih hcalls)

theorem Includes.validateClauses (h : b'.Includes b) (haccepted : b'.validateClauses = .ok ()) :
    b.validateClauses = .ok () := by
  obtain ⟨hown, hgroups⟩ := validateClauses_eq_ok_iff.mp haccepted
  rw [h.schema] at hown hgroups
  refine validateClauses_eq_ok_iff.mpr ⟨fun c hc => hown c (h.clauses c hc), fun g hg => ?_⟩
  obtain ⟨g', hg', hpath, hclauses⟩ := h.nested g hg
  obtain ⟨hnonempty, hinner⟩ := hgroups g' hg'
  exact ⟨hpath ▸ hnonempty, fun c hc => hinner c (hclauses c hc)⟩

theorem Includes.selects_placed (h : b'.Includes b) {doc : Json}
    (hselects : (Query.bool b'.placed).selects doc = true) :
    (Query.bool b.placed).selects doc = true := by
  obtain ⟨hown, hgroups⟩ := selects_placed_iff.mp hselects
  refine selects_placed_iff.mpr ⟨fun c hc => hown c (h.clauses c hc), fun g hg => ?_⟩
  obtain ⟨g', hg', hpath, hclauses⟩ := h.nested g hg
  obtain ⟨item, hitem, hpasses⟩ := NestedGroup.selects_nested_iff.mp (hgroups g' hg')
  rw [hpath] at hitem hpasses
  exact NestedGroup.selects_nested_iff.mpr ⟨item, hitem, fun c hc => hpasses c (hclauses c hc)⟩

/-- A query that passes its checks compiles in every schedule to everything in its place. -/
theorem compile_eq_placed (h : b.validateClauses = .ok ()) (done : List FamilyKind) :
    b.compile done = .ok b.placed := by
  obtain ⟨contribution, -, hcompiled⟩ := compile_isOk h
  obtain ⟨-, hplaced, -⟩ := placed_of_compileUnchecked (hcompiled done).1
  rw [(hcompiled done).2, hplaced]

/-- **Conditions only narrow.** After any further conditions have been added to any query, inside or
outside of groups, of any kind and with any field, operator and values, empty lists included: if the
query then passes its checks it did so before, and what it compiles to, in every schedule, selects
only documents that it selected before. -/
theorem compile_applyAll_narrows {calls : List Call}
    (hcalls : ∀ call ∈ calls, call.addsCondition = true)
    (haccepted : (b.applyAll calls).validateClauses = .ok ()) :
    b.validateClauses = .ok () ∧
    ∃ root root', (∀ done, b.compile done = .ok root) ∧
      (∀ done, (b.applyAll calls).compile done = .ok root') ∧
      ∀ doc, (Query.bool root').selects doc = true → (Query.bool root).selects doc = true := by
  have hincludes : (b.applyAll calls).Includes b := includes_applyAll hcalls
  have hbefore : b.validateClauses = .ok () := hincludes.validateClauses haccepted
  exact ⟨hbefore, b.placed, (b.applyAll calls).placed, compile_eq_placed hbefore,
    compile_eq_placed haccepted, fun doc => hincludes.selects_placed⟩

/-- One more condition for a group that is there already, one for a group that is not, and an empty
list of texts to be matched. -/
def furtherConditions : List Call :=
  [.nestedClause (.where_ ⟨"authors.age", "<>", .int 30⟩),
    .nestedClause (.phrase ⟨"ratings.text", "=", .text "very good"⟩),
    .clause (.matchIn ⟨"title", []⟩)]

theorem authored_applyAll_narrows :
    (∀ call ∈ furtherConditions, call.addsCondition = true) ∧
      (authored.applyAll furtherConditions).validateClauses = .ok () ∧
      ∃ root root', (∀ done, authored.compile done = .ok root) ∧
        (∀ done, (authored.applyAll furtherConditions).compile done = .ok root') ∧
        ∀ doc, (Query.bool root').selects doc = true → (Query.bool root).selects doc = true := by
  have hcalls : ∀ call ∈ furtherConditions, call.addsCondition = true := by decide
  have haccepted : (authored.applyAll furtherConditions).validateClauses = .ok () := by rfl
  exact ⟨hcalls, haccepted, (compile_applyAll_narrows hcalls haccepted).2⟩

end Builder

end DocSearch
