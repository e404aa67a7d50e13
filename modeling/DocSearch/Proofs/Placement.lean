import DocSearch.Proofs.Families

/-!
# Where conditions go

What is compiled without a failure keeps every condition, once and in its place. Each part of the
combination is put together from the lists of the conditions: lists of values before single values
in each family, the families in their order, each list in the order of its calls. Conditions on
single values fall into those that exclude their value and all others, which changes no order among
either.

`Clauses.placed` says this of one scope, without the families and without their failures. The root
adds one nested query for each group, and inside stands what the conditions of the group would
compile to on their own.
-/

namespace DocSearch

/-! ### Queries for conditions -/

namespace Predicate

variable {context : Context}

def excludes (p : Predicate context) : Bool := p.operator? == some .ne

/-- The written operator is one, and the context allows it. -/
def HasOperator (p : Predicate context) : Prop := ∃ op ∈ context.operators, p.operator? = some op

/-- The query for a value that is compared as it is: by size if the operator does so. -/
def query (p : Predicate context) : Query :=
  match p.operator? with
  | some .gt => .range [(p.field, { gt := some p.value.toJson })]
  | some .gte => .range [(p.field, { gte := some p.value.toJson })]
  | some .lt => .range [(p.field, { lt := some p.value.toJson })]
  | some .lte => .range [(p.field, { lte := some p.value.toJson })]
  | _ => .term [(p.field, p.value.toJson)]

/-- The query for a text, of the kind that the words are compared in. -/
def textQuery (kind : Named Json → Query) (p : Predicate context) : Query :=
  kind [(p.field, p.value.toJson)]

end Predicate

namespace SetPredicate

variable {context : Context}

def query (p : SetPredicate context) : Query := .terms [(p.field, p.values.map Scalar.toJson)]

def textQueries (kind : Named Json → Query) (p : SetPredicate context) : List Query :=
  p.values.map fun v => kind [(p.field, v.toJson)]

/-- One query for all texts of a list: that of the only one, or their alternatives. -/
def anyTextQuery (kind : Named Json → Query) (p : SetPredicate context) : Query :=
  match p.textQueries kind with
  | [q] => q
  | qs => .bool { should := qs, minimumShouldMatch := some 1 }

end SetPredicate

namespace Clauses

/-- Every condition of a scope in its place. -/
def placed (cs : Clauses) : BoolQuery Query where
  must :=
    cs.whereIns.map (·.query) ++ (cs.wheres.filter (!·.excludes)).map (·.query) ++
      cs.matchIns.map (·.anyTextQuery .fullText) ++
      (cs.matches_.filter (!·.excludes)).map (·.textQuery .fullText) ++
      cs.phraseIns.map (·.anyTextQuery .phrase) ++
      (cs.phrases.filter (!·.excludes)).map (·.textQuery .phrase)
  mustNot :=
    cs.whereNotIns.map (·.query) ++ (cs.wheres.filter (·.excludes)).map (·.query) ++
      cs.matchNotIns.flatMap (·.textQueries .fullText) ++
      (cs.matches_.filter (·.excludes)).map (·.textQuery .fullText) ++
      cs.phraseNotIns.flatMap (·.textQueries .phrase) ++
      (cs.phrases.filter (·.excludes)).map (·.textQuery .phrase)
  filter := cs.filterIns.map (·.query) ++ cs.filters.map (·.query)

/-- All conditions on single values have operators that their contexts allow. -/
structure HaveOperators (cs : Clauses) : Prop where
  wheres : ∀ p ∈ cs.wheres, p.HasOperator
  filters : ∀ p ∈ cs.filters, p.HasOperator
  matches_ : ∀ p ∈ cs.matches_, p.HasOperator
  phrases : ∀ p ∈ cs.phrases, p.HasOperator

end Clauses

/-! ### Single conditions -/

/-- The contribution of a condition that has one query. -/
def Family.single (exclude : Bool) (q : Query) : Family :=
  if exclude then { mustNot := [q] } else { must := [q] }

section Predicate

variable {context : Context} {p : Predicate context} {op : Operator} {family : Family}

theorem Predicate.hasOperator_of_allowed (h : p.allowed = .ok op) : p.HasOperator := by
  obtain ⟨hop, hmem⟩ := Predicate.allowed_eq_ok_iff.mp h
  exact ⟨op, hmem, hop⟩

theorem query_of_rangeClause {q : Query} (h : rangeClause p op = .ok q)
    (hop : p.operator? = some op) : q = p.query := by
  unfold rangeClause at h
  split at h
  · cases h
  · cases op with
    | eq | ne => cases h
    | _ =>
      obtain rfl := Except.ok.inj h
      simp only [Predicate.query, hop]
      rfl

theorem single_of_whereClause {p : Predicate .scored} (h : whereClause p = .ok family) :
    p.HasOperator ∧ family = .single p.excludes p.query := by
  rw [whereClause, bind_eq_ok_iff] at h
  obtain ⟨op, hallowed, h⟩ := h
  have hop : p.operator? = some op := (Predicate.allowed_eq_ok_iff.mp hallowed).1
  refine ⟨Predicate.hasOperator_of_allowed hallowed, ?_⟩
  cases op with
  | eq | ne =>
    obtain rfl := pure_eq_ok_iff.mp h
    simp only [Family.single, Predicate.excludes, Predicate.query, hop]
    rfl
  | _ =>
    obtain ⟨q, hq, h⟩ := bind_eq_ok_iff.mp h
    obtain rfl := pure_eq_ok_iff.mp h
    obtain rfl := query_of_rangeClause hq hop
    simp only [Family.single, Predicate.excludes, hop]
    rfl

theorem single_of_filterClause {p : Predicate .filter} (h : filterClause p = .ok family) :
    p.HasOperator ∧ family = { filter := [p.query] } := by
  rw [filterClause, bind_eq_ok_iff] at h
  obtain ⟨op, hallowed, h⟩ := h
  have hop : p.operator? = some op := (Predicate.allowed_eq_ok_iff.mp hallowed).1
  refine ⟨Predicate.hasOperator_of_allowed hallowed, ?_⟩
  cases op with
  | eq =>
    obtain rfl := pure_eq_ok_iff.mp h
    simp only [Predicate.query, hop]
    rfl
  | _ =>
    obtain ⟨q, hq, h⟩ := bind_eq_ok_iff.mp h
    obtain rfl := pure_eq_ok_iff.mp h
    obtain rfl := query_of_rangeClause hq hop
    rfl

theorem single_of_textClause {kind : Named Json → Query}
    (h : textClause (fun field v => kind [(field, v)]) p = .ok family) :
    p.HasOperator ∧ family = .single p.excludes (p.textQuery kind) := by
  rw [textClause, bind_eq_ok_iff] at h
  obtain ⟨op, hallowed, h⟩ := h
  have hop : p.operator? = some op := (Predicate.allowed_eq_ok_iff.mp hallowed).1
  refine ⟨Predicate.hasOperator_of_allowed hallowed, ?_⟩
  cases op with
  | _ =>
    obtain rfl := pure_eq_ok_iff.mp h
    simp only [Family.single, Predicate.excludes, hop]
    rfl

end Predicate

/-! ### Lists of conditions -/

section Collect

variable {α : Type} {f : α → Except ValidationError Family} {as : List α} {family : Family}

theorem exists_part_of_collect (h : collect f as = .ok family) :
    ∀ a ∈ as, ∃ part, f a = .ok part := by
  induction as generalizing family with
  | nil => exact fun a ha => absurd ha List.not_mem_nil
  | cons a as ih =>
    obtain ⟨first, hfirst, h⟩ := bind_eq_ok_iff.mp h
    obtain ⟨rest, hrest, -⟩ := bind_eq_ok_iff.mp h
    exact List.forall_mem_cons.mpr ⟨⟨first, hfirst⟩, ih hrest⟩

/-- Where a success can only be one contribution, the contributions stand one after the other. -/
theorem eq_flatMap_of_collect {part : α → Family} (h : collect f as = .ok family)
    (hpart : ∀ a family, f a = .ok family → family = part a) :
    family = ⟨as.flatMap fun a => (part a).must, as.flatMap fun a => (part a).mustNot,
      as.flatMap fun a => (part a).filter⟩ := by
  induction as generalizing family with
  | nil =>
    obtain rfl := Except.ok.inj h
    rfl
  | cons a as ih =>
    obtain ⟨first, hfirst, h⟩ := bind_eq_ok_iff.mp h
    obtain ⟨rest, hrest, h⟩ := bind_eq_ok_iff.mp h
    obtain rfl := pure_eq_ok_iff.mp h
    obtain rfl := hpart a first hfirst
    rw [ih hrest]
    rfl

/-- Single queries keep their order on both sides of what is excluded. -/
theorem eq_filter_of_collect {exclude : α → Bool} {query : α → Query}
    (h : collect f as = .ok family)
    (hpart : ∀ a family, f a = .ok family → family = .single (exclude a) (query a)) :
    family = { must := (as.filter (!exclude ·)).map query,
               mustNot := (as.filter exclude).map query } := by
  rw [eq_flatMap_of_collect h hpart]
  clear h
  induction as with
  | nil => rfl
  | cons a as ih =>
    obtain ⟨hmust, hmustNot, hfilter⟩ := Family.mk.inj ih
    rw [List.flatMap_cons, List.flatMap_cons, List.flatMap_cons, hmust, hmustNot, hfilter]
    cases hexclude : exclude a with
    | true => simp [hexclude, Family.single]
    | false => simp [hexclude, Family.single]

end Collect

/-! ### Scopes -/

namespace Clauses

variable {cs : Clauses} {family : Family}

theorem placed_of_whereFamily (h : cs.whereFamily = .ok family) :
    (∀ p ∈ cs.wheres, p.HasOperator) ∧
      family = { must := cs.whereIns.map (·.query) ++
                   (cs.wheres.filter (!·.excludes)).map (·.query),
                 mustNot := cs.whereNotIns.map (·.query) ++
                   (cs.wheres.filter (·.excludes)).map (·.query) } := by
  obtain ⟨singles, hsingles, h⟩ := bind_eq_ok_iff.mp h
  obtain rfl := pure_eq_ok_iff.mp h
  have hplaced := eq_filter_of_collect hsingles fun p part hpart => (single_of_whereClause hpart).2
  refine ⟨fun p hp => ?_, hplaced ▸ rfl⟩
  obtain ⟨part, hpart⟩ := exists_part_of_collect hsingles p hp
  exact (single_of_whereClause hpart).1

theorem placed_of_filterFamily (h : cs.filterFamily = .ok family) :
    (∀ p ∈ cs.filters, p.HasOperator) ∧
      family = { filter := cs.filterIns.map (·.query) ++ cs.filters.map (·.query) } := by
  obtain ⟨singles, hsingles, h⟩ := bind_eq_ok_iff.mp h
  obtain rfl := pure_eq_ok_iff.mp h
  have hplaced := eq_flatMap_of_collect hsingles fun p part hpart =>
    (single_of_filterClause hpart).2
  refine ⟨fun p hp => ?_, ?_⟩
  · obtain ⟨part, hpart⟩ := exists_part_of_collect hsingles p hp
    exact (single_of_filterClause hpart).1
  · rw [hplaced]
    simp [Family.append, SetPredicate.termsQuery, SetPredicate.query, Query.ofTerms,
      SetPredicate.jsonValues, ← List.map_eq_flatMap]

theorem alternatives_eq {context : Context} (kind : Named Json → Query) :
    @alternatives context (fun field v => kind [(field, v)]) =
      SetPredicate.anyTextQuery kind := by
  funext p
  unfold alternatives SetPredicate.anyTextQuery SetPredicate.textQueries SetPredicate.jsonValues
  -- both look at the length of the list, before or after it is turned into queries
  match p.values with
  | [] => rfl
  | [v] => rfl
  | v :: w :: vs => simp [BoolQuery.anyOf]

theorem exclusions_eq {context : Context} (kind : Named Json → Query) :
    @exclusions context (fun field v => kind [(field, v)]) =
      SetPredicate.textQueries kind := by
  funext p
  exact List.map_map

theorem placed_of_textFamily {context : Context} (kind : Named Json → Query)
    {ins notIns : List (SetPredicate context)} {ps : List (Predicate context)}
    (h : textFamily (fun field v => kind [(field, v)]) ins notIns ps = .ok family) :
    (∀ p ∈ ps, p.HasOperator) ∧
      family = { must := ins.map (·.anyTextQuery kind) ++
                   (ps.filter (!·.excludes)).map (·.textQuery kind),
                 mustNot := notIns.flatMap (·.textQueries kind) ++
                   (ps.filter (·.excludes)).map (·.textQuery kind) } := by
  obtain ⟨singles, hsingles, h⟩ := bind_eq_ok_iff.mp h
  obtain rfl := pure_eq_ok_iff.mp h
  have hplaced := eq_filter_of_collect hsingles fun p part hpart => (single_of_textClause hpart).2
  refine ⟨fun p hp => ?_, ?_⟩
  · obtain ⟨part, hpart⟩ := exists_part_of_collect hsingles p hp
    exact (single_of_textClause hpart).1
  · rw [hplaced, alternatives_eq, exclusions_eq]
    rfl

/-- What the families of a scope contribute is composed to what is placed. -/
theorem placed_of_families {wheres filters texts phrases : Family}
    (hwheres : cs.whereFamily = .ok wheres) (hfilters : cs.filterFamily = .ok filters)
    (htexts : cs.fullTextFamily = .ok texts) (hphrases : cs.phraseFamily = .ok phrases) :
    cs.HaveOperators ∧ Family.compose [wheres, filters, texts, phrases] = cs.placed := by
  obtain ⟨hwhere, rfl⟩ := placed_of_whereFamily hwheres
  obtain ⟨hfilter, rfl⟩ := placed_of_filterFamily hfilters
  obtain ⟨htext, rfl⟩ := placed_of_textFamily .fullText htexts
  obtain ⟨hphrase, rfl⟩ := placed_of_textFamily .phrase hphrases
  refine ⟨⟨hwhere, hfilter, htext, hphrase⟩, ?_⟩
  simp [Family.compose, Family.append, placed]

theorem placed_of_compile {root : BoolQuery Query} (h : cs.compile = .ok root) :
    root = cs.placed := by
  obtain ⟨wheres, hwheres, h⟩ := bind_eq_ok_iff.mp h
  obtain ⟨filters, hfilters, h⟩ := bind_eq_ok_iff.mp h
  obtain ⟨texts, htexts, h⟩ := bind_eq_ok_iff.mp h
  obtain ⟨phrases, hphrases, h⟩ := bind_eq_ok_iff.mp h
  obtain rfl := pure_eq_ok_iff.mp h
  exact (placed_of_families hwheres hfilters htexts hphrases).2

end Clauses

/-! ### Groups and the root -/

theorem NestedGroup.placed_of_compile {g : NestedGroup} {family : Family}
    (h : g.compile = .ok family) :
    g.path ≠ "" ∧ g.clauses.compile = .ok g.clauses.placed ∧
      family = { must := [.nested g.path (.bool g.clauses.placed)] } := by
  unfold NestedGroup.compile at h
  split at h
  · cases h
  · next hpath =>
    obtain ⟨inner, hinner, h⟩ := bind_eq_ok_iff.mp h
    obtain rfl := pure_eq_ok_iff.mp h
    obtain rfl := Clauses.placed_of_compile hinner
    exact ⟨by simpa using hpath, hinner, rfl⟩

theorem placed_of_nestedFamily {groups : List NestedGroup} {family : Family}
    (h : nestedFamily groups = .ok family) :
    (∀ g ∈ groups, g.path ≠ "" ∧ g.clauses.compile = .ok g.clauses.placed) ∧
      family = { must := groups.map fun g => .nested g.path (.bool g.clauses.placed) } := by
  refine ⟨fun g hg => ?_, ?_⟩
  · obtain ⟨part, hpart⟩ := exists_part_of_collect h g hg
    obtain ⟨hpath, hinner, -⟩ := NestedGroup.placed_of_compile hpart
    exact ⟨hpath, hinner⟩
  · rw [eq_flatMap_of_collect h fun g part hpart => (NestedGroup.placed_of_compile hpart).2.2]
    simp [← List.map_eq_flatMap]

namespace Builder

variable {b : Builder} {done : List FamilyKind} {root : BoolQuery Query}

/-- The queries of a scope and of the groups beside it. -/
def placed (b : Builder) : BoolQuery Query :=
  { b.clauses.placed with
    must := b.clauses.placed.must ++
      b.nested.map fun g => .nested g.path (.bool g.clauses.placed) }

theorem exists_family_of_families {ks : List FamilyKind} {parts : List Family}
    (h : b.families ks = .ok parts) : ∀ k ∈ ks, ∃ part, b.family k = .ok part := by
  induction ks generalizing parts with
  | nil => exact fun k hk => absurd hk List.not_mem_nil
  | cons k ks ih =>
    obtain ⟨first, hfirst, h⟩ := bind_eq_ok_iff.mp h
    obtain ⟨rest, hrest, -⟩ := bind_eq_ok_iff.mp h
    exact List.forall_mem_cons.mpr ⟨⟨first, hfirst⟩, ih hrest⟩

/-- A success is composed of the contributions of all families, whichever is done first. -/
theorem families_of_compileUnchecked (h : b.compileUnchecked done = .ok root) :
    ∃ contribution : FamilyKind → Family, (∀ k, b.family k = .ok (contribution k)) ∧
      root = Family.compose (FamilyKind.all.map contribution) := by
  have hall : ∀ k, ∃ part, b.family k = .ok part := by
    have h' := h
    unfold compileUnchecked at h'
    split at h'
    · cases h'
    · obtain ⟨parts, hparts, -⟩ := map_eq_ok_iff.mp h'
      intro k
      refine exists_family_of_families hparts k ?_
      cases k <;> decide
  choose contribution hcontribution using hall
  refine ⟨contribution, hcontribution, ?_⟩
  exact Except.ok.inj (h.symm.trans (compileUnchecked_of_families hcontribution done))

/-- What is compiled without a failure is everything in its place, also inside groups. -/
theorem placed_of_compileUnchecked (h : b.compileUnchecked done = .ok root) :
    b.clauses.HaveOperators ∧ root = b.placed ∧
      ∀ g ∈ b.nested, g.path ≠ "" ∧ g.clauses.compile = .ok g.clauses.placed := by
  obtain ⟨contribution, hfamilies, rfl⟩ := families_of_compileUnchecked h
  obtain ⟨hoperators, hplaced⟩ := Clauses.placed_of_families (hfamilies .wheres)
    (hfamilies .filters) (hfamilies .fullTexts) (hfamilies .phrases)
  obtain ⟨hgroups, hnested⟩ := placed_of_nestedFamily (hfamilies .nested)
  refine ⟨hoperators, ?_, hgroups⟩
  calc Family.compose (FamilyKind.all.map contribution)
      = { Family.compose [contribution .wheres, contribution .filters, contribution .fullTexts,
            contribution .phrases] with
          must := (Family.compose [contribution .wheres, contribution .filters,
            contribution .fullTexts, contribution .phrases]).must ++ (contribution .nested).must } := by
        simp [Family.compose, Family.append, FamilyKind.all, hnested]
    _ = b.placed := by rw [hplaced, hnested, placed]

/-- What the families contribute where there are no groups. -/
def ungrouped (wheres filters texts phrases : Family) : FamilyKind → Family
  | .wheres => wheres
  | .filters => filters
  | .fullTexts => texts
  | .phrases => phrases
  | .nested => {}

/-- A scope compiles on its own to the same as inside a group. -/
theorem compileUnchecked_of_clauses {cs : Clauses} (h : cs.compile = .ok root)
    (hclauses : b.clauses = cs) (hnested : b.nested = []) (done : List FamilyKind) :
    b.compileUnchecked done = .ok root := by
  subst hclauses
  obtain ⟨wheres, hwheres, h⟩ := bind_eq_ok_iff.mp h
  obtain ⟨filters, hfilters, h⟩ := bind_eq_ok_iff.mp h
  obtain ⟨texts, htexts, h⟩ := bind_eq_ok_iff.mp h
  obtain ⟨phrases, hphrases, h⟩ := bind_eq_ok_iff.mp h
  obtain rfl := pure_eq_ok_iff.mp h
  have hfamilies : ∀ k, b.family k = .ok (ungrouped wheres filters texts phrases k) := by
    intro k
    cases k with
    | wheres => exact hwheres
    | filters => exact hfilters
    | fullTexts => exact htexts
    | phrases => exact hphrases
    | nested => rw [family, hnested]; rfl
  rw [compileUnchecked_of_families hfamilies done]
  simp [Family.compose, Family.append, FamilyKind.all, ungrouped]

/-- **Nothing is lost, repeated, moved or reordered.** Whenever a query compiles, checked before or
not, it compiles to the same combination in every schedule. Its three parts are the lists of the
conditions one after the other: what must hold are the lists of values to have, the conditions that
do not exclude, and the groups; what must not hold are the lists of values not to have and the
conditions that exclude; the filter is that of the conditions to filter with. A condition that does
not exclude asks for equality or, outside texts, compares by size. Each group is one nested query
for its path, around what a query with the conditions of the group and without groups compiles
to. -/
theorem compileUnchecked_places_all (h : b.compileUnchecked done = .ok root) :
    (∀ done', b.compileUnchecked done' = .ok root) ∧
    root.must =
      b.clauses.whereIns.map (·.query) ++ (b.clauses.wheres.filter (!·.excludes)).map (·.query) ++
        b.clauses.matchIns.map (·.anyTextQuery .fullText) ++
        (b.clauses.matches_.filter (!·.excludes)).map (·.textQuery .fullText) ++
        b.clauses.phraseIns.map (·.anyTextQuery .phrase) ++
        (b.clauses.phrases.filter (!·.excludes)).map (·.textQuery .phrase) ++
        b.nested.map (fun g => .nested g.path (.bool g.clauses.placed)) ∧
    root.mustNot =
      b.clauses.whereNotIns.map (·.query) ++ (b.clauses.wheres.filter (·.excludes)).map (·.query) ++
        b.clauses.matchNotIns.flatMap (·.textQueries .fullText) ++
        (b.clauses.matches_.filter (·.excludes)).map (·.textQuery .fullText) ++
        b.clauses.phraseNotIns.flatMap (·.textQueries .phrase) ++
        (b.clauses.phrases.filter (·.excludes)).map (·.textQuery .phrase) ∧
    root.filter = b.clauses.filterIns.map (·.query) ++ b.clauses.filters.map (·.query) ∧
    root.should = [] ∧ root.minimumShouldMatch = none ∧
    b.clauses.HaveOperators ∧
    ∀ g ∈ b.nested, ∀ b' : Builder, b'.clauses = g.clauses → b'.nested = [] →
      ∀ done', b'.compileUnchecked done' = .ok g.clauses.placed := by
  obtain ⟨hoperators, hroot, hgroups⟩ := placed_of_compileUnchecked h
  refine ⟨fun done' => ?_, ?_, ?_, ?_, ?_, ?_, hoperators, ?_⟩
  · obtain ⟨contribution, hfamilies, hcomposed⟩ := families_of_compileUnchecked h
    rw [hcomposed]
    exact compileUnchecked_of_families hfamilies done'
  · rw [hroot]
    rfl
  · rw [hroot]
    rfl
  · rw [hroot]
    rfl
  · rw [hroot]
    rfl
  · rw [hroot]
    rfl
  · intro g hg b' hclauses hnested done'
    exact compileUnchecked_of_clauses (hgroups g hg).2 hclauses hnested done'

/-- Conditions of several kinds in an order that is not that of the parts. -/
def mixedConditions : Builder :=
  ({} : Builder).applyAll [
    .clause (.match_ ⟨"title", "=", .text "red fox"⟩),
    .nestedClause (.where_ ⟨"ratings.stars", " > ", .int 3⟩),
    .clause (.where_ ⟨"year", ">=", .int 1990⟩),
    .clause (.where_ ⟨"genre", "<>", .text "war"⟩),
    .clause (.where_ ⟨"genre", "=", .text "drama"⟩),
    .clause (.whereIn ⟨"id", [.int 1, .int 2]⟩),
    .clause (.matchNotIn ⟨"title", [.text "dog", .text "cat"]⟩)]

theorem mixedConditions_placed :
    ∃ root, mixedConditions.compileUnchecked [.nested, .wheres] = .ok root ∧
      root.must = [.terms [("id", [.int 1, .int 2])],
        .range [("year", { gte := some (.int 1990) })], .term [("genre", .string "drama")],
        .fullText [("title", .string "red fox")],
        .nested "ratings" (.bool { must :=
          [.range [("ratings.stars", { gt := some (.int 3) })]] })] ∧
      root.mustNot = [.term [("genre", .string "war")], .fullText [("title", .string "dog")],
        .fullText [("title", .string "cat")]] := by
  have hcompiled : ∃ root, mixedConditions.compileUnchecked [.nested, .wheres] = .ok root :=
    ⟨_, by rfl⟩
  obtain ⟨root, hroot⟩ := hcompiled
  obtain ⟨-, hmust, hmustNot, -⟩ := compileUnchecked_places_all hroot
  exact ⟨root, hroot, hmust.trans (by rfl), hmustNot.trans (by rfl)⟩

end Builder

end DocSearch
