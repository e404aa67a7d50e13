import DocSearch.Proofs.Families
import DocSearch.Proofs.Groups
import DocSearch.Proofs.Paths
import Mathlib.Tactic.Tauto

/-!
# What a query means

Each condition says something of the values that a document has at a field. A query admits a
document if all its conditions hold there, those of a nested group together in one object under
its path. The compiled query selects exactly these documents.

The conditions of a scope are spread over families, and within a family over the three parts of a
combination. What is carried through all these steps is `Family.Admits`: a document passes a
contribution if all its parts agree, and contributions put together admit what each of them admits.
-/

namespace DocSearch

/-! ### Conditions on the values of a field -/

/-- Some value has the text of the operand, none has it, or some value compares with it. -/
def Operator.Meets (op : Operator) (values : List Json) (operand : Json) : Prop :=
  match op with
  | .eq => ∃ v ∈ values, v.asText = operand.asText
  | .ne => ∀ v ∈ values, v.asText ≠ operand.asText
  | .gt => ∃ v ∈ values, compareValues v operand = .gt
  | .lt => ∃ v ∈ values, compareValues v operand = .lt
  | .gte => ∃ v ∈ values, compareValues v operand ≠ .lt
  | .lte => ∃ v ∈ values, compareValues v operand ≠ .gt

/-- A value has a token of the operand. -/
def SharesToken (operand value : Json) : Prop :=
  ∃ token ∈ words operand.asText, token ∈ words value.asText

/-- A value has all tokens of the operand in a row, of which there are some. -/
def ContainsTokens (operand value : Json) : Prop :=
  words operand.asText ≠ [] ∧ words operand.asText <:+: words value.asText

namespace Predicate

variable {context : Context}

/-- The values of a field compare with the operand as the operator says. -/
def Compares (p : Predicate context) (values : List Json) : Prop :=
  ∃ op, p.operator? = some op ∧ op.Meets values p.value.toJson

/-- Some value of a field matches the operand, or none does. -/
def Mentions (Matches : Json → Json → Prop) (p : Predicate context) (values : List Json) : Prop :=
  p.operator? = some .eq ∧ (∃ v ∈ values, Matches p.value.toJson v) ∨
    p.operator? = some .ne ∧ ∀ v ∈ values, ¬ Matches p.value.toJson v

end Predicate

namespace SetPredicate

variable {context : Context}

/-- Some value of a field has the text of a listed one. -/
def Lists (p : SetPredicate context) (values : List Json) : Prop :=
  ∃ v ∈ values, ∃ listed ∈ p.values, v.asText = listed.toJson.asText

/-- Some listed value is matched by a value of a field. -/
def MentionsOne (Matches : Json → Json → Prop) (p : SetPredicate context) (values : List Json) :
    Prop :=
  ∃ listed ∈ p.values, ∃ v ∈ values, Matches listed.toJson v

end SetPredicate

/-- A condition holds of the values that its field has. -/
def Clause.Holds (values : List Json) : Clause → Prop
  | .where_ p => p.Compares values
  | .whereIn p => p.Lists values
  | .whereNotIn p => ¬ p.Lists values
  | .filter p => p.Compares values
  | .filterIn p => p.Lists values
  | .match_ p => p.Mentions SharesToken values
  | .matchIn p => p.MentionsOne SharesToken values
  | .matchNotIn p => ¬ p.MentionsOne SharesToken values
  | .phrase p => p.Mentions ContainsTokens values
  | .phraseIn p => p.MentionsOne ContainsTokens values
  | .phraseNotIn p => ¬ p.MentionsOne ContainsTokens values

/-- A document meets all conditions of a query: those outside groups in the document, those of a
group in one object under its path, where their fields are read by their last names. -/
def Builder.Admits (b : Builder) (doc : Json) : Prop :=
  (∀ c ∈ b.clauses, c.Holds (valuesAt doc c.field)) ∧
    ∀ g ∈ b.nested, ∃ item ∈ valuesAt doc g.path,
      ∀ c ∈ g.clauses, c.Holds (valuesAt item (leafName c.field))

/-- Each list of texts to be matched has a text. An empty one would compile to a combination of no
alternatives, which selects everything. -/
def Clauses.TextsListed (cs : Clauses) : Prop :=
  (∀ p ∈ cs.matchIns, p.values ≠ []) ∧ ∀ p ∈ cs.phraseIns, p.values ≠ []

def Builder.TextsListed (b : Builder) : Prop :=
  b.clauses.TextsListed ∧ ∀ g ∈ b.nested, g.clauses.TextsListed

/-! ### Queries of one field -/

section Leaves

variable {field : String} {operand doc : Json}

theorem occursIn_iff {part ws : List String} : occursIn part ws = true ↔ part <:+: ws := by
  induction ws with
  | nil => simp [occursIn]
  | cons w ws ih =>
    rw [occursIn, Bool.or_eq_true, ih, List.isPrefixOf_iff_prefix, List.infix_cons_iff]

theorem sharesWord_iff {value : Json} :
    sharesWord operand value = true ↔ SharesToken operand value := by
  simp [sharesWord, SharesToken]

theorem containsPhrase_iff {value : Json} :
    containsPhrase operand value = true ↔ ContainsTokens operand value := by
  simp [containsPhrase, ContainsTokens, occursIn_iff]

theorem selects_ofTerm :
    (Query.ofTerm field operand).selects doc = true ↔
      Operator.Meets .eq (valuesAt doc field) operand := by
  have hany : (Query.ofTerm field operand).selects doc = true ↔
      ∃ v ∈ valuesAt doc field, operand.asText = v.asText := by
    simp [Query.ofTerm, Query.selects, sameText]
  rw [hany]
  exact exists_congr fun v => and_congr_right fun _ => eq_comm

theorem selects_ofTerms {operands : List Json} :
    (Query.ofTerms field operands).selects doc = true ↔
      ∃ v ∈ valuesAt doc field, ∃ listed ∈ operands, v.asText = listed.asText := by
  simp [Query.ofTerms, Query.selects, sameText]

theorem selects_ofFullText :
    (Query.ofFullText field operand).selects doc = true ↔
      ∃ v ∈ valuesAt doc field, SharesToken operand v := by
  simp [Query.ofFullText, Query.selects, sharesWord_iff]

theorem selects_ofPhrase :
    (Query.ofPhrase field operand).selects doc = true ↔
      ∃ v ∈ valuesAt doc field, ContainsTokens operand v := by
  simp [Query.ofPhrase, Query.selects, containsPhrase_iff]

theorem selects_ofRange {bounds : RangeBounds} :
    (Query.ofRange field bounds).selects doc = true ↔
      ∃ v ∈ valuesAt doc field, bounds.holds v = true := by
  simp [Query.ofRange, Query.selects]

/-- A range has one bound, which is the comparison of its operator. -/
theorem selects_rangeClause {context : Context} {p : Predicate context} {op : Operator} {q : Query}
    (h : rangeClause p op = .ok q) :
    q.selects doc = true ↔ op.Meets (valuesAt doc p.field) p.value.toJson := by
  unfold rangeClause at h
  by_cases hvalue : p.value.isRangeable = true
  · cases op <;> simp only [hvalue, Bool.not_true, Bool.false_eq_true, if_false, Except.ok.injEq,
      reduceCtorEq] at h
    all_goals
      rw [← h, selects_ofRange]
      simp [RangeBounds.holds, Operator.Meets]
  · simp [hvalue] at h

end Leaves

/-! ### Combinations -/

section Combinations

variable {qs : List Query} {doc : Json}

theorem allSelect_iff : Query.allSelect qs doc = true ↔ ∀ q ∈ qs, q.selects doc = true := by
  induction qs with
  | nil => simp [Query.allSelect]
  | cons q qs ih => rw [Query.allSelect, Bool.and_eq_true, ih, List.forall_mem_cons]

theorem anySelects_eq_false_iff :
    Query.anySelects qs doc = false ↔ ∀ q ∈ qs, q.selects doc = false := by
  induction qs with
  | nil => simp [Query.anySelects]
  | cons q qs ih => rw [Query.anySelects, Bool.or_eq_false_iff, ih, List.forall_mem_cons]

theorem one_le_countSelecting_iff :
    1 ≤ Query.countSelecting qs doc ↔ ∃ q ∈ qs, q.selects doc = true := by
  induction qs with
  | nil => simp [Query.countSelecting]
  | cons q qs ih =>
    simp only [Query.countSelecting, List.mem_cons, exists_eq_or_imp, ← ih]
    by_cases hq : q.selects doc = true
    · simp [hq]
    · simp [hq]

/-- Of alternatives one must hold, but where there are none nothing is asked for. -/
theorem selects_anyOf :
    (Query.bool (.anyOf qs)).selects doc = true ↔ qs = [] ∨ ∃ q ∈ qs, q.selects doc = true := by
  have hcount : (Query.bool (.anyOf qs)).selects doc =
      (qs.isEmpty || decide (1 ≤ Query.countSelecting qs doc)) := by
    rw [BoolQuery.anyOf, Query.selects]
    rfl
  rw [hcount, Bool.or_eq_true, List.isEmpty_iff, decide_eq_true_iff, one_le_countSelecting_iff]

/-- A combination without alternatives selects what all its parts agree on. -/
theorem selects_bool {must mustNot filter : List Query} :
    (Query.bool { must := must, mustNot := mustNot, filter := filter }).selects doc = true ↔
      (∀ q ∈ must, q.selects doc = true) ∧ (∀ q ∈ filter, q.selects doc = true) ∧
        ∀ q ∈ mustNot, q.selects doc = false := by
  simp only [Query.selects, List.isEmpty_nil, Bool.true_or, Bool.and_true, Bool.and_eq_true,
    Bool.not_eq_eq_eq_not, Bool.not_true, allSelect_iff, anySelects_eq_false_iff, and_assoc]

end Combinations

/-! ### Contributions -/

namespace Family

/-- A document passes all parts of a contribution. -/
def Admits (family : Family) (doc : Json) : Prop :=
  (∀ q ∈ family.must, q.selects doc = true) ∧ (∀ q ∈ family.filter, q.selects doc = true) ∧
    ∀ q ∈ family.mustNot, q.selects doc = false

variable {doc : Json}

theorem admits_empty : ({} : Family).Admits doc := by
  simp [Admits]

theorem admits_append {a b : Family} : (a.append b).Admits doc ↔ a.Admits doc ∧ b.Admits doc := by
  simp only [Admits, append, List.forall_mem_append]
  tauto

theorem admits_must {q : Query} : ({ must := [q] } : Family).Admits doc ↔ q.selects doc = true := by
  simp [Admits]

theorem admits_mustNot {q : Query} :
    ({ mustNot := [q] } : Family).Admits doc ↔ ¬ q.selects doc = true := by
  simp [Admits]

theorem admits_filter {q : Query} :
    ({ filter := [q] } : Family).Admits doc ↔ q.selects doc = true := by
  simp [Admits]

/-- Contributions put together admit what each of them admits. -/
theorem selects_compose {families : List Family} :
    (Query.bool (compose families)).selects doc = true ↔
      ∀ family ∈ families, family.Admits doc := by
  have hfold : ∀ start : Family, (families.foldl append start).Admits doc ↔
      start.Admits doc ∧ ∀ family ∈ families, family.Admits doc := by
    induction families with
    | nil => simp
    | cons first families ih =>
      intro start
      rw [List.foldl_cons, ih, admits_append, List.forall_mem_cons, and_assoc]
  rw [compose, selects_bool]
  exact (hfold {}).trans (and_iff_right admits_empty)

end Family

section Contributions

variable {context : Context} {doc : Json}

theorem admits_collect {α : Type} {f : α → Except ValidationError Family} {Holds : α → Prop}
    {as : List α} (hf : ∀ a ∈ as, ∀ family, f a = .ok family → (family.Admits doc ↔ Holds a))
    {family : Family} (h : collect f as = .ok family) :
    family.Admits doc ↔ ∀ a ∈ as, Holds a := by
  induction as generalizing family with
  | nil =>
    obtain rfl : ({} : Family) = family := Except.ok.inj h
    simp [Family.admits_empty]
  | cons a as ih =>
    rw [collect, bind_eq_ok_iff] at h
    obtain ⟨first, hfirst, h⟩ := h
    obtain ⟨rest, hrest, h⟩ := bind_eq_ok_iff.mp h
    obtain rfl : first.append rest = family := pure_eq_ok_iff.mp h
    obtain ⟨ha, has⟩ := List.forall_mem_cons.mp hf
    rw [Family.admits_append, ha first hfirst, ih has hrest, List.forall_mem_cons]

theorem Predicate.compares_iff {p : Predicate context} {op : Operator} {values : List Json}
    (h : p.allowed = .ok op) : p.Compares values ↔ op.Meets values p.value.toJson := by
  have hop : p.operator? = some op := (Predicate.allowed_eq_ok_iff.mp h).1
  constructor
  · rintro ⟨op', hop', hmeets⟩
    obtain rfl : op = op' := Option.some.inj (hop.symm.trans hop')
    exact hmeets
  · intro hmeets
    exact ⟨op, hop, hmeets⟩

theorem admits_whereClause {p : Predicate .scored} {family : Family}
    (h : whereClause p = .ok family) :
    family.Admits doc ↔ p.Compares (valuesAt doc p.field) := by
  rw [whereClause, bind_eq_ok_iff] at h
  obtain ⟨op, hop, h⟩ := h
  rw [Predicate.compares_iff hop]
  cases op with
  | eq =>
    obtain rfl := pure_eq_ok_iff.mp h
    rw [Family.admits_must, selects_ofTerm]
  | ne =>
    obtain rfl := pure_eq_ok_iff.mp h
    rw [Family.admits_mustNot, selects_ofTerm]
    simp [Operator.Meets]
  | _ =>
    obtain ⟨q, hq, h⟩ := bind_eq_ok_iff.mp h
    obtain rfl := pure_eq_ok_iff.mp h
    rw [Family.admits_must, selects_rangeClause hq]

theorem admits_filterClause {p : Predicate .filter} {family : Family}
    (h : filterClause p = .ok family) :
    family.Admits doc ↔ p.Compares (valuesAt doc p.field) := by
  rw [filterClause, bind_eq_ok_iff] at h
  obtain ⟨op, hop, h⟩ := h
  rw [Predicate.compares_iff hop]
  cases op with
  | eq =>
    obtain rfl := pure_eq_ok_iff.mp h
    rw [Family.admits_filter, selects_ofTerm]
  | _ =>
    obtain ⟨q, hq, h⟩ := bind_eq_ok_iff.mp h
    obtain rfl := pure_eq_ok_iff.mp h
    rw [Family.admits_filter, selects_rangeClause hq]

/-- A kind of query on a text with what it asks of the values of its field. -/
def Asks (make : String → Json → Query) (Matches : Json → Json → Prop) : Prop :=
  ∀ field operand doc, (make field operand).selects doc = true ↔
    ∃ v ∈ valuesAt doc field, Matches operand v

theorem asks_ofFullText : Asks Query.ofFullText SharesToken := fun _ _ _ => selects_ofFullText

theorem asks_ofPhrase : Asks Query.ofPhrase ContainsTokens := fun _ _ _ => selects_ofPhrase

variable {make : String → Json → Query} {Matches : Json → Json → Prop}

theorem admits_textClause (hmake : Asks make Matches) {p : Predicate context}
    (hcontext : context.operators = [.eq, .ne]) {family : Family}
    (h : textClause make p = .ok family) :
    family.Admits doc ↔ p.Mentions Matches (valuesAt doc p.field) := by
  rw [textClause, bind_eq_ok_iff] at h
  obtain ⟨op, hop, h⟩ := h
  obtain ⟨hwritten, hmem⟩ := Predicate.allowed_eq_ok_iff.mp hop
  rw [Predicate.Mentions, hwritten]
  rw [hcontext] at hmem
  cases op with
  | eq =>
    obtain rfl := pure_eq_ok_iff.mp h
    simp [Family.admits_must, hmake p.field]
  | ne =>
    obtain rfl := pure_eq_ok_iff.mp h
    simp [Family.admits_mustNot, hmake p.field]
  | _ => simp at hmem

theorem selects_alternatives (hmake : Asks make Matches) {p : SetPredicate context} :
    (alternatives make p).selects doc = true ↔
      p.values = [] ∨ p.MentionsOne Matches (valuesAt doc p.field) := by
  have hempty : p.values = [] ↔ p.jsonValues.map (make p.field) = [] := by
    simp [SetPredicate.jsonValues]
  have hone : p.MentionsOne Matches (valuesAt doc p.field) ↔
      ∃ q ∈ p.jsonValues.map (make p.field), q.selects doc = true := by
    simp [SetPredicate.MentionsOne, SetPredicate.jsonValues, hmake p.field]
  rw [hempty, hone]
  unfold alternatives
  split
  · next value heq => simp [heq]
  · exact selects_anyOf

theorem admits_exclusions (hmake : Asks make Matches) {p : SetPredicate context} :
    (∀ q ∈ exclusions make p, q.selects doc = false) ↔
      ¬ p.MentionsOne Matches (valuesAt doc p.field) := by
  simp only [exclusions, SetPredicate.jsonValues, List.map_map, List.forall_mem_map,
    Function.comp_apply, ← Bool.not_eq_true, hmake p.field, SetPredicate.MentionsOne,
    not_exists, not_and]

theorem selects_termsQuery {p : SetPredicate context} :
    p.termsQuery.selects doc = true ↔ p.Lists (valuesAt doc p.field) := by
  rw [SetPredicate.termsQuery, selects_ofTerms]
  simp [SetPredicate.jsonValues, SetPredicate.Lists]

end Contributions

/-! ### Scopes -/

namespace Clauses

variable {cs : Clauses} {doc : Json}

theorem admits_whereFamily {family : Family} (h : cs.whereFamily = .ok family) :
    family.Admits doc ↔
      (∀ p ∈ cs.whereIns, p.Lists (valuesAt doc p.field)) ∧
      (∀ p ∈ cs.whereNotIns, ¬ p.Lists (valuesAt doc p.field)) ∧
      ∀ p ∈ cs.wheres, p.Compares (valuesAt doc p.field) := by
  rw [whereFamily, bind_eq_ok_iff] at h
  obtain ⟨singles, hsingles, h⟩ := h
  obtain rfl := pure_eq_ok_iff.mp h
  rw [Family.admits_append, admits_collect (fun _ _ _ => admits_whereClause) hsingles, ← and_assoc]
  refine and_congr_left fun _ => ?_
  simp [Family.Admits, selects_termsQuery, ← Bool.not_eq_true]

theorem admits_filterFamily {family : Family} (h : cs.filterFamily = .ok family) :
    family.Admits doc ↔
      (∀ p ∈ cs.filterIns, p.Lists (valuesAt doc p.field)) ∧
      ∀ p ∈ cs.filters, p.Compares (valuesAt doc p.field) := by
  rw [filterFamily, bind_eq_ok_iff] at h
  obtain ⟨singles, hsingles, h⟩ := h
  obtain rfl := pure_eq_ok_iff.mp h
  rw [Family.admits_append, admits_collect (fun _ _ _ => admits_filterClause) hsingles]
  refine and_congr_left fun _ => ?_
  simp [Family.Admits, selects_termsQuery]

theorem admits_textFamily {context : Context} {make : String → Json → Query}
    {Matches : Json → Json → Prop} (hmake : Asks make Matches)
    (hcontext : context.operators = [.eq, .ne]) {ins notIns : List (SetPredicate context)}
    {ps : List (Predicate context)} (hins : ∀ p ∈ ins, p.values ≠ []) {family : Family}
    (h : textFamily make ins notIns ps = .ok family) :
    family.Admits doc ↔
      (∀ p ∈ ins, p.MentionsOne Matches (valuesAt doc p.field)) ∧
      (∀ p ∈ notIns, ¬ p.MentionsOne Matches (valuesAt doc p.field)) ∧
      ∀ p ∈ ps, p.Mentions Matches (valuesAt doc p.field) := by
  rw [textFamily, bind_eq_ok_iff] at h
  obtain ⟨singles, hsingles, h⟩ := h
  obtain rfl := pure_eq_ok_iff.mp h
  rw [Family.admits_append, admits_collect (fun _ _ _ => admits_textClause hmake hcontext) hsingles,
    ← and_assoc]
  refine and_congr_left fun _ => ?_
  simp only [Family.Admits, List.forall_mem_map, List.not_mem_nil, false_implies, implies_true,
    true_and]
  refine and_congr (forall₂_congr fun p hp => ?_) ?_
  · rw [selects_alternatives hmake, or_iff_right (hins p hp)]
  · rw [List.forall_mem_flatMap]
    exact forall₂_congr fun p _ => admits_exclusions hmake

theorem admits_fullTextFamily {family : Family} (h : cs.fullTextFamily = .ok family)
    (htexts : ∀ p ∈ cs.matchIns, p.values ≠ []) :
    family.Admits doc ↔
      (∀ p ∈ cs.matchIns, p.MentionsOne SharesToken (valuesAt doc p.field)) ∧
      (∀ p ∈ cs.matchNotIns, ¬ p.MentionsOne SharesToken (valuesAt doc p.field)) ∧
      ∀ p ∈ cs.matches_, p.Mentions SharesToken (valuesAt doc p.field) :=
  admits_textFamily asks_ofFullText rfl htexts h

theorem admits_phraseFamily {family : Family} (h : cs.phraseFamily = .ok family)
    (htexts : ∀ p ∈ cs.phraseIns, p.values ≠ []) :
    family.Admits doc ↔
      (∀ p ∈ cs.phraseIns, p.MentionsOne ContainsTokens (valuesAt doc p.field)) ∧
      (∀ p ∈ cs.phraseNotIns, ¬ p.MentionsOne ContainsTokens (valuesAt doc p.field)) ∧
      ∀ p ∈ cs.phrases, p.Mentions ContainsTokens (valuesAt doc p.field) :=
  admits_textFamily asks_ofPhrase rfl htexts h

/-- The four families of a scope together admit the documents in which all its conditions hold. -/
theorem admits_families {wheres filters texts phrases : Family}
    (hwheres : cs.whereFamily = .ok wheres) (hfilters : cs.filterFamily = .ok filters)
    (htexts : cs.fullTextFamily = .ok texts) (hphrases : cs.phraseFamily = .ok phrases)
    (hlisted : cs.TextsListed) :
    (wheres.Admits doc ∧ filters.Admits doc ∧ texts.Admits doc ∧ phrases.Admits doc) ↔
      ∀ c ∈ cs, c.Holds (valuesAt doc c.field) := by
  rw [forall_mem_iff, admits_whereFamily hwheres, admits_filterFamily hfilters,
    admits_fullTextFamily htexts hlisted.1, admits_phraseFamily hphrases hlisted.2]
  simp only [Clause.Holds, Clause.field, and_assoc]

theorem selects_compile {root : BoolQuery Query} (h : cs.compile = .ok root)
    (hlisted : cs.TextsListed) :
    (Query.bool root).selects doc = true ↔ ∀ c ∈ cs, c.Holds (valuesAt doc c.field) := by
  rw [compile, bind_eq_ok_iff] at h
  obtain ⟨wheres, hwheres, h⟩ := h
  obtain ⟨filters, hfilters, h⟩ := bind_eq_ok_iff.mp h
  obtain ⟨texts, htexts, h⟩ := bind_eq_ok_iff.mp h
  obtain ⟨phrases, hphrases, h⟩ := bind_eq_ok_iff.mp h
  obtain rfl := pure_eq_ok_iff.mp h
  rw [Family.selects_compose, ← admits_families hwheres hfilters htexts hphrases hlisted]
  simp only [List.forall_mem_cons, List.not_mem_nil, false_implies, implies_true, and_true]

end Clauses

/-- The query of a group selects a document if all conditions of the group hold in one object under
its path. -/
theorem NestedGroup.admits_compile {g : NestedGroup} {family : Family} (h : g.compile = .ok family)
    (hpath : g.path ≠ "") (hplaced : g.Placed) (htexts : g.clauses.TextsListed) {doc : Json} :
    family.Admits doc ↔ ∃ item ∈ valuesAt doc g.path,
      ∀ c ∈ g.clauses, c.Holds (valuesAt item (leafName c.field)) := by
  have hempty : g.path.isEmpty = false := by simpa using hpath
  rw [NestedGroup.compile, hempty, if_neg (by simp), bind_eq_ok_iff] at h
  obtain ⟨inner, hinner, h⟩ := h
  obtain rfl := pure_eq_ok_iff.mp h
  rw [Family.admits_must, Query.selects, List.any_eq_true]
  refine exists_congr fun item => and_congr_right fun _ => ?_
  rw [Clauses.selects_compile hinner htexts]
  refine forall₂_congr fun c hc => ?_
  rw [valuesAt_placeAt (hplaced.nestedPath_eq hpath hc)]

namespace Builder

variable {b : Builder}

theorem admits_nestedFamily {family : Family} (h : b.family .nested = .ok family)
    (hpaths : ∀ g ∈ b.nested, g.path ≠ "") (hplaced : b.Placed)
    (hlisted : ∀ g ∈ b.nested, g.clauses.TextsListed) {doc : Json} :
    family.Admits doc ↔ ∀ g ∈ b.nested, ∃ item ∈ valuesAt doc g.path,
      ∀ c ∈ g.clauses, c.Holds (valuesAt item (leafName c.field)) :=
  admits_collect (fun g hg _ hcompile =>
    NestedGroup.admits_compile hcompile (hpaths g hg) (hplaced g hg) (hlisted g hg)) h

/-- **A compiled query selects what the query means.** Every query that calls build, that passes
the checks and that lists a text wherever it lists texts to be matched, compiles in every schedule
to one combination, and that selects exactly the documents which meet all its conditions. -/
theorem compile_selects_iff_admits (hb : b.Reachable) (haccepted : b.validateClauses = .ok ())
    (hlisted : b.TextsListed) :
    ∃ root, (∀ done, b.compile done = .ok root) ∧
      ∀ doc, (Query.bool root).selects doc = true ↔ b.Admits doc := by
  obtain ⟨contribution, hfamilies, hcompiled⟩ := compile_isOk haccepted
  have hpaths : ∀ g ∈ b.nested, g.path ≠ "" :=
    fun g hg => ((validateClauses_eq_ok_iff.mp haccepted).2 g hg).1
  refine ⟨_, fun done => (hcompiled done).2, fun doc => ?_⟩
  rw [Family.selects_compose, Admits,
    ← Clauses.admits_families (hfamilies .wheres) (hfamilies .filters) (hfamilies .fullTexts)
      (hfamilies .phrases) hlisted.1,
    ← admits_nestedFamily (hfamilies .nested) hpaths hb.placed hlisted.2]
  simp only [FamilyKind.all, List.forall_mem_map, List.forall_mem_cons, List.not_mem_nil,
    false_implies, implies_true, and_true, and_assoc]

/-- A query with conditions of several kinds, two of them on one author. -/
def authored : Builder :=
  ({} : Builder).applyAll [
    .clause (.where_ ⟨"rank", ">", .int 1⟩),
    .clause (.matchIn ⟨"title", [.text "red fox", .int 2]⟩),
    .nestedClause (.where_ ⟨"authors.name", "=", .text "Ann"⟩),
    .nestedClause (.filter ⟨"authors.age", "<=", .int 40⟩)]

theorem authored_selects_iff_admits :
    authored.Reachable ∧ authored.validateClauses = .ok () ∧ authored.TextsListed ∧
      ∃ root, (∀ done, authored.compile done = .ok root) ∧
        ∀ doc, (Query.bool root).selects doc = true ↔ authored.Admits doc := by
  have hreachable : authored.Reachable := ⟨none, _, rfl⟩
  have haccepted : authored.validateClauses = .ok () := by rfl
  have hlisted : authored.TextsListed := by
    unfold TextsListed Clauses.TextsListed
    decide
  exact ⟨hreachable, haccepted, hlisted,
    compile_selects_iff_admits hreachable haccepted hlisted⟩

end Builder

end DocSearch
