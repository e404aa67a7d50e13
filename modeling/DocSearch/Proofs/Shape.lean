import DocSearch.Proofs.Calls
import DocSearch.Proofs.Families

/-!
# The shape of compiled queries

What a query may look like is said of the queries inside it, wherever they stand: one that is no
combination names one field and holds texts and finite numbers, alternatives are on one field, and a
filter has no text search in it. Nested queries stand in the root only, one for each path, and the
fields inside have that path.

`Query.FlatOn` is what is carried from single conditions through families to a scope: all inside is
sound, nothing is nested, and the fields are allowed ones. For the conditions of a group these are
the fields under its path.
-/

namespace DocSearch

/-! ### Queries inside a query -/

/-- A text or a finite number. -/
def Json.IsOperand : Json → Prop
  | .string _ | .int _ => True
  | .float x => Floating.finite x = true
  | _ => False

def RangeBounds.given (r : RangeBounds) : List Json :=
  r.gte.toList ++ r.gt.toList ++ r.lte.toList ++ r.lt.toList

namespace Query

/-- A query that compares fields with values. -/
def isAtom : Query → Bool
  | .term _ | .terms _ | .range _ | .fullText _ | .phrase _ => true
  | .matchAll _ | .bool _ | .nested _ _ => false

/-- An atom whose values are compared as they are. -/
def isTermLevel : Query → Bool
  | .term _ | .terms _ | .range _ => true
  | _ => false

def nestedPath? : Query → Option String
  | .nested path _ => some path
  | _ => none

def fields : Query → List String
  | .term fs | .fullText fs | .phrase fs => fs.map Prod.fst
  | .terms fs => fs.map Prod.fst
  | .range fs => fs.map Prod.fst
  | _ => []

def operands : Query → List Json
  | .term fs | .fullText fs | .phrase fs => fs.map Prod.snd
  | .terms fs => fs.flatMap Prod.snd
  | .range fs => fs.flatMap fun f => f.2.given
  | _ => []

mutual

/-- A query and all queries inside it. -/
def parts (q : Query) : List Query :=
  match q with
  | .bool ⟨must, should, mustNot, filter, minimum⟩ =>
    .bool ⟨must, should, mustNot, filter, minimum⟩ ::
      (partsOfAll must ++ partsOfAll should ++ partsOfAll mustNot ++ partsOfAll filter)
  | .nested path query => .nested path query :: parts query
  | .matchAll boost => [.matchAll boost]
  | .fullText fields => [.fullText fields]
  | .phrase fields => [.phrase fields]
  | .term fields => [.term fields]
  | .terms fields => [.terms fields]
  | .range fields => [.range fields]
termination_by structural q

def partsOfAll (qs : List Query) : List Query :=
  match qs with
  | [] => []
  | q :: qs => parts q ++ partsOfAll qs
termination_by structural qs

end

/-- What is asked of a query by itself, whatever stands inside it. -/
structure Sound (q : Query) : Prop where
  one_field : q.isAtom = true → ∃ field, q.fields = [field]
  operands : ∀ v ∈ q.operands, v.IsOperand
  one_bound : ∀ fs, q = .range fs → ∀ f ∈ fs, f.2.given.length = 1
  alternatives : ∀ m, q = .bool m → m.should ≠ [] →
    m.must = [] ∧ m.mustNot = [] ∧ m.filter = [] ∧ m.minimumShouldMatch = some 1 ∧
      ∃ field, ∀ p ∈ m.should, p.isAtom = true ∧ p.fields = [field]
  filters : ∀ m, q = .bool m → ∀ p ∈ m.filter, p.isTermLevel = true

/-- All queries inside are sound, none is nested, and they name allowed fields only. -/
def FlatOn (Allowed : String → Prop) (q : Query) : Prop :=
  ∀ p ∈ q.parts, p.Sound ∧ p.nestedPath? = none ∧ ∀ field ∈ p.fields, Allowed field

end Query

/-- A field is directly under a path: the path, a point and a name without points. -/
def IsUnder (path field : String) : Prop :=
  ∃ leaf : String, '.' ∉ leaf.toList ∧ field = path ++ "." ++ leaf

/-- What is asked of the query that all conditions compile to. -/
structure BoolQuery.WellFormed (root : BoolQuery Query) : Prop where
  no_should : root.should = []
  sound : ∀ q ∈ (Query.bool root).parts, q.Sound
  must : ∀ q ∈ root.must, (∀ p ∈ q.parts, p.nestedPath? = none) ∨
    ∃ path inner, q = .nested path inner ∧ path ≠ "" ∧
      ∀ p ∈ inner.parts, p.nestedPath? = none ∧ ∀ field ∈ p.fields, IsUnder path field
  elsewhere : ∀ q ∈ root.mustNot ++ root.filter, ∀ p ∈ q.parts, p.nestedPath? = none
  distinct : (root.must.filterMap Query.nestedPath?).Nodup

namespace Query

section Parts

variable {Allowed : String → Prop} {field : String} {q : Query}

theorem mem_partsOfAll {p : Query} {qs : List Query} :
    p ∈ partsOfAll qs ↔ ∃ q ∈ qs, p ∈ q.parts := by
  induction qs with
  | nil => simp [partsOfAll]
  | cons q qs ih => simp [partsOfAll, ih]

theorem parts_of_isAtom (h : q.isAtom = true) : q.parts = [q] := by
  cases q <;> first | rfl | simp [isAtom] at h

theorem mem_parts_bool {p : Query} {m : BoolQuery Query} :
    p ∈ (Query.bool m).parts ↔
      p = .bool m ∨ ∃ q ∈ m.must ++ m.should ++ m.mustNot ++ m.filter, p ∈ q.parts := by
  simp only [parts, List.mem_cons, List.mem_append, mem_partsOfAll, or_and_right, exists_or,
    or_assoc]

theorem self_mem_parts (q : Query) : q ∈ q.parts := by
  cases q <;> simp [parts]

theorem FlatOn.of_mem {m : BoolQuery Query} (h : (Query.bool m).FlatOn Allowed)
    (hq : q ∈ m.must ++ m.should ++ m.mustNot ++ m.filter) : q.FlatOn Allowed :=
  fun p hp => h p (mem_parts_bool.mpr (Or.inr ⟨q, hq, hp⟩))

theorem flatOn_of_isAtom (hatom : q.isAtom = true) (hfields : q.fields = [field])
    (hallowed : Allowed field) (hoperands : ∀ v ∈ q.operands, v.IsOperand)
    (hbound : ∀ fs, q = .range fs → ∀ f ∈ fs, f.2.given.length = 1) : q.FlatOn Allowed := by
  intro p hp
  rw [parts_of_isAtom hatom, List.mem_singleton] at hp
  subst hp
  refine ⟨⟨fun _ => ⟨field, hfields⟩, hoperands, hbound, ?_, ?_⟩, ?_, by simpa [hfields]⟩
  · rintro m rfl
    cases hatom
  · rintro m rfl
    cases hatom
  · cases p <;> first | rfl | cases hatom

theorem flatOn_ofTerm {v : Json} (hallowed : Allowed field) (hv : v.IsOperand) :
    (ofTerm field v).FlatOn Allowed :=
  flatOn_of_isAtom rfl rfl hallowed (by simpa [ofTerm, operands]) (by simp [ofTerm])

theorem flatOn_ofTerms {vs : List Json} (hallowed : Allowed field) (hvs : ∀ v ∈ vs, v.IsOperand) :
    (ofTerms field vs).FlatOn Allowed :=
  flatOn_of_isAtom rfl rfl hallowed (by simpa [ofTerms, operands]) (by simp [ofTerms])

theorem flatOn_ofRange {r : RangeBounds} {v : Json} (hallowed : Allowed field)
    (hr : r.given = [v]) (hv : v.IsOperand) : (ofRange field r).FlatOn Allowed := by
  refine flatOn_of_isAtom rfl rfl hallowed (by simpa [ofRange, operands, hr]) ?_
  intro fs hfs f hf
  obtain rfl := Query.range.inj hfs
  rw [List.mem_singleton.mp hf, hr, List.length_singleton]

theorem flatOn_anyOf {qs : List Query}
    (hone : ∀ q ∈ qs, q.isAtom = true ∧ q.fields = [field])
    (hqs : ∀ q ∈ qs, q.FlatOn Allowed) : (Query.bool (.anyOf qs)).FlatOn Allowed := by
  intro p hp
  rcases mem_parts_bool.mp hp with rfl | ⟨q, hq, hp⟩
  · refine ⟨⟨by simp [isAtom], by simp [operands], by simp, ?_, ?_⟩, rfl, by simp [fields]⟩
    · intro m hm _
      obtain rfl := Query.bool.inj hm
      exact ⟨rfl, rfl, rfl, rfl, field, hone⟩
    · intro m hm p hp
      obtain rfl := Query.bool.inj hm
      cases hp
  · exact hqs q (by simpa [BoolQuery.anyOf] using hq) p hp

end Parts

end Query

/-! ### Contributions -/

/-- A contribution of flat queries, of which those to filter with compare values as they are. -/
structure Family.FlatOn (Allowed : String → Prop) (family : Family) : Prop where
  must : ∀ q ∈ family.must, q.FlatOn Allowed
  mustNot : ∀ q ∈ family.mustNot, q.FlatOn Allowed
  filter : ∀ q ∈ family.filter, q.FlatOn Allowed ∧ q.isTermLevel = true

namespace Family.FlatOn

variable {Allowed : String → Prop} {a b : Family} {q : Query}

theorem empty : ({} : Family).FlatOn Allowed := by
  constructor <;> simp

theorem of_must (h : q.FlatOn Allowed) : ({ must := [q] } : Family).FlatOn Allowed := by
  constructor <;> simp [h]

theorem of_mustNot (h : q.FlatOn Allowed) : ({ mustNot := [q] } : Family).FlatOn Allowed := by
  constructor <;> simp [h]

theorem of_filter (h : q.FlatOn Allowed) (hlevel : q.isTermLevel = true) :
    ({ filter := [q] } : Family).FlatOn Allowed := by
  constructor <;> simp [h, hlevel]

theorem append (ha : a.FlatOn Allowed) (hb : b.FlatOn Allowed) : (a.append b).FlatOn Allowed where
  must := List.forall_mem_append.mpr ⟨ha.must, hb.must⟩
  mustNot := List.forall_mem_append.mpr ⟨ha.mustNot, hb.mustNot⟩
  filter := List.forall_mem_append.mpr ⟨ha.filter, hb.filter⟩

theorem collect {α : Type} {f : α → Except ValidationError Family} {as : List α} {family : Family}
    (h : collect f as = .ok family)
    (hf : ∀ a ∈ as, ∀ part, f a = .ok part → part.FlatOn Allowed) : family.FlatOn Allowed := by
  induction as generalizing family with
  | nil =>
    obtain rfl : ({} : Family) = family := Except.ok.inj h
    exact empty
  | cons a as ih =>
    rw [DocSearch.collect, bind_eq_ok_iff] at h
    obtain ⟨first, hfirst, h⟩ := h
    obtain ⟨rest, hrest, h⟩ := bind_eq_ok_iff.mp h
    obtain rfl : first.append rest = family := pure_eq_ok_iff.mp h
    obtain ⟨ha, has⟩ := List.forall_mem_cons.mp hf
    exact (ha first hfirst).append (ih hrest has)

end Family.FlatOn

/-! ### Combinations -/

section Combinations

variable {Allowed : String → Prop}

theorem Family.FlatOn.foldl_append {families : List Family} {start : Family}
    (hstart : start.FlatOn Allowed) (h : ∀ family ∈ families, family.FlatOn Allowed) :
    (families.foldl Family.append start).FlatOn Allowed := by
  induction families generalizing start with
  | nil => exact hstart
  | cons first families ih =>
    obtain ⟨hfirst, hrest⟩ := List.forall_mem_cons.mp h
    exact ih (hstart.append hfirst) hrest

theorem Family.compose_concat (families : List Family) (last : Family) :
    compose (families ++ [last]) =
      { compose families with
        must := (compose families).must ++ last.must
        mustNot := (compose families).mustNot ++ last.mustNot
        filter := (compose families).filter ++ last.filter } := by
  rw [compose, List.foldl_concat]
  rfl

theorem sound_bool {m : BoolQuery Query} (hshould : m.should = [])
    (hfilter : ∀ q ∈ m.filter, q.isTermLevel = true) : (Query.bool m).Sound where
  one_field h := by cases h
  operands v hv := by cases hv
  one_bound fs h := by cases h
  alternatives m' hm' hne := absurd (Query.bool.inj hm' ▸ hshould) hne
  filters m' hm' := Query.bool.inj hm' ▸ hfilter

theorem flatOn_bool_compose {families : List Family}
    (h : ∀ family ∈ families, family.FlatOn Allowed) :
    (Query.bool (Family.compose families)).FlatOn Allowed := by
  have hall := Family.FlatOn.empty.foldl_append h
  intro p hp
  rcases Query.mem_parts_bool.mp hp with rfl | ⟨q, hq, hp⟩
  · exact ⟨sound_bool rfl fun q hq => (hall.filter q hq).2, rfl, by simp [Query.fields]⟩
  · simp only [Family.compose, List.append_nil, List.mem_append] at hq
    rcases hq with (hq | hq) | hq
    · exact hall.must q hq p hp
    · exact hall.mustNot q hq p hp
    · exact (hall.filter q hq).1 p hp

end Combinations

/-! ### Single conditions -/

theorem Scalar.isOperand_toJson {v : Scalar} (h : v.isRangeable = true ∨ v.isText = true) :
    v.toJson.IsOperand := by
  cases v with
  | bool b => simp [isRangeable, isNumeric, isDate, isText] at h
  | int n => trivial
  | float x =>
    have hfinite : Floating.finite x = true := by
      simpa [isRangeable, isNumeric, isDate, isText] using h
    rw [toJson, Json.ofFloat, if_pos hfinite]
    exact hfinite
  | date t => trivial
  | text s => trivial

section Predicate

variable {context : Context} {Allowed : String → Prop}

theorem Predicate.isOperand_of_validate {p : Predicate context} (h : p.validate = .ok ()) :
    p.value.toJson.IsOperand := by
  obtain ⟨op, -, hvalue⟩ := Predicate.validate_eq_ok_iff.mp h
  exact Scalar.isOperand_toJson (hvalue.imp_right And.left)

theorem SetPredicate.isOperand_of_validate {p : SetPredicate context} (h : p.validate = .ok ()) :
    ∀ v ∈ p.jsonValues, v.IsOperand := by
  have hall : ∀ v ∈ p.values, (v.isNumeric || v.isText) = true := by
    unfold SetPredicate.validate at h
    split at h
    · next hall => exact List.all_eq_true.mp hall
    · cases h
  refine List.forall_mem_map.mpr fun v hv => Scalar.isOperand_toJson ?_
  have hv := hall v hv
  rw [Bool.or_eq_true] at hv
  exact hv.imp_left fun hnumeric => by rw [Scalar.isRangeable, hnumeric, Bool.true_or]

theorem flatOn_rangeClause {p : Predicate context} {op : Operator} {q : Query}
    (h : rangeClause p op = .ok q) (hallowed : Allowed p.field)
    (hvalue : p.value.toJson.IsOperand) : q.FlatOn Allowed ∧ q.isTermLevel = true := by
  unfold rangeClause at h
  split at h
  · cases h
  · cases op with
    | eq | ne => cases h
    | _ =>
      obtain rfl := Except.ok.inj h
      exact ⟨Query.flatOn_ofRange hallowed rfl hvalue, rfl⟩

theorem flatOn_whereClause {p : Predicate .scored} {family : Family}
    (h : whereClause p = .ok family) (hallowed : Allowed p.field) (hvalid : p.validate = .ok ()) :
    family.FlatOn Allowed := by
  have hvalue := Predicate.isOperand_of_validate hvalid
  rw [whereClause, bind_eq_ok_iff] at h
  obtain ⟨op, -, h⟩ := h
  cases op with
  | eq =>
    obtain rfl := pure_eq_ok_iff.mp h
    exact .of_must (Query.flatOn_ofTerm hallowed hvalue)
  | ne =>
    obtain rfl := pure_eq_ok_iff.mp h
    exact .of_mustNot (Query.flatOn_ofTerm hallowed hvalue)
  | _ =>
    obtain ⟨q, hq, h⟩ := bind_eq_ok_iff.mp h
    obtain rfl := pure_eq_ok_iff.mp h
    exact .of_must (flatOn_rangeClause hq hallowed hvalue).1

theorem flatOn_filterClause {p : Predicate .filter} {family : Family}
    (h : filterClause p = .ok family) (hallowed : Allowed p.field) (hvalid : p.validate = .ok ()) :
    family.FlatOn Allowed := by
  have hvalue := Predicate.isOperand_of_validate hvalid
  rw [filterClause, bind_eq_ok_iff] at h
  obtain ⟨op, -, h⟩ := h
  cases op with
  | eq =>
    obtain rfl := pure_eq_ok_iff.mp h
    exact .of_filter (Query.flatOn_ofTerm hallowed hvalue) rfl
  | _ =>
    obtain ⟨q, hq, h⟩ := bind_eq_ok_iff.mp h
    obtain rfl := pure_eq_ok_iff.mp h
    obtain ⟨hflat, hlevel⟩ := flatOn_rangeClause hq hallowed hvalue
    exact .of_filter hflat hlevel

theorem flatOn_termsQuery {p : SetPredicate context} (hallowed : Allowed p.field)
    (hvalid : p.validate = .ok ()) : p.termsQuery.FlatOn Allowed :=
  Query.flatOn_ofTerms hallowed (SetPredicate.isOperand_of_validate hvalid)

/-- A kind of query that compares one field with one text. -/
structure IsTextQuery (make : String → Json → Query) : Prop where
  isAtom : ∀ field v, (make field v).isAtom = true
  fields : ∀ field v, (make field v).fields = [field]
  operands : ∀ field v, (make field v).operands = [v]
  not_range : ∀ field v fs, make field v ≠ .range fs

theorem isTextQuery_ofFullText : IsTextQuery Query.ofFullText := by
  constructor <;> simp [Query.ofFullText, Query.isAtom, Query.fields, Query.operands]

theorem isTextQuery_ofPhrase : IsTextQuery Query.ofPhrase := by
  constructor <;> simp [Query.ofPhrase, Query.isAtom, Query.fields, Query.operands]

variable {make : String → Json → Query}

theorem IsTextQuery.flatOn (hmake : IsTextQuery make) {field : String} {v : Json}
    (hallowed : Allowed field) (hv : v.IsOperand) : (make field v).FlatOn Allowed := by
  refine Query.flatOn_of_isAtom (hmake.isAtom field v) (hmake.fields field v) hallowed ?_ ?_
  · simpa [hmake.operands] using hv
  · intro fs hfs
    exact absurd hfs (hmake.not_range field v fs)

theorem flatOn_textClause (hmake : IsTextQuery make) {p : Predicate context} {family : Family}
    (h : textClause make p = .ok family) (hallowed : Allowed p.field)
    (hvalid : p.validate = .ok ()) : family.FlatOn Allowed := by
  have hflat := hmake.flatOn hallowed (Predicate.isOperand_of_validate hvalid)
  rw [textClause, bind_eq_ok_iff] at h
  obtain ⟨op, -, h⟩ := h
  cases op with
  | ne =>
    obtain rfl := pure_eq_ok_iff.mp h
    exact .of_mustNot hflat
  | _ =>
    obtain rfl := pure_eq_ok_iff.mp h
    exact .of_must hflat

theorem flatOn_exclusions (hmake : IsTextQuery make) {p : SetPredicate context}
    (hallowed : Allowed p.field) (hvalid : p.validate = .ok ()) :
    ∀ q ∈ exclusions make p, q.FlatOn Allowed :=
  List.forall_mem_map.mpr fun v hv =>
    hmake.flatOn hallowed (SetPredicate.isOperand_of_validate hvalid v hv)

theorem flatOn_alternatives (hmake : IsTextQuery make) {p : SetPredicate context}
    (hallowed : Allowed p.field) (hvalid : p.validate = .ok ()) :
    (alternatives make p).FlatOn Allowed := by
  have hvalues := SetPredicate.isOperand_of_validate hvalid
  have hone : ∀ q ∈ p.jsonValues.map (make p.field), q.isAtom = true ∧ q.fields = [p.field] :=
    List.forall_mem_map.mpr fun v _ => ⟨hmake.isAtom p.field v, hmake.fields p.field v⟩
  unfold alternatives
  split
  · next value heq => exact hmake.flatOn hallowed (hvalues value (by simp [heq]))
  · exact Query.flatOn_anyOf hone (flatOn_exclusions hmake hallowed hvalid)

end Predicate

/-! ### Scopes -/

namespace Clauses

variable {cs : Clauses} {Allowed : String → Prop}

/-- All conditions pass their own checks and are on allowed fields. -/
def ValidOn (Allowed : String → Prop) (cs : Clauses) : Prop :=
  ∀ c ∈ cs, c.validate = .ok () ∧ Allowed c.field

theorem flatOn_whereFamily {family : Family} (h : cs.whereFamily = .ok family)
    (hcs : cs.ValidOn Allowed) : family.FlatOn Allowed := by
  rw [whereFamily, bind_eq_ok_iff] at h
  obtain ⟨singles, hsingles, h⟩ := h
  obtain rfl := pure_eq_ok_iff.mp h
  refine Family.FlatOn.append ⟨?_, ?_, by simp⟩ (.collect hsingles fun p hp part hpart => ?_)
  · refine List.forall_mem_map.mpr fun p hp => ?_
    exact flatOn_termsQuery (hcs (.whereIn p) hp).2 (hcs (.whereIn p) hp).1
  · refine List.forall_mem_map.mpr fun p hp => ?_
    exact flatOn_termsQuery (hcs (.whereNotIn p) hp).2 (hcs (.whereNotIn p) hp).1
  · exact flatOn_whereClause hpart (hcs (.where_ p) hp).2 (hcs (.where_ p) hp).1

theorem flatOn_filterFamily {family : Family} (h : cs.filterFamily = .ok family)
    (hcs : cs.ValidOn Allowed) : family.FlatOn Allowed := by
  rw [filterFamily, bind_eq_ok_iff] at h
  obtain ⟨singles, hsingles, h⟩ := h
  obtain rfl := pure_eq_ok_iff.mp h
  refine Family.FlatOn.append ⟨by simp, by simp, ?_⟩ (.collect hsingles fun p hp part hpart => ?_)
  · refine List.forall_mem_map.mpr fun p hp => ?_
    exact ⟨flatOn_termsQuery (hcs (.filterIn p) hp).2 (hcs (.filterIn p) hp).1, rfl⟩
  · exact flatOn_filterClause hpart (hcs (.filter p) hp).2 (hcs (.filter p) hp).1

theorem flatOn_textFamily {context : Context} {make : String → Json → Query}
    (hmake : IsTextQuery make) {ins notIns : List (SetPredicate context)}
    {ps : List (Predicate context)} (hins : ∀ p ∈ ins, p.validate = .ok () ∧ Allowed p.field)
    (hnotIns : ∀ p ∈ notIns, p.validate = .ok () ∧ Allowed p.field)
    (hps : ∀ p ∈ ps, p.validate = .ok () ∧ Allowed p.field) {family : Family}
    (h : textFamily make ins notIns ps = .ok family) : family.FlatOn Allowed := by
  rw [textFamily, bind_eq_ok_iff] at h
  obtain ⟨singles, hsingles, h⟩ := h
  obtain rfl := pure_eq_ok_iff.mp h
  refine Family.FlatOn.append ⟨?_, ?_, by simp⟩ (.collect hsingles fun p hp part hpart => ?_)
  · refine List.forall_mem_map.mpr fun p hp => ?_
    exact flatOn_alternatives hmake (hins p hp).2 (hins p hp).1
  · refine List.forall_mem_flatMap.mpr fun p hp => ?_
    exact flatOn_exclusions hmake (hnotIns p hp).2 (hnotIns p hp).1
  · exact flatOn_textClause hmake hpart (hps p hp).2 (hps p hp).1

theorem flatOn_fullTextFamily {family : Family} (h : cs.fullTextFamily = .ok family)
    (hcs : cs.ValidOn Allowed) : family.FlatOn Allowed :=
  flatOn_textFamily isTextQuery_ofFullText (fun p hp => hcs (.matchIn p) hp)
    (fun p hp => hcs (.matchNotIn p) hp) (fun p hp => hcs (.match_ p) hp) h

theorem flatOn_phraseFamily {family : Family} (h : cs.phraseFamily = .ok family)
    (hcs : cs.ValidOn Allowed) : family.FlatOn Allowed :=
  flatOn_textFamily isTextQuery_ofPhrase (fun p hp => hcs (.phraseIn p) hp)
    (fun p hp => hcs (.phraseNotIn p) hp) (fun p hp => hcs (.phrase p) hp) h

theorem flatOn_families {wheres filters texts phrases : Family}
    (hwheres : cs.whereFamily = .ok wheres) (hfilters : cs.filterFamily = .ok filters)
    (htexts : cs.fullTextFamily = .ok texts) (hphrases : cs.phraseFamily = .ok phrases)
    (hcs : cs.ValidOn Allowed) :
    (Query.bool (Family.compose [wheres, filters, texts, phrases])).FlatOn Allowed := by
  refine flatOn_bool_compose ?_
  simp only [List.forall_mem_cons, List.not_mem_nil, false_implies, implies_true, and_true]
  exact ⟨flatOn_whereFamily hwheres hcs, flatOn_filterFamily hfilters hcs,
    flatOn_fullTextFamily htexts hcs, flatOn_phraseFamily hphrases hcs⟩

theorem flatOn_compile {root : BoolQuery Query} (h : cs.compile = .ok root)
    (hcs : cs.ValidOn Allowed) : (Query.bool root).FlatOn Allowed := by
  rw [compile, bind_eq_ok_iff] at h
  obtain ⟨wheres, hwheres, h⟩ := h
  obtain ⟨filters, hfilters, h⟩ := bind_eq_ok_iff.mp h
  obtain ⟨texts, htexts, h⟩ := bind_eq_ok_iff.mp h
  obtain ⟨phrases, hphrases, h⟩ := bind_eq_ok_iff.mp h
  obtain rfl := pure_eq_ok_iff.mp h
  exact flatOn_families hwheres hfilters htexts hphrases hcs

end Clauses

/-! ### Groups -/

theorem collect_groups {paths : List String} {scope : String → Clauses}
    {inner : String → BoolQuery Query}
    (h : ∀ path ∈ paths, path ≠ "" ∧ (scope path).compile = .ok (inner path)) :
    nestedFamily (paths.map fun path => ⟨path, scope path⟩) =
      .ok { must := paths.map fun path => .nested path (.bool (inner path)) } := by
  induction paths with
  | nil => rfl
  | cons path paths ih =>
    obtain ⟨⟨hpath, hinner⟩, hpaths⟩ := List.forall_mem_cons.mp h
    have hempty : path.isEmpty = false := by simpa using hpath
    rw [nestedFamily, List.map_cons, collect, NestedGroup.compile, hempty, if_neg (by simp), hinner,
      ok_bind, ← nestedFamily, ih hpaths]
    rfl

theorem sound_nested (path : String) (q : Query) : (Query.nested path q).Sound := by
  constructor <;> simp [Query.isAtom, Query.operands]

/-- A flat combination with one nested query for each of some paths beside it. -/
theorem wellFormed_of_flatOn {outer : BoolQuery Query} {paths : List String}
    {inner : String → BoolQuery Query} {Allowed : String → Prop} (hshould : outer.should = [])
    (houter : (Query.bool outer).FlatOn Allowed) (hdistinct : paths.Nodup)
    (hpaths : ∀ path ∈ paths, path ≠ "" ∧ (Query.bool (inner path)).FlatOn (IsUnder path)) :
    ({ outer with
      must := outer.must ++ paths.map fun path => .nested path (.bool (inner path)) } :
        BoolQuery Query).WellFormed := by
  have hflat : ∀ q ∈ outer.must ++ (outer.mustNot ++ outer.filter), q.FlatOn Allowed := by
    intro q hq
    refine houter.of_mem ?_
    rw [hshould, List.append_nil, List.append_assoc]
    exact hq
  have hnested : ∀ q ∈ paths.map (fun path => Query.nested path (.bool (inner path))),
      ∃ path, q = .nested path (.bool (inner path)) ∧ path ≠ "" ∧
        (Query.bool (inner path)).FlatOn (IsUnder path) := by
    refine List.forall_mem_map.mpr fun path hpath => ?_
    exact ⟨path, rfl, hpaths path hpath⟩
  constructor
  case no_should => exact hshould
  case sound =>
    intro p hp
    rcases Query.mem_parts_bool.mp hp with rfl | ⟨q, hq, hp⟩
    · have hself := (houter _ (Query.self_mem_parts _)).1
      exact sound_bool hshould (hself.filters outer rfl)
    · simp only [hshould, List.append_nil, List.append_assoc, List.mem_append] at hq
      rcases hq with hq | hq | hq
      · exact (hflat q (List.mem_append_left _ hq) p hp).1
      · obtain ⟨path, rfl, -, hinner⟩ := hnested q hq
        rw [Query.parts, List.mem_cons] at hp
        rcases hp with rfl | hp
        · exact sound_nested path _
        · exact (hinner p hp).1
      · exact (hflat q (List.mem_append_right _ (List.mem_append.mpr hq)) p hp).1
  case must =>
    intro q hq
    rcases List.mem_append.mp hq with hq | hq
    · exact Or.inl fun p hp => (hflat q (List.mem_append_left _ hq) p hp).2.1
    · obtain ⟨path, rfl, hpath, hinner⟩ := hnested q hq
      exact Or.inr ⟨path, _, rfl, hpath, fun p hp => (hinner p hp).2⟩
  case elsewhere =>
    intro q hq p hp
    exact (hflat q (List.mem_append_right _ hq) p hp).2.1
  case distinct =>
    have hnone : outer.must.filterMap Query.nestedPath? = [] := by
      refine List.filterMap_eq_nil_iff.mpr fun q hq => ?_
      exact (hflat q (List.mem_append_left _ hq) q (Query.self_mem_parts q)).2.1
    have hall : (paths.map fun path => Query.nested path (.bool (inner path))).filterMap
        Query.nestedPath? = paths := by
      rw [List.filterMap_map]
      exact List.filterMap_some
    rwa [List.filterMap_append, hnone, hall, List.nil_append]

/-- The calls but for the nested conditions. -/
def CallLog.unnested (log : CallLog) : CallLog := log.filter fun call => call.nestedCondition?.isNone

/-- Nested conditions have no part in the rest of a query. -/
theorem Builder.applyAll_unnested {start : Builder} (log : CallLog) (hstart : start.nested = []) :
    start.applyAll (CallLog.unnested log) = { start.applyAll log with nested := [] } := by
  induction log using List.reverseRecOn with
  | nil =>
    show start = { start with nested := [] }
    rw [← hstart]
  | append_singleton log call ih =>
    have hlog : CallLog.unnested (log ++ [call]) = CallLog.unnested log ++ CallLog.unnested [call] :=
      List.filter_append ..
    rw [hlog, applyAll_append, ih, applyAll_concat]
    cases call <;> rfl

namespace Builder

/-- Without its groups a query compiles to what its other families are composed to. -/
theorem compile_without_groups {b : Builder} (h : b.validateClauses = .ok ())
    {contribution : FamilyKind → Family} (hfamilies : ∀ k, b.family k = .ok (contribution k))
    (done : List FamilyKind) :
    ({ b with nested := [] } : Builder).compile done =
      .ok (Family.compose [contribution .wheres, contribution .filters, contribution .fullTexts,
        contribution .phrases]) := by
  have haccepted : ({ b with nested := [] } : Builder).validateClauses = .ok () :=
    validateClauses_eq_ok_iff.mpr
      ⟨(validateClauses_eq_ok_iff.mp h).1, fun g hg => absurd hg List.not_mem_nil⟩
  have hothers : ∀ k, ({ b with nested := [] } : Builder).family k =
      .ok (Function.update contribution .nested {} k) := by
    intro k
    cases k with
    | nested => rfl
    | wheres => exact hfamilies .wheres
    | filters => exact hfamilies .filters
    | fullTexts => exact hfamilies .fullTexts
    | phrases => exact hfamilies .phrases
  have hall : FamilyKind.all.map (Function.update contribution .nested {}) =
      [contribution .wheres, contribution .filters, contribution .fullTexts,
        contribution .phrases] ++ [({} : Family)] := rfl
  refine (compile_of_validate_eq_ok haccepted done).trans ?_
  rw [compileUnchecked_of_families hothers, hall, Family.compose_concat]
  simp

/-- The conditions of an accepted query, outside groups and under each path. -/
theorem validOn_of_accepted {schema : Option Schema} {log : CallLog}
    (h : (ofLog schema log).validateClauses = .ok ()) :
    (ofLog schema log).clauses.ValidOn (fun _ => True) ∧
      ∀ path ∈ log.paths, path ≠ "" ∧
        (Clauses.ofList (log.under path)).ValidOn (IsUnder path) := by
  obtain ⟨htop, hgroups⟩ := validateClauses_eq_ok_iff.mp h
  refine ⟨fun c hc => ⟨(Clause.check_eq_ok_iff.mp (htop c hc)).2.1, trivial⟩, fun path hpath => ?_⟩
  obtain ⟨hne, hchecked⟩ := hgroups _ (List.mem_map.mpr ⟨path, hpath, rfl⟩)
  refine ⟨hne, fun c hc => ⟨(Clause.check_eq_ok_iff.mp (hchecked c hc)).2.1, ?_⟩⟩
  have hplace : c.path = path := by
    simpa using (List.mem_filter.mp (Clauses.mem_ofList.mp hc)).2
  exact (nestedPath_getD_eq_iff.mp hplace).resolve_right fun hempty => hne hempty.2

theorem exists_inner {log : CallLog}
    (h : ∀ path ∈ log.paths, (Clauses.ofList (log.under path)).ValidOn (IsUnder path)) :
    ∃ inner : String → BoolQuery Query, ∀ path ∈ log.paths,
      (Clauses.ofList (log.under path)).compile = .ok (inner path) ∧
        (Query.bool (inner path)).FlatOn (IsUnder path) := by
  have hpath : ∀ path, ∃ inner, path ∈ log.paths →
      (Clauses.ofList (log.under path)).compile = .ok inner ∧
        (Query.bool inner).FlatOn (IsUnder path) := by
    intro path
    by_cases hmem : path ∈ log.paths
    · have hscope := h path hmem
      obtain ⟨inner, hinner⟩ := Clauses.compile_isOk fun c hc => (hscope c hc).1
      exact ⟨inner, fun _ => ⟨hinner, Clauses.flatOn_compile hinner hscope⟩⟩
    · exact ⟨{}, fun hin => absurd hin hmem⟩
  choose inner hinner using hpath
  exact ⟨inner, hinner⟩

/-- **What is accepted compiles to a well-formed query.** Every query that calls build and that
passes its checks compiles in every schedule to one combination, and that is well-formed. Nested
conditions are found inside the nested query of their path only: the rest is what the other calls
compile to, without anything nested, and inside stands what the conditions of the path compile
to. -/
theorem compile_wellFormed (schema : Option Schema) (log : CallLog)
    (haccepted : (({ schema := schema } : Builder).applyAll log).validateClauses = .ok ()) :
    ∃ root, (∀ done, (({ schema := schema } : Builder).applyAll log).compile done = .ok root) ∧
      root.WellFormed ∧
      ∃ (outer : BoolQuery Query) (inner : String → BoolQuery Query),
        (∀ done, (({ schema := schema } : Builder).applyAll log.unnested).compile done =
          .ok outer) ∧
        (∀ q ∈ (Query.bool outer).parts, q.nestedPath? = none) ∧
        (∀ path ∈ log.current.paths,
          (Clauses.ofList (log.current.under path)).compile = .ok (inner path)) ∧
        root = { outer with
          must := outer.must ++
            log.current.paths.map fun path => .nested path (.bool (inner path)) } := by
  -- cleared calls count neither with the nested conditions nor without them
  rw [applyAll_unnested log rfl]
  rw [applyAll_eq_ofLog] at haccepted ⊢
  generalize log.current = log at haccepted ⊢
  obtain ⟨hown, hunder⟩ := validOn_of_accepted haccepted
  obtain ⟨inner, hinner⟩ := exists_inner fun path hpath => (hunder path hpath).2
  obtain ⟨contribution, hfamilies, hcompiled⟩ := compile_isOk haccepted
  have houter := Clauses.flatOn_families (hfamilies .wheres) (hfamilies .filters)
    (hfamilies .fullTexts) (hfamilies .phrases) hown
  have hnested : contribution .nested =
      { must := log.paths.map fun path => .nested path (.bool (inner path)) } :=
    Except.ok.inj ((hfamilies .nested).symm.trans
      (collect_groups fun path hpath => ⟨(hunder path hpath).1, (hinner path hpath).1⟩))
  have hall : FamilyKind.all.map contribution = [contribution .wheres, contribution .filters,
      contribution .fullTexts, contribution .phrases] ++ [contribution .nested] := rfl
  rw [hall, Family.compose_concat, hnested] at hcompiled
  have hwellFormed := wellFormed_of_flatOn rfl houter log.nodup_paths fun path hpath =>
    ⟨(hunder path hpath).1, (hinner path hpath).2⟩
  refine ⟨_, fun done => (hcompiled done).2, ?_, _, inner,
    compile_without_groups haccepted hfamilies, fun q hq => (houter q hq).2.1,
    fun path hpath => (hinner path hpath).1, ?_⟩
  · simpa using hwellFormed
  · simp

/-- Calls of several kinds, some of which are cleared. -/
def ratingCalls : CallLog := [
  .nestedClause (.where_ ⟨"lost", "=", .int 1⟩), .clear,
  .clause (.matchIn ⟨"title", [.text "red fox", .int 2]⟩),
  .nestedClause (.where_ ⟨"ratings.stars", ">", .int 3⟩),
  .clause (.filter ⟨"year", "<=", .int 1990⟩),
  .nestedClause (.phraseNotIn ⟨"ratings.text", [.text "too long", .text "dull"]⟩)]

theorem ratingCalls_compile_wellFormed :
    (({} : Builder).applyAll ratingCalls).validateClauses = .ok () ∧
      ∃ root outer inner,
        (∀ done, (({} : Builder).applyAll ratingCalls).compile done = .ok root) ∧
        root.WellFormed ∧
        (∀ done, (({} : Builder).applyAll ratingCalls.unnested).compile done = .ok outer) ∧
        root = { outer with must := outer.must ++ [.nested "ratings" (.bool inner)] } := by
  have haccepted : (({} : Builder).applyAll ratingCalls).validateClauses = .ok () := by rfl
  have hpaths : ratingCalls.current.paths = ["ratings"] := by decide
  obtain ⟨root, hroot, hwellFormed, outer, inner, houter, -, -, heq⟩ :=
    compile_wellFormed none ratingCalls haccepted
  rw [hpaths] at heq
  exact ⟨haccepted, root, outer, inner "ratings", hroot, hwellFormed, houter, heq⟩

end Builder

end DocSearch
