import DocSearch.Proofs.Answers
import DocSearch.Proofs.Grouping
import DocSearch.Proofs.Requests

/-!
# Aggregates of a corpus

The corpus answers with buckets that hold the buckets of the next field under its name, beside the
key and the count of their own. So the answer is read as a grouping at every level, unless the next
field has the name of one of these two. Both directions are proved along the fields.
-/

namespace DocSearch

/-! ### What a grouping is -/

/-- At the fields documents have texts and integers only. -/
def PlainAt (fields : List String) (docs : List Json) : Prop :=
  ∀ field ∈ fields, ∀ doc ∈ docs, ∀ v ∈ valuesAt doc field, v.Plain

/-- In no group and no subgroup there are more occurrences than a word can count. -/
def CountsFit : List String → List Json → Prop
  | [], _ => True
  | field :: rest, docs => (occurrences field docs).length < UInt64.size ∧
      ∀ value, CountsFit rest (carriers value (occurrences field docs))

namespace BucketLevel

/-- Buckets group documents by their values at a field: the keys are distinct values that occur,
each with the number of times that it does, all occurrences are accounted for, and the content of a
bucket is right for the documents that carry its key. -/
structure GroupsWith (Inside : List Json → Bucket BucketLevel → Prop) (field : String)
    (docs : List Json) (l : BucketLevel) : Prop where
  distinct : (l.buckets.map (·.key)).Nodup
  occurs : ∀ b ∈ l.buckets, ∃ doc ∈ docs, b.key ∈ valuesAt doc field
  counts : ∀ b ∈ l.buckets,
    b.docCount.toNat = (carriers b.key (occurrences field docs)).length
  total : (l.buckets.map fun b => b.docCount.toNat).sum + l.otherCount.toNat =
    (occurrences field docs).length
  inside : ∀ b ∈ l.buckets, Inside (carriers b.key (occurrences field docs)) b

/-- Buckets group documents by a field, inside of each bucket by the next field, and so on. -/
def GroupsBy : List String → String → List Json → BucketLevel → Prop
  | [] => GroupsWith fun _ b => b.items = []
  | next :: rest => GroupsWith fun members b =>
      ∃ inner, b.items = [(next, inner)] ∧ GroupsBy rest next members inner

end BucketLevel

/-- No bucket holds those of a field that has the name of its key or its count. -/
def Unmixed : List String → String → List Json → Prop
  | [], _, _ => True
  | next :: rest, field, docs => ∀ g ∈ listedGroups field docs,
      (next ≠ "key" ∧ next ≠ "doc_count") ∧ Unmixed rest next g.2

/-! ### The answer of a corpus -/

/-- The answer for the buckets of a field and of further ones inside. -/
def tallyOf (rest : List String) (field : String) (docs : List Json) : Json :=
  (Aggregation.ofTerms field (Aggregation.chain rest [])).tally docs

/-- The answer for one group. -/
def groupAnswer (inside : List Json → List (String × Json)) (g : Json × List Json) : Json :=
  .object (Named.ofList ([("key", g.1), ("doc_count", .int g.2.length)] ++ inside g.2))

/-- What the answer for a group holds of further fields. -/
def insideAnswer : List String → List Json → List (String × Json)
  | [], _ => []
  | next :: rest, docs => [(next, tallyOf rest next docs)]

section Answer

variable {rest : List String} {field next name : String} {docs : List Json} {g : Json × List Json}

theorem tallyAll_chain (fields : List String) (docs : List Json) :
    Aggregation.tallyAll (Aggregation.chain fields []) docs = insideAnswer fields docs := by
  cases fields <;> rfl

theorem get?_tallyOf_buckets : (tallyOf rest field docs).get? "buckets" =
    some (.array ((listedGroups field docs).map (groupAnswer (insideAnswer rest)))) := by
  have hinside : (fun members => Aggregation.tallyAll (Aggregation.chain rest []) members) =
      insideAnswer rest := by
    funext members
    exact tallyAll_chain rest members
  have hanswer : (tallyOf rest field docs).get? "buckets" =
      some (.array ((listedGroups field docs).map (groupAnswer fun members =>
        Aggregation.tallyAll (Aggregation.chain rest []) members))) := rfl
  rw [hanswer, hinside]

theorem get?_tallyOf_otherCount : (tallyOf rest field docs).get? "sum_other_doc_count" =
    some (.int (unlistedCount field docs)) := by
  have hsum : ((sortedGroups field docs).drop defaultBuckets).foldl
      (fun n g => n + g.2.length) 0 = unlistedCount field docs := by
    rw [unlistedCount, List.sum_eq_foldl, List.foldl_map]
  rw [← hsum]
  rfl

theorem get?_groupAnswer_innermost : (groupAnswer (insideAnswer []) g).get? name =
    if name = "doc_count" then some (.int g.2.length)
    else if name = "key" then some g.1 else none := by
  have hmembers : (groupAnswer (insideAnswer []) g).members =
      Named.insert "doc_count" (Json.int g.2.length) (Named.insert "key" g.1 []) := by
    simp only [groupAnswer, insideAnswer, List.append_nil, Json.members, Named.ofList,
      List.foldl_cons, List.foldl_nil]
  rw [Json.get?, hmembers, Named.lookup_insert, Named.lookup_insert]
  rfl

theorem get?_groupAnswer : (groupAnswer (insideAnswer (next :: rest)) g).get? name =
    if name = next then some (tallyOf rest next g.2)
    else (groupAnswer (insideAnswer []) g).get? name := by
  have hmembers : (groupAnswer (insideAnswer (next :: rest)) g).members =
      Named.insert next (tallyOf rest next g.2) (groupAnswer (insideAnswer []) g).members := rfl
  rw [Json.get?, hmembers, Named.lookup_insert]
  rfl

theorem get?_groupAnswer_next :
    (groupAnswer (insideAnswer (next :: rest)) g).get? next = some (tallyOf rest next g.2) := by
  rw [get?_groupAnswer, if_pos rfl]

/-- The next field has neither of the names that a bucket has for itself. -/
def Apart (rest : List String) : Prop := ∀ next ∈ rest.head?, next ≠ "key" ∧ next ≠ "doc_count"

theorem get?_groupAnswer_of_apart (h : Apart rest) (hname : name = "key" ∨ name = "doc_count") :
    (groupAnswer (insideAnswer rest) g).get? name =
      (groupAnswer (insideAnswer []) g).get? name := by
  cases rest with
  | nil => rfl
  | cons next rest =>
    obtain ⟨hkey, hcount⟩ := h next rfl
    have hne : name ≠ next := by
      rintro rfl
      exact hname.elim hkey hcount
    rw [get?_groupAnswer, if_neg hne]

theorem get?_groupAnswer_key (h : Apart rest) :
    (groupAnswer (insideAnswer rest) g).get? "key" = some g.1 := by
  rw [get?_groupAnswer_of_apart h (Or.inl rfl), get?_groupAnswer_innermost]
  rfl

theorem get?_groupAnswer_docCount (h : Apart rest) :
    (groupAnswer (insideAnswer rest) g).get? "doc_count" = some (.int g.2.length) := by
  rw [get?_groupAnswer_of_apart h (Or.inr rfl), get?_groupAnswer_innermost]
  rfl

end Answer

/-! ### Subgroups -/

section Subgroups

variable {rest : List String} {field next : String} {docs : List Json} {g : Json × List Json}

theorem PlainAt.plain (h : PlainAt (field :: rest) docs) :
    ∀ o ∈ occurrences field docs, o.1.Plain := by
  intro o ho
  obtain ⟨hdoc, hvalue⟩ := mem_occurrences.mp ho
  exact h field List.mem_cons_self o.2 hdoc o.1 hvalue

theorem PlainAt.of_listed (h : PlainAt (field :: rest) docs) (hg : g ∈ listedGroups field docs) :
    PlainAt rest g.2 := by
  intro f hf doc hdoc v hv
  rw [members_of_mem_listedGroups h.plain hg] at hdoc
  exact h f (List.mem_cons_of_mem field hf) doc (mem_of_mem_carriers hdoc) v hv

theorem CountsFit.of_listed (h : CountsFit (field :: rest) docs)
    (hplain : PlainAt (field :: rest) docs) (hg : g ∈ listedGroups field docs) :
    CountsFit rest g.2 := by
  rw [members_of_mem_listedGroups hplain.plain hg]
  exact h.2 g.1

theorem CountsFit.length_lt (h : CountsFit (field :: rest) docs)
    (hplain : PlainAt (field :: rest) docs) (hg : g ∈ listedGroups field docs) :
    g.2.length < UInt64.size := by
  rw [members_of_mem_listedGroups hplain.plain hg]
  exact lt_of_le_of_lt length_carriers_le h.1

theorem CountsFit.unlisted_lt (h : CountsFit (field :: rest) docs)
    (hplain : PlainAt (field :: rest) docs) : unlistedCount field docs < UInt64.size := by
  have hsum := sum_listedGroups hplain.plain
  have hall := h.1
  omega

/-- With a bound on the values at a field, and so on the occurrences, all can be counted. -/
theorem countsFit_of_length_le {fields : List String} {k : Nat} (hk : 0 < k)
    (hvalues : ∀ f ∈ fields, ∀ doc ∈ docs, (valuesAt doc f).length ≤ k)
    (hbound : docs.length * k ^ fields.length < UInt64.size) : CountsFit fields docs := by
  induction fields generalizing docs with
  | nil => trivial
  | cons first further ih =>
    obtain ⟨hfirst, hfurther⟩ := List.forall_mem_cons.mp hvalues
    have hlength := length_occurrences_le hfirst
    rw [List.length_cons, Nat.pow_succ', ← Nat.mul_assoc] at hbound
    refine ⟨?_, fun value => ih (fun f hf doc hdoc => ?_) ?_⟩
    · have hpow := Nat.le_mul_of_pos_right (docs.length * k) (Nat.pow_pos (n := further.length) hk)
      omega
    · exact hfurther f hf doc (mem_of_mem_carriers hdoc)
    · calc (carriers value (occurrences first docs)).length * k ^ further.length
          ≤ docs.length * k * k ^ further.length :=
            Nat.mul_le_mul_right _ (length_carriers_le.trans hlength)
        _ < UInt64.size := hbound

theorem unmixed_of_names (h : ∀ f ∈ rest, f ≠ "key" ∧ f ≠ "doc_count") :
    Unmixed rest field docs := by
  induction rest generalizing field docs with
  | nil => trivial
  | cons next rest ih =>
    obtain ⟨hnext, hrest⟩ := List.forall_mem_cons.mp h
    exact fun g _ => ⟨hnext, ih hrest⟩

/-- A field with one of the two names is out of the way only if there is no group to hold it. -/
theorem unmixed_iff_of_name (hname : next = "key" ∨ next = "doc_count") :
    Unmixed (next :: rest) field docs ↔ listedGroups field docs = [] := by
  have hmixed : ¬ (next ≠ "key" ∧ next ≠ "doc_count") := by
    rintro ⟨hkey, hcount⟩
    exact hname.elim hkey hcount
  rw [List.eq_nil_iff_forall_not_mem]
  exact forall₂_congr fun g _ => iff_of_false (fun h => hmixed h.1) id

end Subgroups

/-! ### Reading the answer -/

section Reading

variable {rest : List String} {field : String} {docs : List Json} {l : BucketLevel}

theorem Unmixed.apart (h : Unmixed rest field docs) {g : Json × List Json}
    (hg : g ∈ listedGroups field docs) : Apart rest := by
  cases rest with
  | nil => exact fun next hnext => by cases hnext
  | cons first rest =>
    intro next hnext
    obtain rfl := Option.some.inj hnext
    exact (h g hg).1

theorem conforms_tallyOf_of_inside (hplain : PlainAt (field :: rest) docs)
    (hcount : CountsFit (field :: rest) docs) (hunmixed : Unmixed rest field docs)
    (hinside : ∀ g ∈ listedGroups field docs, Aggregation.AllConform (Aggregation.chain rest [])
      (groupAnswer (insideAnswer rest) g).members) :
    (Aggregation.ofTerms field (Aggregation.chain rest [])).Conforms (tallyOf rest field docs) := by
  rw [Aggregation.conforms_ofTerms_iff]
  refine ⟨_, get?_tallyOf_buckets, List.forall_mem_map.mpr fun g hg => ?_⟩
  obtain ⟨w, hw⟩ := exists_word_eq (hcount.length_lt hplain hg)
  have hapart := hunmixed.apart hg
  exact ⟨⟨g.1, get?_groupAnswer_key hapart⟩, ⟨w, hw ▸ get?_groupAnswer_docCount hapart⟩,
    hinside g hg⟩

theorem conforms_tallyOf (hplain : PlainAt (field :: rest) docs)
    (hcount : CountsFit (field :: rest) docs) (hunmixed : Unmixed rest field docs) :
    (Aggregation.ofTerms field (Aggregation.chain rest [])).Conforms (tallyOf rest field docs) := by
  induction rest generalizing field docs with
  | nil => exact conforms_tallyOf_of_inside hplain hcount hunmixed fun g hg => trivial
  | cons next rest ih =>
    refine conforms_tallyOf_of_inside hplain hcount hunmixed fun g hg => ?_
    have hsub := ih (hplain.of_listed hg) (hcount.of_listed hplain hg) (hunmixed g hg).2
    rw [Aggregation.allConform_iff]
    intro entry hentry
    obtain rfl := List.mem_singleton.mp hentry
    exact ⟨_, get?_groupAnswer_next, hsub⟩

theorem forall₂_listedGroups {Inside : Json → Bucket BucketLevel → Prop}
    (h : l.MirrorsWith Inside (tallyOf rest field docs)) :
    List.Forall₂ (fun g b => b.Mirrors (groupAnswer (insideAnswer rest) g) ∧
      Inside (groupAnswer (insideAnswer rest) g) b) (listedGroups field docs) l.buckets := by
  obtain ⟨raws, hraws, hbuckets⟩ := h.buckets
  obtain rfl := Json.array.inj (Option.some.inj (get?_tallyOf_buckets.symm.trans hraws))
  exact List.forall₂_map_left_iff.mp hbuckets

/-- A bucket has the value and the number of documents of a group. -/
structure StandsFor (b : Bucket BucketLevel) (g : Json × List Json) : Prop where
  key : b.key = g.1
  docCount : b.docCount.toNat = g.2.length

theorem standsFor_of_mirrors {g : Json × List Json} {b : Bucket BucketLevel} (hapart : Apart rest)
    (h : b.Mirrors (groupAnswer (insideAnswer rest) g)) : StandsFor b g := by
  have hkey := h.key.symm.trans (get?_groupAnswer_key hapart)
  have hdocCount := h.docCount.symm.trans (get?_groupAnswer_docCount hapart)
  have hlength := Json.int.inj (Option.some.inj hdocCount)
  exact ⟨Option.some.inj hkey, by omega⟩

/-- Buckets that stand for the listed groups group the documents if their contents are right. -/
theorem groupsWith_iff {R : Json × List Json → Bucket BucketLevel → Prop}
    {Content : List Json → Bucket BucketLevel → Prop} {Right : Json × List Json → Prop}
    (hplain : PlainAt (field :: rest) docs)
    (hother : l.otherCount.toNat = unlistedCount field docs)
    (hbuckets : List.Forall₂ (fun g b => StandsFor b g ∧ R g b) (listedGroups field docs) l.buckets)
    (hcontent : ∀ g ∈ listedGroups field docs, ∀ b, R g b → (Content g.2 b ↔ Right g)) :
    l.GroupsWith Content field docs ↔ ∀ g ∈ listedGroups field docs, Right g := by
  have hmembers : ∀ g ∈ listedGroups field docs, ∀ b, StandsFor b g →
      carriers b.key (occurrences field docs) = g.2 := by
    intro g hg b hb
    rw [hb.key]
    exact (members_of_mem_listedGroups hplain.plain hg).symm
  constructor
  · intro hgroups g hg
    obtain ⟨b, hb, hstands, hR⟩ := exists_mem_of_forall₂ hbuckets.flip hg
    have hright := hgroups.inside b hb
    rw [hmembers g hg b hstands] at hright
    exact (hcontent g hg b hR).mp hright
  · intro hright
    have hkeys : (listedGroups field docs).map Prod.fst = l.buckets.map (·.key) :=
      map_eq_map_of_forall₂ hbuckets fun g b hb => hb.1.key.symm
    have hcounts : ((listedGroups field docs).map fun g => g.2.length) =
        l.buckets.map fun b => b.docCount.toNat :=
      map_eq_map_of_forall₂ hbuckets fun g b hb => hb.1.docCount.symm
    refine ⟨hkeys ▸ nodup_listedGroups hplain.plain, fun b hb => ?_, fun b hb => ?_, ?_,
      fun b hb => ?_⟩
    · obtain ⟨g, hg, hstands, -⟩ := exists_mem_of_forall₂ hbuckets hb
      obtain ⟨o, ho, hvalue⟩ := List.mem_map.mp (key_of_mem_listedGroups hplain.plain hg)
      rw [hstands.key, ← hvalue]
      exact ⟨o.2, mem_occurrences.mp ho⟩
    · obtain ⟨g, hg, hstands, -⟩ := exists_mem_of_forall₂ hbuckets hb
      rw [hmembers g hg b hstands, hstands.docCount]
    · rw [← hcounts, hother]
      exact sum_listedGroups hplain.plain
    · obtain ⟨g, hg, hstands, hR⟩ := exists_mem_of_forall₂ hbuckets hb
      rw [hmembers g hg b hstands]
      exact (hcontent g hg b hR).mpr (hright g hg)

theorem groupsWith_iff_of_mirrorsWith {Inside : Json → Bucket BucketLevel → Prop}
    {Content : List Json → Bucket BucketLevel → Prop} {Right : Json × List Json → Prop}
    (hplain : PlainAt (field :: rest) docs) (hcount : CountsFit (field :: rest) docs)
    (hapart : Apart rest) (h : l.MirrorsWith Inside (tallyOf rest field docs))
    (hcontent : ∀ g ∈ listedGroups field docs, ∀ b,
      Inside (groupAnswer (insideAnswer rest) g) b → (Content g.2 b ↔ Right g)) :
    l.GroupsWith Content field docs ↔ ∀ g ∈ listedGroups field docs, Right g := by
  have hother := h.otherCount.toNat_eq get?_tallyOf_otherCount (hcount.unlisted_lt hplain)
  refine groupsWith_iff hplain hother ((forall₂_listedGroups h).imp fun g b hb => ?_) hcontent
  exact ⟨standsFor_of_mirrors hapart hb.1, hb.2⟩

theorem groupsWith_of_nil {Inside : Json → Bucket BucketLevel → Prop}
    {Content : List Json → Bucket BucketLevel → Prop} (hplain : PlainAt (field :: rest) docs)
    (hcount : CountsFit (field :: rest) docs) (hlisted : listedGroups field docs = [])
    (h : l.MirrorsWith Inside (tallyOf rest field docs)) : l.GroupsWith Content field docs := by
  have hbuckets := forall₂_listedGroups h
  rw [hlisted, List.forall₂_nil_left_iff] at hbuckets
  have hother := h.otherCount.toNat_eq get?_tallyOf_otherCount (hcount.unlisted_lt hplain)
  have htotal := sum_listedGroups hplain.plain
  rw [hlisted, List.map_nil, List.sum_nil] at htotal
  refine ⟨?_, ?_, ?_, ?_, ?_⟩ <;> simp [hbuckets]
  omega

/-- Under one of the two names there is no count any more, or the key is no value. -/
theorem not_groupsWith_of_name {next : String} (hname : next = "key" ∨ next = "doc_count")
    {Inside : Json → Bucket BucketLevel → Prop} {Content : List Json → Bucket BucketLevel → Prop}
    (hplain : PlainAt (field :: next :: rest) docs) (hlisted : listedGroups field docs ≠ [])
    (h : l.MirrorsWith Inside (tallyOf (next :: rest) field docs)) :
    ¬ l.GroupsWith Content field docs := by
  intro hgroups
  obtain ⟨g, hg⟩ := List.exists_mem_of_ne_nil _ hlisted
  obtain ⟨b, hb, hmirrors, -⟩ := exists_mem_of_forall₂ (forall₂_listedGroups h).flip hg
  obtain ⟨members, hmembers⟩ : ∃ members, tallyOf rest next g.2 = .object members := ⟨_, rfl⟩
  have hsub : (groupAnswer (insideAnswer (next :: rest)) g).get? next =
      some (tallyOf rest next g.2) := get?_groupAnswer_next
  rw [hmembers] at hsub
  rcases hname with rfl | rfl
  -- in place of the key an object is no value, and in place of the count it cannot be read
  · obtain ⟨doc, hdoc, hvalue⟩ := hgroups.occurs b hb
    have hkey : b.key = .object members := Option.some.inj (hmirrors.key.symm.trans hsub)
    have hnone := hplain.plain (b.key, doc) (mem_occurrences.mpr ⟨hdoc, hvalue⟩)
    simp [hkey, Json.Plain] at hnone
  · have hcount := hmirrors.docCount.symm.trans hsub
    simp at hcount

/-- A level read from the answer groups the documents at every level exactly if no names clash. -/
theorem groupsBy_iff_unmixed (hplain : PlainAt (field :: rest) docs)
    (hcount : CountsFit (field :: rest) docs) (h : l.Mirrors [] rest (tallyOf rest field docs)) :
    l.GroupsBy rest field docs ↔ Unmixed rest field docs := by
  induction rest generalizing field docs l with
  | nil =>
    have hgroups : l.GroupsBy [] field docs ↔ ∀ g ∈ listedGroups field docs, True :=
      groupsWith_iff_of_mirrorsWith hplain hcount (fun next hnext => by cases hnext) h
        fun g hg b hb => iff_of_true hb.1 trivial
    rw [hgroups]
    exact iff_of_true (fun _ _ => trivial) trivial
  | cons next rest ih =>
    by_cases hname : next = "key" ∨ next = "doc_count"
    · rw [unmixed_iff_of_name hname]
      constructor
      · intro hgroups
        by_contra hlisted
        exact not_groupsWith_of_name hname hplain hlisted h hgroups
      · intro hlisted
        exact groupsWith_of_nil hplain hcount hlisted h
    · have hnext : next ≠ "key" ∧ next ≠ "doc_count" := not_or.mp hname
      have hgroups : l.GroupsBy (next :: rest) field docs ↔
          ∀ g ∈ listedGroups field docs, Unmixed rest next g.2 := by
        refine groupsWith_iff_of_mirrorsWith hplain hcount (fun other hother => ?_) h
          fun g hg b hb => ?_
        · obtain rfl := Option.some.inj hother
          exact hnext
        · obtain ⟨-, sub, inner, hsub, hitems, hinner⟩ := hb
          rw [get?_groupAnswer_next] at hsub
          obtain rfl := Option.some.inj hsub
          rw [← ih (hplain.of_listed hg) (hcount.of_listed hplain hg) hinner, hitems]
          simp
      rw [hgroups]
      exact forall₂_congr fun g _ => (and_iff_right hnext).symm

end Reading

/-! ### The run of an aggregation -/

theorem ranked_perm {r : SearchRequest} (hafter : r.searchAfter = none)
    (docs : List (String × Json)) : (Corpus.ranked r docs).Perm docs := by
  rw [Corpus.ranked, hafter]
  by_cases hempty : r.sort.isEmpty = true
  · simp only [hempty, if_true]
    exact List.Perm.refl docs
  · simp only [hempty]
    exact perm_sortBy _ _

namespace Index

theorem prepare_aggregate {b : Builder} (haccepted : b.validateSearch = .ok ())
    (hdirectives : b.hasAggregations = true) :
    ∃ root r, (∀ done, b.compile done = .ok root) ∧ r.query = .bool root ∧
      r.searchAfter = none ∧ r.aggs = b.aggregations ∧
      ∀ course, (aggregate b).prepare course = .ok {
        request := .search r
        finish := fun _ (reply : SearchResponse) =>
          fromAggregations (Flatten.output (b.groupBy.getD []) b.stats) reply } := by
  obtain ⟨root, hroot, hrequest⟩ := Builder.searchRequest_isOk haccepted
  refine ⟨root, {
    query := .bool root, offset := b.offset, size := b.limit, sort := b.sortClauses,
    aggs := b.aggregations }, hroot, rfl, rfl, rfl, fun course => ?_⟩
  simp only [aggregate, hdirectives, hrequest course.families, Bool.not_true, Bool.false_eq_true,
    if_false]

theorem aggregations_search {c : Corpus} {r : SearchRequest} {first : String} {rest : List String}
    (haggs : r.aggs = Aggregation.chain (first :: rest) []) :
    (c.search r).aggregations = some
      [(first, tallyOf rest first ((Corpus.ranked r (c.selected r.query)).map Prod.snd))] := by
  have hsome : (c.search r).aggregations = some
      (Aggregation.tallyAll r.aggs ((Corpus.ranked r (c.selected r.query)).map Prod.snd)) := by
    simp only [Corpus.search, haggs]
    rfl
  rw [hsome, haggs, tallyAll_chain]
  rfl

/-- What comes of a run is what is read from the answer for the documents that are found. -/
theorem run_aggregate {b : Builder} {c : Corpus} {first : String} {rest : List String}
    (haccepted : b.validateSearch = .ok ()) (hgroup : b.groupBy = some (first :: rest))
    (hstats : b.stats = []) (hlive : c.failing = false) :
    ∃ root docs, (∀ done, b.compile done = .ok root) ∧
      docs.Perm ((c.selected (.bool root)).map Prod.snd) ∧
      ∀ index course, (∀ look, course.fired look = false) →
        ((aggregate b).run Corpus.engine index course c).2 =
          (Flatten.output (first :: rest) [] [(first, tallyOf rest first docs)]).mapError
            Error.extraction := by
  have hdirectives : b.hasAggregations = true := by simp [Builder.hasAggregations, hgroup]
  obtain ⟨root, r, hroot, hquery, hafter, haggs, hprepare⟩ :=
    prepare_aggregate haccepted hdirectives
  rw [Builder.aggregations_eq_chain, hgroup, hstats, Option.getD_some] at haggs
  refine ⟨root, (Corpus.ranked r (c.selected r.query)).map Prod.snd, hroot, ?_,
    fun index course hcourse => ?_⟩
  · rw [← hquery]
    exact (ranked_perm hafter _).map _
  · rw [Plan.run_of_answered (hprepare course) (hcourse 0) (Course.interrupted_eq_false hcourse)
      (Corpus.engine_search hlive index)]
    simp only [fromAggregations, aggregations_search haggs, hgroup, hstats, Option.getD_some]

theorem output_chain_eq_ok_iff {first : String} {rest : List String} {top : Json}
    {l : BucketLevel} :
    (Flatten.output (first :: rest) [] [(first, top)]).mapError Error.extraction =
        .ok { groups := [(first, l)] } ↔
      Flatten.level [] rest first top = .ok l := by
  have hlookup : List.lookup first [(first, top)] = some top := by simp
  rw [mapError_eq_ok_iff, Flatten.output, hlookup]
  cases hlevel : Flatten.level [] rest first top <;> simp [hlevel, Except.map]

/-- **Documents are grouped at every level exactly if no field has the name of what a bucket holds
of itself.** For every corpus and every query with fields to group by that passes the checks, where
the fields have texts and integers, as many as can be counted: the outcome is a grouping of the
documents found, by the first field and inside of each bucket by the next, if and only if no listed
bucket holds those of a field named as its key or its count. So it always is if no field but the
first has one of these names; if the second has one it is only where no document has a value of the
first. -/
theorem aggregate_groups_iff_unmixed (b : Builder) (c : Corpus) (first : String)
    (rest : List String) (haccepted : b.validateSearch = .ok ())
    (hgroup : b.groupBy = some (first :: rest)) (hstats : b.stats = [])
    (hlive : c.failing = false) :
    ∃ root docs, (∀ done, b.compile done = .ok root) ∧
      docs.Perm ((c.selected (.bool root)).map Prod.snd) ∧
      (PlainAt (first :: rest) docs → CountsFit (first :: rest) docs →
        (∀ index course, (∀ look, course.fired look = false) →
          ((∃ l, ((aggregate b).run Corpus.engine index course c).2 =
              .ok { groups := [(first, l)] } ∧ l.GroupsBy rest first docs) ↔
            Unmixed rest first docs)) ∧
        ∀ next further, rest = next :: further → (next = "key" ∨ next = "doc_count") →
          (Unmixed rest first docs ↔ occurrences first docs = [])) ∧
      ((∀ field ∈ rest, field ≠ "key" ∧ field ≠ "doc_count") → Unmixed rest first docs) := by
  obtain ⟨root, docs, hroot, hperm, hrun⟩ := run_aggregate haccepted hgroup hstats hlive
  refine ⟨root, docs, hroot, hperm, fun hplain hcount => ⟨fun index course hcourse => ?_, ?_⟩,
    unmixed_of_names⟩
  · rw [hrun index course hcourse]
    simp only [output_chain_eq_ok_iff]
    constructor
    · rintro ⟨l, hlevel, hgroups⟩
      exact (groupsBy_iff_unmixed hplain hcount (Flatten.mirrors_of_level hlevel)).mp hgroups
    · intro hunmixed
      obtain ⟨l, hlevel⟩ := Flatten.level_isOk_iff.mpr (conforms_tallyOf hplain hcount hunmixed)
      exact ⟨l, hlevel,
        (groupsBy_iff_unmixed hplain hcount (Flatten.mirrors_of_level hlevel)).mpr hunmixed⟩
  · rintro next further rfl hname
    rw [unmixed_iff_of_name hname, listedGroups_eq_nil_iff hplain.plain]

/-- Documents of which one has two values at a field. -/
def lettered : Corpus :=
  .ofDocs [.object [("a", .array [.string "x", .string "y"]), ("b", .int 1)],
    .object [("a", .string "x"), ("b", .int 2)]]

def byLetter : Builder := ({} : Builder).applyAll [.groupBy ["a", "b"]]

theorem aggregate_byLetter_groups :
    byLetter.validateSearch = .ok () ∧ byLetter.groupBy = some ["a", "b"] ∧ byLetter.stats = [] ∧
      lettered.failing = false ∧
      ∃ docs, docs.Perm (lettered.docs.map Prod.snd) ∧ PlainAt ["a", "b"] docs ∧
        CountsFit ["a", "b"] docs ∧ ∃ l, ((aggregate byLetter).run Corpus.engine "i" {} lettered).2 =
          .ok { groups := [("a", l)] } ∧ l.GroupsBy ["b"] "a" docs := by
  have haccepted : byLetter.validateSearch = .ok () := by rfl
  have hlive : lettered.failing = false := by rfl
  obtain ⟨root, docs, hroot, hperm, hgroups, hnames⟩ :=
    aggregate_groups_iff_unmixed byLetter lettered "a" ["b"] haccepted rfl rfl hlive
  obtain rfl : root = {} := Except.ok.inj ((hroot []).symm.trans rfl)
  have hmem : ∀ doc ∈ docs, doc ∈ lettered.docs.map Prod.snd := fun doc => hperm.mem_iff.mp
  have hplain : PlainAt ["a", "b"] docs := by
    have hall : ∀ f ∈ ["a", "b"], ∀ doc ∈ lettered.docs.map Prod.snd, ∀ v ∈ valuesAt doc f,
        v.Plain := by decide
    exact fun f hf doc hdoc => hall f hf doc (hmem doc hdoc)
  have hcount : CountsFit ["a", "b"] docs := by
    have hall : ∀ f ∈ ["a", "b"], ∀ doc ∈ lettered.docs.map Prod.snd,
        (valuesAt doc f).length ≤ 2 := by decide
    refine countsFit_of_length_le (by decide)
      (fun f hf doc hdoc => hall f hf doc (hmem doc hdoc)) ?_
    rw [hperm.length_eq]
    decide
  have hunmixed := hnames (by decide)
  obtain ⟨l, hl, hgroupsBy⟩ := ((hgroups hplain hcount).1 "i" {} fun _ => rfl).mpr hunmixed
  exact ⟨haccepted, rfl, rfl, hlive, docs, hperm, hplain, hcount, l, hl, hgroupsBy⟩

/-- One document, which has values under the names that a bucket has for itself. -/
def clashing : Corpus := .ofDocs [
  .object [("a", .string "x"), ("doc_count", .int 1), ("key", .string "y")]]

def byKey : Builder := ({} : Builder).applyAll [.groupBy ["a", "key"]]

def byCount : Builder := ({} : Builder).applyAll [.groupBy ["a", "doc_count"]]

/-- The buckets of the second field stand in place of the key or of the count of the first: in one
case the key is no value, in the other the answer cannot be read. -/
theorem aggregate_clashing_fails :
    byKey.validateSearch = .ok () ∧ byKey.groupBy = some ["a", "key"] ∧ byKey.stats = [] ∧
      byCount.validateSearch = .ok () ∧ byCount.groupBy = some ["a", "doc_count"] ∧
      byCount.stats = [] ∧ clashing.failing = false ∧
      byKey.compile FamilyKind.all = .ok {} ∧ byCount.compile FamilyKind.all = .ok {} ∧
      clashing.selected (.bool {}) = clashing.docs ∧
      PlainAt ["a", "key", "doc_count"] (clashing.docs.map Prod.snd) ∧
      (¬ ∃ l, ((aggregate byKey).run Corpus.engine "i" {} clashing).2 =
          .ok { groups := [("a", l)] } ∧ l.GroupsBy ["key"] "a" (clashing.docs.map Prod.snd)) ∧
      ((aggregate byCount).run Corpus.engine "i" {} clashing).2 =
        .error (.extraction (.bucketWithoutCount (.string "x"))) := by
  refine ⟨by rfl, by rfl, by rfl, by rfl, by rfl, by rfl, by rfl, by rfl, by rfl, by rfl, ?_, ?_,
    by rfl⟩
  · unfold PlainAt
    decide
  · rintro ⟨l, hl, hgroups⟩
    have hrun : ((aggregate byKey).run Corpus.engine "i" {} clashing).2 = .ok { groups := [("a",
        .mk 0 0 [⟨tallyOf [] "key" (clashing.docs.map Prod.snd), none, 1,
          [("key", .mk 0 0 [⟨.string "y", none, 1, [], []⟩])], []⟩])] } := by rfl
    obtain rfl : _ = l := by simpa using hrun.symm.trans hl
    obtain ⟨doc, hdoc, hvalue⟩ := hgroups.occurs _ List.mem_cons_self
    have hplain : ∀ doc ∈ clashing.docs.map Prod.snd, ∀ v ∈ valuesAt doc "a", v.Plain := by decide
    exact hplain doc hdoc _ hvalue

end Index

end DocSearch
