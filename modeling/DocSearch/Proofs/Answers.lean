import DocSearch.Index
import DocSearch.Proofs.Named
import DocSearch.Proofs.Outcome
import Mathlib.Data.List.Forall2

/-!
# Answers that hold what was asked for

The request nests the aggregation of each field inside that of the field before it, beginning with
the innermost; an answer is read from the outside. Conformance is defined along the request, the
resemblance of a result to its answer along the list of fields, and a result is read from an answer
exactly when the answer conforms.
-/

namespace DocSearch

/-! ### What an answer must hold -/

namespace Aggregation

mutual

/-- An answer holds what an aggregation asks for: under a field the list of its buckets, each with
a key, a count and what is asked for inside of it, and statistics that can be read. -/
def Conforms (a : Aggregation) (raw : Json) : Prop :=
  match a with
  | ⟨some _, _, _, _, aggs⟩ =>
    ∃ raws, raw.get? "buckets" = some (.array raws) ∧
      ∀ b ∈ raws, (∃ key, b.get? "key" = some key) ∧
        (∃ n : UInt64, b.get? "doc_count" = some (.int n.toNat)) ∧ AllConform aggs b.members
  | ⟨none, some _, _, _, _⟩ => ∃ s, ExtendedStats.decode raw = .ok s
  | ⟨none, none, _, _, _⟩ => True
termination_by structural a

/-- Each requested name is there, with an answer that conforms. -/
def AllConform (aggs : List (String × Aggregation)) (members : List (String × Json)) : Prop :=
  match aggs with
  | [] => True
  | (name, a) :: aggs =>
    (∃ raw, List.lookup name members = some raw ∧ Conforms a raw) ∧ AllConform aggs members
termination_by structural aggs

end

theorem allConform_iff {aggs : List (String × Aggregation)} {members : List (String × Json)} :
    AllConform aggs members ↔
      ∀ entry ∈ aggs, ∃ raw, List.lookup entry.1 members = some raw ∧ entry.2.Conforms raw := by
  induction aggs with
  | nil => simp [AllConform]
  | cons first aggs ih => rw [AllConform, ih, List.forall_mem_cons]

theorem conforms_ofTerms_iff {field : String} {aggs : Named Aggregation} {raw : Json} :
    (ofTerms field aggs).Conforms raw ↔
      ∃ raws, raw.get? "buckets" = some (.array raws) ∧
        ∀ b ∈ raws, (∃ key, b.get? "key" = some key) ∧
          (∃ n : UInt64, b.get? "doc_count" = some (.int n.toNat)) ∧
            AllConform aggs b.members := by
  rw [ofTerms, Conforms]

theorem conforms_ofStats_iff {field : String} {raw : Json} :
    (ofStats field).Conforms raw ↔ ∃ s, ExtendedStats.decode raw = .ok s := by
  rw [ofStats, Conforms]

/-- The aggregations of statistics, under the names of the fields. -/
def ofAllStats (fields : List String) : Named Aggregation :=
  Named.ofList (fields.map fun field => (statsName field, ofStats field))

/-- The aggregations of fields inside each other. -/
def chain (fields statFields : List String) : Named Aggregation :=
  fields.foldr (fun field inner => [(field, ofTerms field inner)]) (ofAllStats statFields)

end Aggregation

theorem Builder.aggregations_eq_chain (b : Builder) :
    b.aggregations = Aggregation.chain (b.groupBy.getD []) b.stats := rfl

/-! ### What a result holds of its answer -/

/-- A count is the one in an answer, or zero if there is none that is an unsigned word. -/
def CountAt (raw : Json) (name : String) (n : UInt64) : Prop :=
  raw.get? name = some (.int n.toNat) ∨
    n = 0 ∧ ∀ m : UInt64, raw.get? name ≠ some (.int m.toNat)

/-- Statistics are those of the fields, one entry for each, as they stand in an answer. -/
structure StatsAt (members : List (String × Json)) (fields : List String)
    (found : Named ExtendedStats) : Prop where
  nodup : found.names.Nodup
  names : ∀ field, field ∈ found.names ↔ field ∈ fields
  reads : ∀ entry ∈ found, ∃ raw, List.lookup (statsName entry.1) members = some raw ∧
    ExtendedStats.decode raw = .ok entry.2

/-- A bucket says of itself what its answer does. -/
structure Bucket.Mirrors {α : Type} (b : Bucket α) (raw : Json) : Prop where
  key : raw.get? "key" = some b.key
  docCount : raw.get? "doc_count" = some (.int b.docCount.toNat)
  keyAsString : ∀ s, b.keyAsString = some s ↔ raw.get? "key_as_string" = some (.string s)

namespace BucketLevel

/-- A level has the counts of its answer and its buckets in their order, with the content of each as
`Inside` says. -/
structure MirrorsWith (Inside : Json → Bucket BucketLevel → Prop) (l : BucketLevel) (raw : Json) :
    Prop where
  errorBound : CountAt raw "doc_count_error_upper_bound" l.errorBound
  otherCount : CountAt raw "sum_other_doc_count" l.otherCount
  buckets : ∃ raws, raw.get? "buckets" = some (.array raws) ∧
    List.Forall₂ (fun raw b => b.Mirrors raw ∧ Inside raw b) raws l.buckets

/-- A level is that of an answer. Its buckets hold the level of the next field and no statistics; at
the last field they hold the statistics and no level. -/
def Mirrors (statFields : List String) : List String → BucketLevel → Json → Prop
  | [] => MirrorsWith fun raw b => b.items = [] ∧ StatsAt raw.members statFields b.stats
  | next :: rest => MirrorsWith fun raw b =>
      b.stats = [] ∧ ∃ sub inner, raw.get? next = some sub ∧ b.items = [(next, inner)] ∧
        Mirrors statFields rest inner sub

end BucketLevel

/-- In an answer some bucket holds the answer for the first of some fields, some bucket of that the
answer for the second, and so on to the last. -/
def Descends : List String → Json → Prop
  | [], _ => True
  | next :: rest, raw => ∃ raws, raw.get? "buckets" = some (.array raws) ∧
      ∃ b ∈ raws, ∃ sub, b.get? next = some sub ∧ Descends rest sub

/-- An outcome is that of an answer: the level of the first field, or the statistics if there are no
fields. -/
def AggregateOutput.Mirrors (out : AggregateOutput) (statFields : List String)
    (raw : Named Json) : List String → Prop
  | [] => out.groups = [] ∧ StatsAt raw statFields out.stats
  | first :: rest => out.stats = [] ∧ ∃ top l, List.lookup first raw = some top ∧
      out.groups = [(first, l)] ∧ l.Mirrors statFields rest top

/-! ### Counts -/

theorem Word.word64?_eq_some_iff {m : Int} {n : UInt64} :
    Word.word64? m = some n ↔ m = n.toNat := by
  unfold word64?
  have hn : n.toNat < UInt64.size := n.toNat_lt_size
  constructor
  · intro h
    by_cases hword : 0 ≤ m ∧ m < UInt64.size
    · rw [if_pos hword, Option.some.injEq] at h
      have hm : m.toNat < UInt64.size := by omega
      rw [← h, UInt64.toNat_ofNat_of_lt' hm, Int.toNat_of_nonneg hword.1]
    · rw [if_neg hword] at h
      cases h
  · rintro rfl
    have hword : (0 : Int) ≤ n.toNat ∧ (n.toNat : Int) < UInt64.size := by omega
    rw [if_pos hword, Int.toNat_natCast, UInt64.ofNat_toNat]

theorem Json.word?_eq_some_iff {j : Json} {n : UInt64} : j.word? = some n ↔ j = .int n.toNat := by
  cases j <;> simp [Json.word?, Word.word64?_eq_some_iff]

theorem bind_word?_eq_some_iff {found : Option Json} {n : UInt64} :
    found.bind Json.word? = some n ↔ found = some (.int n.toNat) := by
  simp [Option.bind_eq_some_iff, Json.word?_eq_some_iff]

theorem bind_string?_eq_some_iff {found : Option Json} {s : String} :
    found.bind Json.string? = some s ↔ found = some (.string s) := by
  have hstring : ∀ j : Json, j.string? = some s ↔ j = .string s := by
    intro j
    cases j <;> simp [Json.string?]
  simp [Option.bind_eq_some_iff, hstring]

theorem bind_array?_eq_some_iff {found : Option Json} {items : List Json} :
    found.bind Json.array? = some items ↔ found = some (.array items) := by
  have harray : ∀ j : Json, j.array? = some items ↔ j = .array items := by
    intro j
    cases j <;> simp [Json.array?]
  simp [Option.bind_eq_some_iff, harray]

theorem countAt_wordOrZero (raw : Json) (name : String) :
    CountAt raw name (raw.wordOrZero name) := by
  unfold Json.wordOrZero
  cases hword : (raw.get? name).bind Json.word? with
  | some n => exact Or.inl (bind_word?_eq_some_iff.mp hword)
  | none =>
    refine Or.inr ⟨rfl, fun m hm => ?_⟩
    rw [bind_word?_eq_some_iff.mpr hm] at hword
    cases hword

theorem exists_word_eq {n : Nat} (h : n < UInt64.size) : ∃ w : UInt64, (n : Int) = w.toNat :=
  ⟨UInt64.ofNat n, by rw [UInt64.toNat_ofNat_of_lt' h]⟩

theorem CountAt.toNat_eq {raw : Json} {name : String} {n : UInt64} {k : Nat}
    (h : CountAt raw name n) (hk : raw.get? name = some (.int k)) (hlt : k < UInt64.size) :
    n.toNat = k := by
  rcases h with h | ⟨-, h⟩
  · have heq := Json.int.inj (Option.some.inj (h.symm.trans hk))
    omega
  · obtain ⟨w, hw⟩ := exists_word_eq hlt
    exact absurd (hw ▸ hk) (h w)

theorem exists_forall₂_iff {α β : Type} {R : α → β → Prop} {as : List α} :
    (∃ bs, List.Forall₂ R as bs) ↔ ∀ a ∈ as, ∃ b, R a b := by
  induction as with
  | nil => simp
  | cons a as ih =>
    rw [List.forall_mem_cons, ← ih]
    constructor
    · rintro ⟨bs, h⟩
      obtain ⟨b, rest, hab, has, -⟩ := List.forall₂_cons_left_iff.mp h
      exact ⟨⟨b, hab⟩, rest, has⟩
    · rintro ⟨⟨b, hab⟩, bs, has⟩
      exact ⟨b :: bs, List.Forall₂.cons hab has⟩

theorem exists_mem_of_forall₂ {α β : Type} {R : α → β → Prop} {as : List α} {bs : List β} {b : β}
    (h : List.Forall₂ R as bs) (hb : b ∈ bs) : ∃ a ∈ as, R a b := by
  induction h with
  | nil => exact absurd hb List.not_mem_nil
  | @cons a c as bs hac _ ih =>
    rcases List.mem_cons.mp hb with rfl | hb
    · exact ⟨a, List.mem_cons_self, hac⟩
    · obtain ⟨a', ha', hab⟩ := ih hb
      exact ⟨a', List.mem_cons_of_mem a ha', hab⟩

theorem map_eq_map_of_forall₂ {α β γ : Type} {R : α → β → Prop} {f : α → γ} {g : β → γ}
    {as : List α} {bs : List β} (h : List.Forall₂ R as bs) (hfg : ∀ a b, R a b → f a = g b) :
    as.map f = bs.map g := by
  induction h with
  | nil => rfl
  | cons hab _ ih => rw [List.map_cons, List.map_cons, hfg _ _ hab, ih]

theorem exists_mem_iff_of_forall₂ {α β : Type} {R : α → β → Prop} {P : α → Prop} {Q : β → Prop}
    {as : List α} {bs : List β} (h : List.Forall₂ R as bs) (hiff : ∀ a b, R a b → (P a ↔ Q b)) :
    (∃ a ∈ as, P a) ↔ ∃ b ∈ bs, Q b := by
  induction h with
  | nil => simp
  | cons hab _ ih => simp only [List.mem_cons, exists_eq_or_imp, hiff _ _ hab, ih]

namespace Flatten

/-! ### Statistics -/

section Stats

variable {owner : Owner} {members : List (String × Json)} {fields : List String}
  {before found : Named ExtendedStats}

theorem stats_isOk_iff : (∃ found, stats owner members fields before = .ok found) ↔
    ∀ field ∈ fields, ∃ raw, List.lookup (statsName field) members = some raw ∧
      ∃ s, ExtendedStats.decode raw = .ok s := by
  induction fields generalizing before with
  | nil => simp [stats]
  | cons field fields ih =>
    rw [List.forall_mem_cons, stats]
    cases hraw : List.lookup (statsName field) members with
    | none => simp
    | some raw =>
      cases hdecode : ExtendedStats.decode raw with
      | error e => simp [hdecode]
      | ok s => simp [hdecode, ih]

/-- Reading goes on from statistics that are read already; those that stay are right, whether they
were there or are added. -/
theorem reads_of_stats (h : stats owner members fields before = .ok found)
    (hascending : before.Ascending)
    (hbefore : ∀ entry ∈ before, ∃ raw, List.lookup (statsName entry.1) members = some raw ∧
      ExtendedStats.decode raw = .ok entry.2) :
    found.Ascending ∧ (∀ field, field ∈ found.names ↔ field ∈ fields ∨ field ∈ before.names) ∧
      ∀ entry ∈ found, ∃ raw, List.lookup (statsName entry.1) members = some raw ∧
        ExtendedStats.decode raw = .ok entry.2 := by
  induction fields generalizing before with
  | nil =>
    obtain rfl : before = found := Except.ok.inj h
    exact ⟨hascending, by simp, hbefore⟩
  | cons field fields ih =>
    rw [stats] at h
    cases hraw : List.lookup (statsName field) members with
    | none => simp [hraw] at h
    | some raw =>
      cases hdecode : ExtendedStats.decode raw with
      | error e => simp [hraw, hdecode] at h
      | ok s =>
        simp only [hraw, hdecode] at h
        have hinsert : ∀ entry ∈ before.insert field s,
            ∃ raw, List.lookup (statsName entry.1) members = some raw ∧
              ExtendedStats.decode raw = .ok entry.2 := by
          intro entry hentry
          rcases Named.mem_of_mem_insert hentry with rfl | hentry
          · exact ⟨raw, hraw, hdecode⟩
          · exact hbefore entry hentry
        obtain ⟨hfound, hnames, hreads⟩ := ih h hascending.insert hinsert
        refine ⟨hfound, fun name => ?_, hreads⟩
        rw [hnames, Named.mem_names_insert, List.mem_cons]
        tauto

theorem statsAt_of_stats (h : stats owner members fields [] = .ok found) :
    StatsAt members fields found := by
  obtain ⟨hascending, hnames, hreads⟩ := reads_of_stats h List.Pairwise.nil (by simp)
  refine ⟨hascending.nodup, fun field => ?_, hreads⟩
  rw [hnames, or_iff_left]
  exact List.not_mem_nil

theorem allConform_ofAllStats_iff : Aggregation.AllConform (Aggregation.ofAllStats fields) members ↔
    ∀ field ∈ fields, ∃ raw, List.lookup (statsName field) members = some raw ∧
      ∃ s, ExtendedStats.decode raw = .ok s := by
  rw [Aggregation.allConform_iff, Aggregation.ofAllStats]
  constructor
  · intro h field hfield
    -- the entry under the name of a field may be that of an equal field
    have hname : statsName field ∈ (Named.ofList
        (fields.map fun field => (statsName field, Aggregation.ofStats field))).names := by
      rw [Named.mem_names_ofList, List.map_map]
      exact List.mem_map_of_mem hfield
    obtain ⟨entry, hentry, heq⟩ := List.mem_map.mp hname
    obtain ⟨raw, hraw, hconforms⟩ := h entry hentry
    obtain ⟨other, -, rfl⟩ := List.mem_map.mp (Named.mem_of_mem_ofList hentry)
    exact ⟨raw, heq ▸ hraw, Aggregation.conforms_ofStats_iff.mp hconforms⟩
  · intro h entry hentry
    obtain ⟨field, hfield, rfl⟩ := List.mem_map.mp (Named.mem_of_mem_ofList hentry)
    obtain ⟨raw, hraw, hdecodes⟩ := h field hfield
    exact ⟨raw, hraw, Aggregation.conforms_ofStats_iff.mpr hdecodes⟩

theorem stats_isOk_iff_conforms (owner : Owner) :
    (∃ found, stats owner members fields [] = .ok found) ↔
      Aggregation.AllConform (Aggregation.ofAllStats fields) members :=
  stats_isOk_iff.trans allConform_ofAllStats_iff.symm

end Stats

/-! ### Buckets -/

section Buckets

variable {inside : Json → Json → Except ExtractionError (Named BucketLevel × Named ExtendedStats)}
  {raw : Json} {raws : List Json} {b : Bucket BucketLevel} {found : List (Bucket BucketLevel)}

theorem bucket_eq_ok_iff : bucket inside raw = .ok b ↔
    b.Mirrors raw ∧ inside b.key raw = .ok (b.items, b.stats) := by
  constructor
  · intro h
    rw [bucket] at h
    cases hkey : raw.get? "key" with
    | none => simp [hkey] at h
    | some key =>
      cases hcount : (raw.get? "doc_count").bind Json.word? with
      | none => simp [hkey, hcount] at h
      | some n =>
        simp only [hkey, hcount] at h
        obtain ⟨⟨items, stats⟩, hinside, h⟩ := bind_eq_ok_iff.mp h
        obtain rfl := pure_eq_ok_iff.mp h
        exact ⟨⟨hkey, bind_word?_eq_some_iff.mp hcount, fun s => bind_string?_eq_some_iff⟩, hinside⟩
  · rintro ⟨⟨hkey, hcount, htext⟩, hinside⟩
    have hword := bind_word?_eq_some_iff.mpr hcount
    have hstring : (raw.get? "key_as_string").bind Json.string? = b.keyAsString := by
      refine Option.ext fun s => ?_
      rw [bind_string?_eq_some_iff, htext]
    rw [bucket, hkey]
    simp only [hword, hinside, hstring, ok_bind]
    rfl

theorem buckets_eq_ok_iff : buckets inside raws = .ok found ↔
    List.Forall₂ (fun raw b => bucket inside raw = .ok b) raws found := by
  induction raws generalizing found with
  | nil =>
    rw [buckets, Except.ok.injEq, List.forall₂_nil_left_iff]
    exact eq_comm
  | cons raw raws ih =>
    rw [buckets, bind_eq_ok_iff]
    constructor
    · rintro ⟨first, hfirst, h⟩
      obtain ⟨others, hothers, h⟩ := bind_eq_ok_iff.mp h
      obtain rfl := pure_eq_ok_iff.mp h
      exact List.Forall₂.cons hfirst (ih.mp hothers)
    · intro h
      obtain ⟨first, others, hfirst, hothers, rfl⟩ := List.forall₂_cons_left_iff.mp h
      exact ⟨first, hfirst, by rw [ih.mpr hothers, ok_bind]; rfl⟩

theorem buckets_isOk_iff : (∃ found, buckets inside raws = .ok found) ↔
    ∀ raw ∈ raws, ∃ b, bucket inside raw = .ok b := by
  simp only [buckets_eq_ok_iff, exists_forall₂_iff]

theorem bucket_isOk_iff : (∃ b, bucket inside raw = .ok b) ↔
    ∃ key, raw.get? "key" = some key ∧
      (∃ n : UInt64, raw.get? "doc_count" = some (.int n.toNat)) ∧
      ∃ content, inside key raw = .ok content := by
  constructor
  · rintro ⟨b, h⟩
    obtain ⟨hmirrors, hinside⟩ := bucket_eq_ok_iff.mp h
    exact ⟨b.key, hmirrors.key, ⟨b.docCount, hmirrors.docCount⟩, _, hinside⟩
  · rintro ⟨key, hkey, ⟨n, hn⟩, ⟨items, stats⟩, hinside⟩
    refine ⟨⟨key, (raw.get? "key_as_string").bind Json.string?, n, items, stats⟩, ?_⟩
    exact bucket_eq_ok_iff.mpr ⟨⟨hkey, hn, fun s => bind_string?_eq_some_iff⟩, hinside⟩

end Buckets

/-! ### Levels -/

section Levels

variable {inside : Json → Json → Except ExtractionError (Named BucketLevel × Named ExtendedStats)}
  {field : String} {raw : Json} {l : BucketLevel} {statFields rest : List String}

theorem levelWith_eq_ok_iff : levelWith field raw inside = .ok l ↔
    ∃ raws found, raw.get? "buckets" = some (.array raws) ∧ buckets inside raws = .ok found ∧
      l = .mk (raw.wordOrZero "doc_count_error_upper_bound")
        (raw.wordOrZero "sum_other_doc_count") found := by
  simp only [← bind_array?_eq_some_iff, levelWith]
  cases (raw.get? "buckets").bind Json.array? with
  | none => simp
  | some raws =>
    simp only [bind_eq_ok_iff, pure_eq_ok_iff, Option.some.injEq, exists_and_left, exists_eq_left']
    exact exists_congr fun found => and_congr_right fun _ => eq_comm

/-- A level can be read if its answer conforms, where what is inside of a bucket can be read if it
conforms, whatever the key. -/
theorem levelWith_isOk_iff {aggs : Named Aggregation}
    (hinside : ∀ key b, (∃ content, inside key b = .ok content) ↔
      Aggregation.AllConform aggs b.members) :
    (∃ l, levelWith field raw inside = .ok l) ↔ (Aggregation.ofTerms field aggs).Conforms raw := by
  have hbucket : ∀ b, (∃ found, bucket inside b = .ok found) ↔
      (∃ key, b.get? "key" = some key) ∧
        (∃ n : UInt64, b.get? "doc_count" = some (.int n.toNat)) ∧
          Aggregation.AllConform aggs b.members := by
    intro b
    simp only [bucket_isOk_iff, hinside, exists_and_right]
  rw [Aggregation.conforms_ofTerms_iff]
  simp only [← hbucket, ← buckets_isOk_iff, levelWith_eq_ok_iff]
  constructor
  · rintro ⟨-, raws, found, hraws, hfound, -⟩
    exact ⟨raws, hraws, found, hfound⟩
  · rintro ⟨raws, hraws, found, hfound⟩
    exact ⟨_, raws, found, hraws, hfound, rfl⟩

theorem mirrorsWith_of_levelWith {Inside : Json → Bucket BucketLevel → Prop}
    (h : levelWith field raw inside = .ok l)
    (hinside : ∀ raw b, inside b.key raw = .ok (b.items, b.stats) → Inside raw b) :
    l.MirrorsWith Inside raw := by
  obtain ⟨raws, found, hraws, hfound, rfl⟩ := levelWith_eq_ok_iff.mp h
  refine ⟨countAt_wordOrZero raw _, countAt_wordOrZero raw _, raws, hraws, ?_⟩
  refine (buckets_eq_ok_iff.mp hfound).imp fun raw b hb => ?_
  obtain ⟨hmirrors, hcontent⟩ := bucket_eq_ok_iff.mp hb
  exact ⟨hmirrors, hinside raw b hcontent⟩

theorem level_isOk_iff : (∃ l, level statFields rest field raw = .ok l) ↔
    (Aggregation.ofTerms field (Aggregation.chain rest statFields)).Conforms raw := by
  -- along the fields, which is from the outside of the request inwards
  induction rest generalizing field raw with
  | nil =>
    refine levelWith_isOk_iff fun key b => ?_
    rw [Aggregation.chain, List.foldr_nil, ← stats_isOk_iff_conforms (.bucket key)]
    cases stats (.bucket key) b.members statFields [] <;> simp [Except.map]
  | cons next rest ih =>
    refine levelWith_isOk_iff fun key b => ?_
    rw [Aggregation.chain, List.foldr_cons, ← Aggregation.chain, Aggregation.allConform_iff]
    simp only [List.mem_singleton, forall_eq, ← ih]
    change _ ↔ ∃ sub, b.get? next = some sub ∧ ∃ inner, level statFields rest next sub = .ok inner
    cases b.get? next with
    | none => simp
    | some sub =>
      simp only [Option.some.injEq, exists_eq_left']
      cases level statFields rest next sub <;> simp [Except.map]

theorem mirrors_of_level (h : level statFields rest field raw = .ok l) :
    l.Mirrors statFields rest raw := by
  induction rest generalizing field raw l with
  | nil =>
    refine mirrorsWith_of_levelWith h fun raw b hb => ?_
    cases hstats : stats (.bucket b.key) raw.members statFields [] with
    | error e => simp [hstats, Except.map] at hb
    | ok found =>
      obtain ⟨hitems, hfound⟩ : [] = b.items ∧ found = b.stats := by
        simpa [hstats, Except.map] using hb
      exact ⟨hitems.symm, hfound ▸ statsAt_of_stats hstats⟩
  | cons next rest ih =>
    refine mirrorsWith_of_levelWith h fun raw b hb => ?_
    cases hsub : raw.get? next with
    | none => simp [hsub] at hb
    | some sub =>
      cases hlevel : level statFields rest next sub with
      | error e => simp [hsub, hlevel, Except.map] at hb
      | ok inner =>
        obtain ⟨hitems, hstats⟩ : [(next, inner)] = b.items ∧ [] = b.stats := by
          simpa [hsub, hlevel, Except.map] using hb
        exact ⟨hstats.symm, sub, inner, rfl, hitems.symm, ih hlevel⟩

end Levels

end Flatten

/-! ### Depth -/

namespace BucketLevel

variable {l : BucketLevel} {k : Nat}

theorem depthItems_le_iff {items : List (String × BucketLevel)} :
    depthItems items ≤ k ↔ ∀ item ∈ items, item.2.depth ≤ k := by
  induction items with
  | nil => simp [depthItems]
  | cons item items ih => rw [depthItems, Nat.max_le, ih, List.forall_mem_cons]

theorem depthBuckets_le_iff {bs : List (Bucket BucketLevel)} :
    depthBuckets bs ≤ k ↔ ∀ b ∈ bs, ∀ item ∈ b.items, item.2.depth ≤ k := by
  induction bs with
  | nil => simp [depthBuckets]
  | cons b bs ih => rw [depthBuckets, Nat.max_le, depthItems_le_iff, ih, List.forall_mem_cons]

theorem depth_le_succ_iff :
    l.depth ≤ k + 1 ↔ ∀ b ∈ l.buckets, ∀ item ∈ b.items, item.2.depth ≤ k := by
  obtain ⟨errorBound, otherCount, bs⟩ := l
  rw [depth, ← depthBuckets_le_iff, buckets]
  omega

theorem depth_pos : 0 < l.depth := by
  obtain ⟨errorBound, otherCount, bs⟩ := l
  rw [depth]
  omega

theorem succ_lt_depth_iff :
    k + 1 < l.depth ↔ ∃ b ∈ l.buckets, ∃ item ∈ b.items, k < item.2.depth := by
  rw [← not_le, depth_le_succ_iff]
  simp only [not_forall, not_le, exists_prop]

theorem MirrorsWith.of_mem {Inside : Json → Bucket BucketLevel → Prop} {raw : Json}
    (h : l.MirrorsWith Inside raw) {b : Bucket BucketLevel} (hb : b ∈ l.buckets) :
    ∃ raw, b.Mirrors raw ∧ Inside raw b := by
  obtain ⟨raws, -, hbuckets⟩ := h.buckets
  obtain ⟨raw, -, hraw⟩ := exists_mem_of_forall₂ hbuckets hb
  exact ⟨raw, hraw⟩

theorem Mirrors.depth_le {statFields rest : List String} {raw : Json}
    (h : l.Mirrors statFields rest raw) : l.depth ≤ rest.length + 1 := by
  induction rest generalizing l raw with
  | nil =>
    refine depth_le_succ_iff.mpr fun b hb item hitem => ?_
    obtain ⟨-, -, hitems, -⟩ := MirrorsWith.of_mem h hb
    rw [hitems] at hitem
    exact absurd hitem List.not_mem_nil
  | cons next rest ih =>
    refine depth_le_succ_iff.mpr fun b hb item hitem => ?_
    obtain ⟨-, -, -, sub, inner, -, hitems, hinner⟩ := MirrorsWith.of_mem h hb
    rw [hitems, List.mem_singleton] at hitem
    exact hitem ▸ ih hinner

theorem Mirrors.lt_depth_iff {statFields rest : List String} {raw : Json}
    (h : l.Mirrors statFields rest raw) (hk : k ≤ rest.length) :
    k < l.depth ↔ Descends (rest.take k) raw := by
  induction rest generalizing l raw k with
  | nil =>
    obtain rfl : k = 0 := Nat.le_zero.mp hk
    exact iff_of_true depth_pos trivial
  | cons next rest ih =>
    cases k with
    | zero => exact iff_of_true depth_pos trivial
    | succ k =>
      -- one level further down on both sides, bucket by bucket
      obtain ⟨raws, hraws, hbuckets⟩ := h.buckets
      have hmembers : (∃ raw ∈ raws, ∃ sub, raw.get? next = some sub ∧
          Descends (rest.take k) sub) ↔ ∃ b ∈ l.buckets, ∃ item ∈ b.items, k < item.2.depth := by
        refine exists_mem_iff_of_forall₂ hbuckets fun raw b hb => ?_
        obtain ⟨-, -, sub, inner, hsub, hitems, hinner⟩ := hb
        simp only [hsub, hitems, Option.some.injEq, exists_eq_left', List.mem_singleton,
          exists_eq_left]
        exact (ih hinner (Nat.le_of_succ_le_succ hk)).symm
      rw [succ_lt_depth_iff, ← hmembers, List.take_succ_cons, Descends]
      simp only [hraws, Option.some.injEq, Json.array.injEq, exists_eq_left']

end BucketLevel

/-! ### Results -/

namespace Flatten

variable {fields statFields : List String} {raw : Named Json} {out : AggregateOutput}

theorem output_isOk_iff : (∃ out, output fields statFields raw = .ok out) ↔
    Aggregation.AllConform (Aggregation.chain fields statFields) raw := by
  cases fields with
  | nil =>
    rw [Aggregation.chain, List.foldr_nil, ← stats_isOk_iff_conforms .response, output]
    cases stats .response raw statFields [] <;> simp [Except.map]
  | cons first rest =>
    rw [Aggregation.chain, List.foldr_cons, ← Aggregation.chain, Aggregation.allConform_iff]
    simp only [List.mem_singleton, forall_eq, ← level_isOk_iff, output]
    cases List.lookup first raw with
    | none => simp
    | some top =>
      simp only [Option.some.injEq, exists_eq_left']
      cases level statFields rest first top <;> simp [Except.map]

theorem mirrors_of_output (h : output fields statFields raw = .ok out) :
    out.Mirrors statFields raw fields := by
  cases fields with
  | nil =>
    rw [output] at h
    cases hstats : stats .response raw statFields [] with
    | error e => simp [hstats, Except.map] at h
    | ok found =>
      obtain rfl : { stats := found } = out := by simpa [hstats, Except.map] using h
      exact ⟨rfl, statsAt_of_stats hstats⟩
  | cons first rest =>
    cases htop : List.lookup first raw with
    | none => simp [output, htop] at h
    | some top =>
      cases hlevel : level statFields rest first top with
      | error e => simp [output, htop, hlevel, Except.map] at h
      | ok l =>
        obtain rfl : { groups := [(first, l)] } = out := by
          simpa [output, htop, hlevel, Except.map] using h
        exact ⟨rfl, top, l, htop, rfl, mirrors_of_level hlevel⟩

end Flatten

namespace Builder

/-- **A result is read exactly from an answer that holds what was asked for, and mirrors it.** For
every list of fields to group by and to compute statistics of, the outcome of reading an answer is a
result if the answer conforms to the aggregations of the request and an extraction failure if it
does not. A result has the levels, buckets and statistics of its answer, it is nowhere deeper than
there are fields, and it goes as far down as buckets in the answer stand inside each other. -/
theorem output_isOk_iff_conforms (b : Builder) (raw : Named Json) :
    let outcome := (Flatten.output (b.groupBy.getD []) b.stats raw).mapError Error.extraction
    ((∃ out, outcome = .ok out) ↔ Aggregation.AllConform b.aggregations raw) ∧
    (¬ Aggregation.AllConform b.aggregations raw → ∃ cause, outcome = .error (.extraction cause)) ∧
    (∀ out, outcome = .ok out → out.Mirrors b.stats raw (b.groupBy.getD [])) ∧
    ∀ first rest top l, b.groupBy.getD [] = first :: rest → List.lookup first raw = some top →
      outcome = .ok { groups := [(first, l)] } →
        l.depth ≤ rest.length + 1 ∧
        ∀ k ≤ rest.length, k < l.depth ↔ Descends (rest.take k) top := by
  intro outcome
  have hok : ∀ out, outcome = .ok out ↔
      Flatten.output (b.groupBy.getD []) b.stats raw = .ok out := fun out => mapError_eq_ok_iff
  have hconforms : (∃ out, outcome = .ok out) ↔ Aggregation.AllConform b.aggregations raw := by
    rw [aggregations_eq_chain, ← Flatten.output_isOk_iff]
    exact exists_congr hok
  refine ⟨hconforms, fun hnot => ?_, fun out hout => Flatten.mirrors_of_output ((hok out).mp hout),
    fun first rest top l hfields htop hout => ?_⟩
  · rw [← hconforms] at hnot
    simp only [outcome] at hnot ⊢
    cases houtput : Flatten.output (b.groupBy.getD []) b.stats raw with
    | error cause => exact ⟨cause, rfl⟩
    | ok out => exact absurd ⟨out, by rw [houtput]; rfl⟩ hnot
  · have hmirrors := Flatten.mirrors_of_output ((hok _).mp hout)
    rw [hfields] at hmirrors
    obtain ⟨-, top', l', htop', hgroups, hlevel⟩ := hmirrors
    obtain rfl : top = top' := Option.some.inj (htop.symm.trans htop')
    obtain rfl : l = l' := by simpa using hgroups
    exact ⟨hlevel.depth_le, fun k hk => hlevel.lt_depth_iff hk⟩

end Builder

end DocSearch
