import DocSearch.Proofs.DataValues
import DocSearch.Proofs.Named
import DocSearch.Proofs.Outcome
import DocSearch.Proofs.Rounding
import DocSearch.Response.Wire
import Mathlib.Data.List.Nodup

/-!
# Records that are read back

A record is written as a table: its fields with their values, without those that have none. It is
read by looking for each field by its name, so it is of no account in which order the members stand.
A data value keeps the order in which it was written, or the ascending order of the names in all its
objects. `Json.Arranges` holds of both, and readers are shown to undo writers for whatever it holds
of.

In a table no name stands twice. Therefore a field is found once or not at all, which is all that
`Record.Shows` is needed for: a field that is written is read as its value, and one that is left out
takes the value by default that it was left out for.
-/

namespace DocSearch

/-! ### Arrangements -/

namespace Json

/-- The members of all objects in a value are in ascending order. -/
def InOrder (j : Json) : Prop := j.normalize = j

/-- A value that does not stand for nothing. -/
def Given (j : Json) : Prop := j.InOrder ∧ j ≠ .null

/-- Only the order of members changes, and not where they are in ascending order. -/
structure Arranges (σ : Json → Json) : Prop where
  inOrder : ∀ j : Json, j.InOrder → σ j = j
  array : ∀ js, σ (.array js) = .array (js.map σ)
  object : ∀ ms : List (String × Json), (ms.map Prod.fst).Nodup →
    ∃ ms', σ (.object ms) = .object ms' ∧ ms'.Perm (ms.map fun m => (m.1, σ m.2))
  ne_null : ∀ j : Json, j ≠ .null → σ j ≠ .null

theorem arranges_id : Arranges id where
  inOrder _ _ := rfl
  array js := by rw [List.map_id]; rfl
  object ms _ := ⟨ms, rfl, by simp⟩
  ne_null _ h := h

theorem normalizeItems_eq_map (js : List Json) : normalizeItems js = js.map normalize := by
  induction js with
  | nil => rfl
  | cons j js ih => rw [normalizeItems, ih, List.map_cons]

theorem normalizeMembers_eq_map (ms : List (String × Json)) :
    normalizeMembers ms = ms.map fun m => (m.1, m.2.normalize) := by
  induction ms with
  | nil => rfl
  | cons m ms ih => rw [normalizeMembers, ih, List.map_cons]

theorem arranges_normalize : Arranges normalize where
  inOrder _ h := h
  array js := by rw [normalize, normalizeItems_eq_map]
  object ms h := by
    refine ⟨_, rfl, ?_⟩
    rw [← normalizeMembers_eq_map]
    apply Named.perm_ofList
    rw [normalizeMembers_eq_map, List.map_map]
    exact h
  ne_null j h := by
    cases j with
    | null => exact absurd rfl h
    | array js => exact Json.noConfusion
    | object ms => exact Json.noConfusion
    | _ => exact h

/-! ### Tables of fields -/

/-- The members for the fields that have a value. -/
def present (fields : List (String × Option Json)) : List (String × Json) :=
  fields.flatMap fun f => member? f.1 f.2

/-- A list as a value, unless it is empty. -/
def items? (js : List Json) : Option Json := if js.isEmpty then none else some (.array js)

/-- Members as a value, unless there are none. -/
def members? (ms : List (String × Json)) : Option Json :=
  if ms.isEmpty then none else some (.object ms)

@[simp]
theorem present_nil : present [] = [] := rfl

@[simp]
theorem present_cons (name : String) (value : Option Json) (fields : List (String × Option Json)) :
    present ((name, value) :: fields) = member? name value ++ present fields := rfl

@[simp]
theorem member?_some (name : String) (j : Json) : member? name (some j) = [(name, j)] := rfl

@[simp]
theorem member?_items? (name : String) (js : List Json) :
    member? name (items? js) = listMember? name js := by
  cases js <;> rfl

@[simp]
theorem member?_members? (name : String) (ms : List (String × Json)) :
    member? name (members? ms) = objectMember? name ms := by
  cases ms <;> rfl

section Tables

variable {fields : List (String × Option Json)}

theorem mem_present {m : String × Json} : m ∈ present fields ↔ (m.1, some m.2) ∈ fields := by
  obtain ⟨name, j⟩ := m
  simp only [present, List.mem_flatMap]
  constructor
  · rintro ⟨⟨key, value⟩, hf, hm⟩
    cases value with
    | none => exact absurd hm List.not_mem_nil
    | some v =>
      obtain ⟨rfl, rfl⟩ := Prod.mk.inj (List.mem_singleton.mp hm)
      exact hf
  · exact fun hf => ⟨_, hf, List.mem_singleton_self _⟩

theorem names_present_sublist : ((present fields).map Prod.fst).Sublist (fields.map Prod.fst) := by
  induction fields with
  | nil => exact List.Sublist.refl _
  | cons f fields ih =>
    obtain ⟨name, value⟩ := f
    cases value with
    | none => exact ih.cons name
    | some j => exact ih.cons_cons name

end Tables

end Json

namespace Decode

open Json

variable {α β : Type} {σ : Json → Json}

/-! ### Fields that are looked for -/

section Occurrences

variable {names : List String} {ms : List (String × Json)} {m : String × Json}

theorem occurrences_of_absent (h : ∀ m ∈ ms, m.1 ∉ names) (place : Nat) :
    occurrences names place ms = [] := by
  induction ms generalizing place with
  | nil => rfl
  | cons first rest ih =>
    obtain ⟨hfirst, hrest⟩ := List.forall_mem_cons.mp h
    rw [occurrences, if_neg (by simpa using hfirst), ih hrest]

theorem occurrences_of_unique (hnodup : ms.Nodup) (hm : m ∈ ms) (hname : m.1 ∈ names)
    (hunique : ∀ m' ∈ ms, m'.1 ∈ names → m' = m) (place : Nat) :
    ∃ place', occurrences names place ms = [(place', m.2)] := by
  induction ms generalizing place with
  | nil => exact absurd hm List.not_mem_nil
  | cons first rest ih =>
    obtain ⟨hfirst, hrest⟩ := List.nodup_cons.mp hnodup
    obtain ⟨hhead, htail⟩ := List.forall_mem_cons.mp hunique
    rw [occurrences]
    rcases List.mem_cons.mp hm with rfl | hm
    · rw [if_pos (by simpa using hname)]
      have habsent : ∀ m' ∈ rest, m'.1 ∉ names := fun m' hm' hmem =>
        hfirst (htail m' hm' hmem ▸ hm')
      exact ⟨place, by rw [occurrences_of_absent habsent]⟩
    · have hother : first.1 ∉ names := fun hmem => hfirst (hhead hmem ▸ hm)
      rw [if_neg (by simpa using hother)]
      exact ih hrest hm htail (place + 1)

end Occurrences

@[simp]
theorem Slot.getD_some (a fallback : α) (fault : Option (Nat × DecodeError)) :
    Slot.getD ⟨some a, fault⟩ fallback = a := rfl

@[simp]
theorem Record.required_some (r : Record) (field : String) (a : α)
    (fault : Option (Nat × DecodeError)) : r.required field ⟨some a, fault⟩ = .ok a := rfl

/-- A record that is a table of fields, arranged in some way. -/
structure Record.Shows (σ : Json → Json) (r : Record) (fields : List (String × Option Json)) :
    Prop where
  length : r.length = none
  nodup : (fields.map Prod.fst).Nodup
  perm : r.members.Perm ((present fields).map fun m => (m.1, σ m.2))

theorem exists_record (hσ : Arranges σ) {fields : List (String × Option Json)} {j : Json}
    (hj : j = .object (present fields)) (hnodup : (fields.map Prod.fst).Nodup) (name : String)
    (known : List String) : ∃ r, record name known (σ j) = .ok r ∧ r.Shows σ fields := by
  obtain ⟨ms, hobject, hperm⟩ := hσ.object _ (hnodup.sublist names_present_sublist)
  rw [hj, hobject]
  exact ⟨_, rfl, rfl, hnodup, hperm⟩

namespace Record.Shows

variable {r : Record} {fields : List (String × Option Json)} (field : String)
  {others : List String} {item : Json → Except DecodeError α} {a fallback : α}

theorem mem_members (h : r.Shows σ fields) {m : String × Json} :
    m ∈ r.members ↔ ∃ j, (m.1, some j) ∈ fields ∧ m.2 = σ j := by
  rw [h.perm.mem_iff, List.mem_map]
  constructor
  · rintro ⟨m', hm', rfl⟩
    exact ⟨m'.2, mem_present.mp hm', rfl⟩
  · rintro ⟨j, hj, hvalue⟩
    exact ⟨(m.1, j), mem_present.mpr hj, Prod.ext rfl hvalue.symm⟩

theorem eq_of_mem {field : String} (h : r.Shows σ fields) {value value' : Option Json}
    (hvalue : (field, value) ∈ fields) (hvalue' : (field, value') ∈ fields) : value = value' :=
  congrArg Prod.snd (List.inj_on_of_nodup_map h.nodup hvalue hvalue' rfl)

theorem nodup_members (h : r.Shows σ fields) : r.members.Nodup := by
  refine h.perm.nodup_iff.mpr (List.Nodup.of_map Prod.fst ?_)
  rw [List.map_map]
  exact h.nodup.sublist names_present_sublist

/-- What is found for a field: the value that it was written with, if it was. -/
theorem slotAs (h : r.Shows σ fields) {value : Option Json} (hvalue : (field, value) ∈ fields)
    (hothers : ∀ name ∈ others, name ∉ fields.map Prod.fst)
    (hread : ∀ j ∈ value, item (σ j) = .ok a) :
    r.slotAs field others item = ⟨value.map fun _ => a, none⟩ := by
  have hname : ∀ m ∈ r.members, m.1 ∈ field :: others → ∃ j ∈ value, m = (field, σ j) := by
    rintro ⟨name, j⟩ hm hmem
    obtain ⟨j, hj, rfl⟩ := h.mem_members.mp hm
    rcases List.mem_cons.mp hmem with rfl | hother
    · exact ⟨j, h.eq_of_mem hvalue hj, rfl⟩
    · exact absurd (List.mem_map_of_mem hj) (hothers name hother)
  cases value with
  | none =>
    have habsent : ∀ m ∈ r.members, m.1 ∉ field :: others := by
      intro m hm hmem
      obtain ⟨j, hj, -⟩ := hname m hm hmem
      cases hj
    rw [Record.slotAs, occurrences_of_absent habsent]
    rfl
  | some j =>
    have hm : (field, σ j) ∈ r.members := h.mem_members.mpr ⟨j, hvalue, rfl⟩
    have hunique : ∀ m ∈ r.members, m.1 ∈ field :: others → m = (field, σ j) := by
      intro m hm hmem
      obtain ⟨j', hj', rfl⟩ := hname m hm hmem
      rw [Option.some.inj hj']
    obtain ⟨place, hplace⟩ :=
      occurrences_of_unique h.nodup_members hm List.mem_cons_self hunique 0
    rw [Record.slotAs, hplace]
    simp [hread j rfl]

theorem written (h : r.Shows σ fields) {j : Json} (hvalue : (field, some j) ∈ fields)
    (hread : item (σ j) = .ok a) : r.slot field item = ⟨some a, none⟩ :=
  h.slotAs field hvalue (by simp) fun j' hj' => Option.some.inj hj' ▸ hread

/-- A field that is left out has the value by default. -/
theorem default (h : r.Shows σ fields) {value : Option Json} (hvalue : (field, value) ∈ fields)
    (hothers : ∀ name ∈ others, name ∉ fields.map Prod.fst)
    (hread : ∀ j ∈ value, item (σ j) = .ok a) (hnone : value = none → fallback = a) :
    (r.slotAs field others item).fault = none ∧
      (r.slotAs field others item).getD fallback = a := by
  rw [h.slotAs field hvalue hothers hread]
  cases value with
  | none => exact ⟨rfl, hnone rfl⟩
  | some j => exact ⟨rfl, rfl⟩

theorem optional (h : r.Shows σ fields) {item : Json → Except DecodeError (Option β)}
    {write : β → Json} (value : Option β) (hvalue : (field, value.map write) ∈ fields)
    (hread : ∀ b ∈ value, item (σ (write b)) = .ok (some b)) :
    (r.slot field item).fault = none ∧ (r.slot field item).getD none = value := by
  refine h.default field hvalue (by simp) ?_ fun hnone => (Option.map_eq_none_iff.mp hnone).symm
  intro j hj
  obtain ⟨b, rfl, rfl⟩ := Option.map_eq_some_iff.mp hj
  exact hread b rfl

theorem listed (h : r.Shows σ fields) {item : Json → Except DecodeError (List β)}
    {write : β → Json} {bs : List β} (hvalue : (field, items? (bs.map write)) ∈ fields)
    (hread : item (σ (.array (bs.map write))) = .ok bs) :
    (r.slot field item).fault = none ∧ (r.slot field item).getD [] = bs := by
  cases bs with
  | nil => exact h.default field hvalue (by simp) (fun j hj => by cases hj) fun _ => rfl
  | cons b bs =>
    refine h.default field hvalue (by simp) (fun j hj => ?_) fun hnone => by cases hnone
    obtain rfl := Option.some.inj hj
    exact hread

theorem namedAs (others : List String) (h : r.Shows σ fields) {item : Json → Except DecodeError (Named β)}
    {write : String × β → String × Json} {named : Named β}
    (hvalue : (field, members? (named.map write)) ∈ fields)
    (hothers : ∀ name ∈ others, name ∉ fields.map Prod.fst)
    (hread : item (σ (.object (named.map write))) = .ok named) :
    (r.slotAs field others item).fault = none ∧
      (r.slotAs field others item).getD [] = named := by
  cases named with
  | nil => exact h.default field hvalue hothers (fun j hj => by cases hj) fun _ => rfl
  | cons e named =>
    refine h.default field hvalue hothers (fun j hj => ?_) fun hnone => by cases hnone
    obtain rfl := Option.some.inj hj
    exact hread

theorem named (h : r.Shows σ fields) {item : Json → Except DecodeError (Named β)}
    {write : String × β → String × Json} {named : Named β}
    (hvalue : (field, members? (named.map write)) ∈ fields)
    (hread : item (σ (.object (named.map write))) = .ok named) :
    (r.slot field item).fault = none ∧ (r.slot field item).getD [] = named :=
  h.namedAs field [] hvalue (by simp) hread

theorem check (h : r.Shows σ fields) {faults : List (Option (Nat × DecodeError))}
    (hfaults : ∀ fault ∈ faults, fault = none) : r.check faults = .ok () := by
  have hfirst : faults.foldl earlier none = none := by
    induction faults with
    | nil => rfl
    | cons fault faults ih =>
      obtain ⟨rfl, hrest⟩ := List.forall_mem_cons.mp hfaults
      exact ih hrest
  rw [Record.check, hfirst, h.length]

end Record.Shows

/-! ### Values -/

theorem integer_natCast {size n : Nat} (h : n < size) (kind : String) :
    integer kind 0 ((size : Int) - 1) (.int n) = .ok n := by
  rw [integer, if_pos (by omega)]

theorem option_of_ok {item : Json → Except DecodeError α} {j : Json} {a : α} (hne : j ≠ .null)
    (h : item j = .ok a) : option item j = .ok (some a) := by
  rw [option, h]
  · rfl
  · exact hne

theorem items_of_forall {item : Json → Except DecodeError β} (write : β → Json) {bs : List β}
    (h : ∀ b ∈ bs, item (write b) = .ok b) : items item (bs.map write) = .ok bs := by
  induction bs with
  | nil => rfl
  | cons b bs ih =>
    obtain ⟨hb, hbs⟩ := List.forall_mem_cons.mp h
    rw [List.map_cons, items, hb, ok_bind, ih hbs, ok_bind]
    rfl

theorem entries_of_forall {item : Json → Except DecodeError β} (write : β → Json)
    {es : List (String × β)} (h : ∀ e ∈ es, item (write e.2) = .ok e.2) :
    entries item (es.map fun e => (e.1, write e.2)) = .ok es := by
  induction es with
  | nil => rfl
  | cons e es ih =>
    obtain ⟨he, hes⟩ := List.forall_mem_cons.mp h
    rw [List.map_cons, entries, he, ok_bind, ih hes, ok_bind]
    rfl

theorem entries_cons_eq_ok_iff {item : Json → Except DecodeError β} {m : String × Json}
    {ms : List (String × Json)} {es : List (String × β)} :
    entries item (m :: ms) = .ok es ↔
      ∃ b, item m.2 = .ok b ∧ ∃ rest, entries item ms = .ok rest ∧ (m.1, b) :: rest = es := by
  simp only [entries, bind_eq_ok_iff, pure_eq_ok_iff]

/-- Members in another order are read as the same entries in another order. -/
theorem entries_of_perm {item : Json → Except DecodeError β} {ms ms' : List (String × Json)}
    {es : List (String × β)} (hperm : ms.Perm ms') (h : entries item ms = .ok es) :
    ∃ es', entries item ms' = .ok es' ∧ es'.Perm es := by
  induction hperm generalizing es with
  | nil => exact ⟨es, h, List.Perm.refl _⟩
  | cons m _ ih =>
    obtain ⟨b, hb, rest, hrest, rfl⟩ := entries_cons_eq_ok_iff.mp h
    obtain ⟨rest', hrest', hperm⟩ := ih hrest
    exact ⟨_, entries_cons_eq_ok_iff.mpr ⟨b, hb, rest', hrest', rfl⟩, hperm.cons _⟩
  | swap m₁ m₂ ms =>
    obtain ⟨b₂, hb₂, rest₂, hrest₂, rfl⟩ := entries_cons_eq_ok_iff.mp h
    obtain ⟨b₁, hb₁, rest, hrest, rfl⟩ := entries_cons_eq_ok_iff.mp hrest₂
    refine ⟨(m₁.1, b₁) :: (m₂.1, b₂) :: rest, ?_, List.Perm.swap ..⟩
    exact entries_cons_eq_ok_iff.mpr
      ⟨b₁, hb₁, _, entries_cons_eq_ok_iff.mpr ⟨b₂, hb₂, rest, hrest, rfl⟩, rfl⟩
  | trans _ _ ih₁ ih₂ =>
    obtain ⟨es₁, hes₁, hperm₁⟩ := ih₁ h
    obtain ⟨es₂, hes₂, hperm₂⟩ := ih₂ hes₁
    exact ⟨es₂, hes₂, hperm₂.trans hperm₁⟩

end Decode

namespace Json.Arranges

variable {β : Type} {σ : Json → Json} (hσ : Arranges σ)
include hσ

theorem string (s : String) : Decode.string (σ (.string s)) = .ok s := by
  rw [hσ.inOrder (.string s) rfl]
  rfl

theorem bool (b : Bool) : Decode.bool (σ (.bool b)) = .ok b := by
  rw [hσ.inOrder (.bool b) rfl]
  rfl

theorem word64 (n : UInt64) : Decode.word64 (σ (.ofWord n)) = .ok n := by
  rw [hσ.inOrder (.ofWord n) rfl, ofWord, Decode.word64,
    Decode.integer_natCast n.toNat_lt_size]
  exact congrArg _ UInt64.ofNat_toNat

theorem size64 (n : UInt64) : Decode.size64 (σ (.ofWord n)) = .ok n := by
  rw [hσ.inOrder (.ofWord n) rfl, ofWord, Decode.size64,
    Decode.integer_natCast n.toNat_lt_size]
  exact congrArg _ UInt64.ofNat_toNat

theorem word32 (n : UInt32) : Decode.word32 (σ (.int n.toNat)) = .ok n := by
  rw [hσ.inOrder (.int n.toNat) rfl, Decode.word32, Decode.integer_natCast n.toNat_lt_size]
  exact congrArg _ UInt32.ofNat_toNat

theorem word16 (n : UInt16) : Decode.word16 (σ (.int n.toNat)) = .ok n := by
  rw [hσ.inOrder (.int n.toNat) rfl, Decode.word16, Decode.integer_natCast n.toNat_lt_size]
  exact congrArg _ UInt16.ofNat_toNat

theorem int64 (n : Int64) : Decode.int64 (σ (.int n.toInt)) = .ok n := by
  have hlow : Int64.minValue.toInt ≤ n.toInt := Int64.le_iff_toInt_le.mp n.minValue_le
  have hhigh : n.toInt ≤ Int64.maxValue.toInt := Int64.le_iff_toInt_le.mp n.le_maxValue
  rw [hσ.inOrder (.int n.toInt) rfl, Decode.int64, Decode.integer, if_pos ⟨hlow, hhigh⟩]
  exact congrArg _ (Int64.ofInt_toInt n)

theorem ofFloat {x : Float} (h : Floating.finite x = true) : σ (.ofFloat x) = .float x := by
  rw [Json.ofFloat, if_pos h]
  exact hσ.inOrder (.float x) rfl

theorem float {x : Float} (h : Floating.finite x = true) :
    Decode.option Decode.float (σ (.ofFloat x)) = .ok (some x) := by
  rw [hσ.ofFloat h]
  rfl

theorem single {x : Floating.Single} (h : x.Finite) :
    Decode.option Decode.single (σ (.ofFloat x.value)) = .ok (some x) := by
  rw [hσ.ofFloat h.finite_value, Decode.option, Decode.single, h.round_value]
  · rfl
  · exact Json.noConfusion

theorem any {j : Json} (h : j.InOrder) : Decode.any (σ j) = .ok j := by
  rw [hσ.inOrder j h]
  rfl

theorem option {item : Json → Except DecodeError β} {j : Json} {b : β} (hne : j ≠ .null)
    (h : item (σ j) = .ok b) : Decode.option item (σ j) = .ok (some b) :=
  Decode.option_of_ok (hσ.ne_null j hne) h

theorem given {j : Json} (h : j.Given) : Decode.option Decode.any (σ j) = .ok (some j) :=
  hσ.option h.2 (hσ.any h.1)

theorem orNull {item : Json → Except DecodeError β} {write : β → Json} (value : Option β)
    (h : ∀ b ∈ value, Decode.option item (σ (write b)) = .ok (some b)) :
    Decode.option item (σ (.orNull (value.map write))) = .ok value := by
  cases value with
  | none =>
    rw [Option.map_none, Json.orNull, hσ.inOrder .null rfl]
    rfl
  | some b => exact h b rfl

theorem list {item : Json → Except DecodeError β} (write : β → Json) {bs : List β}
    (h : ∀ b ∈ bs, item (σ (write b)) = .ok b) :
    Decode.list item (σ (.array (bs.map write))) = .ok bs := by
  rw [hσ.array, List.map_map]
  exact Decode.items_of_forall (fun b => σ (write b)) h

theorem values {js : List Json} (h : ∀ j ∈ js, j.InOrder) :
    Decode.list Decode.any (σ (.array js)) = .ok js := by
  have hread := hσ.list id fun j hj => hσ.any (h j hj)
  rwa [List.map_id] at hread

theorem named {item : Json → Except DecodeError β} (write : β → Json) {named : Named β}
    (hnamed : named.Ascending) (h : ∀ e ∈ named, item (σ (write e.2)) = .ok e.2) :
    Decode.named item (σ (.object (named.map fun e => (e.1, write e.2)))) = .ok named := by
  have hnames : (named.map fun e => (e.1, write e.2)).map Prod.fst = named.names := by
    simp [Named.names]
  obtain ⟨ms, hobject, hperm⟩ := hσ.object _ (hnames ▸ hnamed.nodup)
  rw [List.map_map] at hperm
  have hread := Decode.entries_of_forall (fun b => σ (write b)) h
  obtain ⟨es, hes, hentries⟩ := Decode.entries_of_perm hperm.symm hread
  rw [hobject, Decode.named, hes]
  exact congrArg _ (Named.ofList_of_perm hnamed hentries)

theorem namedValues {named : Named Json} (hnamed : named.Ascending)
    (h : ∀ e ∈ named, e.2.InOrder) :
    Decode.named Decode.any (σ (.object named)) = .ok named := by
  have hread := hσ.named id hnamed fun e he => hσ.any (h e he)
  simpa using hread

theorem singleton (name : String) (j : Json) :
    σ (.object [(name, j)]) = .object [(name, σ j)] := by
  obtain ⟨ms, hobject, hperm⟩ := hσ.object [(name, j)] (List.nodup_singleton name)
  rw [hobject, List.perm_singleton.mp hperm]

theorem depth_lt_of_item {j : Json} {js : List Json} (h : j ∈ js) :
    (σ j).depth < (σ (.array js)).depth := by
  rw [hσ.array, depth]
  exact Nat.lt_succ_of_le (depth_le_depthItems (List.mem_map_of_mem h))

theorem depth_lt_of_member {name : String} {j : Json} {ms : List (String × Json)}
    (hnodup : (ms.map Prod.fst).Nodup) (h : (name, j) ∈ ms) :
    (σ j).depth < (σ (.object ms)).depth := by
  obtain ⟨ms', hobject, hperm⟩ := hσ.object ms hnodup
  have hmem : (name, σ j) ∈ ms' := hperm.mem_iff.mpr (List.mem_map.mpr ⟨(name, j), h, rfl⟩)
  rw [hobject, depth]
  exact Nat.lt_succ_of_le (depth_le_depthMembers hmem)

theorem depth_lt_of_field {fields : List (String × Option Json)} (name : String) {j : Json}
    (hnodup : (fields.map Prod.fst).Nodup) (h : (name, some j) ∈ fields) :
    (σ j).depth < (σ (.object (present fields))).depth := by
  have hmem : (name, j) ∈ present fields := mem_present.mpr h
  exact hσ.depth_lt_of_member (hnodup.sublist names_present_sublist) hmem

theorem depth_lt_of_listed {fields : List (String × Option Json)} (name : String)
    (write : β → Json) {bs : List β} {b : β} (hnodup : (fields.map Prod.fst).Nodup)
    (h : (name, items? (bs.map write)) ∈ fields) (hb : b ∈ bs) :
    (σ (write b)).depth < (σ (.object (present fields))).depth := by
  have hsome : items? (bs.map write) = some (.array (bs.map write)) := by
    cases bs with
    | nil => cases hb
    | cons first rest => rfl
  exact Nat.lt_trans (hσ.depth_lt_of_item (List.mem_map_of_mem hb))
    (hσ.depth_lt_of_field name hnodup (hsome ▸ h))

theorem depth_lt_of_entry {write : β → Json} {named : Named β} {e : String × β}
    (hnamed : named.Ascending) (he : e ∈ named) :
    (σ (write e.2)).depth < (σ (.object (named.map fun e => (e.1, write e.2)))).depth := by
  have hnodup : ((named.map fun e => (e.1, write e.2)).map Prod.fst).Nodup := by
    rw [List.map_map]
    exact hnamed.nodup
  have hmem : (e.1, write e.2) ∈ named.map fun e => (e.1, write e.2) :=
    List.mem_map.mpr ⟨e, he, rfl⟩
  exact hσ.depth_lt_of_member hnodup hmem

theorem depth_lt_of_named {fields : List (String × Option Json)} (name : String)
    (write : β → Json) {named : Named β} {e : String × β} (hnamed : named.Ascending)
    (hnodup : (fields.map Prod.fst).Nodup)
    (h : (name, members? (named.map fun e => (e.1, write e.2))) ∈ fields) (he : e ∈ named) :
    (σ (write e.2)).depth < (σ (.object (present fields))).depth := by
  have hsome : members? (named.map fun e => (e.1, write e.2)) =
      some (.object (named.map fun e => (e.1, write e.2))) := by
    cases named with
    | nil => cases he
    | cons first rest => rfl
  exact Nat.lt_trans (hσ.depth_lt_of_entry hnamed he) (hσ.depth_lt_of_field name hnodup (hsome ▸ h))

end Json.Arranges

end DocSearch
