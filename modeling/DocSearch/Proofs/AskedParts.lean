import DocSearch.Proofs.DataValues
import DocSearch.Proofs.Named
import DocSearch.Proofs.Records
import DocSearch.Response.Wire

/-!
# The part of a value that is asked for

What a type asks for of a data value is all that its reading depends on: two values with the same
part are read alike. This is so for a record if it is for each of its fields, whether the record is
written as an object or as a list. Bringing a value into order leaves the part that is asked for.
-/

namespace DocSearch.Json

mutual

/-- A value in which nothing is put in place of what is not asked for. -/
def Asked.part (asked : Asked) (a : Json) : Json :=
  match asked, a with
  | .nothing, _ => .null
  | asked, .array items => .array (Asked.partItems asked 0 items)
  | asked, .object ms => .object (Asked.partMembers asked ms)
  | _, a => a
termination_by structural a

def Asked.partItems (asked : Asked) (place : Nat) (as : List Json) : List Json :=
  match as with
  | [] => []
  | a :: as => (asked.ofItem place).part a :: Asked.partItems asked (place + 1) as
termination_by structural as

def Asked.partMembers (asked : Asked) (ms : List (String × Json)) : List (String × Json) :=
  match ms with
  | [] => []
  | (name, a) :: ms => (name, (asked.ofMember name).part a) :: Asked.partMembers asked ms
termination_by structural ms

end

namespace Asked

section Parts

variable {asked : Asked} {a : Json} {items : List Json} {ms : List (String × Json)}

theorem all_ne_nothing : Asked.all ≠ .nothing := nofun

theorem record_ne_nothing (fields : List (String × Asked)) : Asked.record fields ≠ .nothing := nofun

theorem each_ne_nothing (item : Asked) : Asked.each item ≠ .nothing := nofun

theorem part_nothing (a : Json) : Asked.nothing.part a = .null := by
  cases a <;> rfl

theorem part_array (h : asked ≠ .nothing) (items : List Json) :
    asked.part (.array items) = .array (asked.partItems 0 items) := by
  cases asked with
  | nothing => exact absurd rfl h
  | all | record | each => rfl

theorem part_object (h : asked ≠ .nothing) (ms : List (String × Json)) :
    asked.part (.object ms) = .object (asked.partMembers ms) := by
  cases asked with
  | nothing => exact absurd rfl h
  | all | record | each => rfl

theorem part_plain (h : asked ≠ .nothing) (ha : a.depth = 0) : asked.part a = a := by
  cases a with
  | array | object => cases ha
  | null | bool | int | float | string =>
    cases asked with
    | nothing => exact absurd rfl h
    | all | record | each => rfl

theorem partMembers_eq_map (ms : List (String × Json)) :
    asked.partMembers ms = ms.map fun m => (m.1, (asked.ofMember m.1).part m.2) := by
  induction ms with
  | nil => rfl
  | cons m ms ih => rw [partMembers, ih, List.map_cons]

theorem partItems_eq_map {item : Asked} (h : ∀ place, asked.ofItem place = item) (place : Nat)
    (items : List Json) : asked.partItems place items = items.map item.part := by
  induction items generalizing place with
  | nil => rfl
  | cons a items ih => rw [partItems, h, ih, List.map_cons]

theorem length_partItems (place : Nat) (items : List Json) :
    (asked.partItems place items).length = items.length := by
  induction items generalizing place with
  | nil => rfl
  | cons a items ih => rw [partItems, List.length_cons, List.length_cons, ih]

theorem part_all (a : Json) : Asked.all.part a = a := by
  induction a using induct with
  | leaf a ha => exact part_plain all_ne_nothing ha
  | array items ih =>
    rw [part_array all_ne_nothing, partItems_eq_map fun _ => rfl, List.map_congr_left ih,
      List.map_id']
  | object ms ih =>
    have hms : ∀ m ∈ ms, (m.1, (Asked.all.ofMember m.1).part m.2) = m :=
      fun m hm => Prod.ext rfl (ih m hm)
    rw [part_object all_ne_nothing, partMembers_eq_map, List.map_congr_left hms, List.map_id']

/-! ### Fields of a record -/

theorem ofMember_record {before after : List (String × Asked)} {field : String}
    (hnodup : ((before ++ (field, asked) :: after).map Prod.fst).Nodup) :
    (Asked.record (before ++ (field, asked) :: after)).ofMember field = asked := by
  have hother : ∀ p ∈ before, field ≠ p.1 := by
    intro p hp heq
    rw [List.map_append, List.map_cons, List.nodup_append] at hnodup
    exact hnodup.2.2 p.1 (List.mem_map.mpr ⟨p, hp, rfl⟩) field List.mem_cons_self heq.symm
  have hlookup : List.lookup field (before ++ (field, asked) :: after) = some asked :=
    List.lookup_eq_some_iff.mpr ⟨before, after, rfl, fun p hp => by simpa using hother p hp⟩
  rw [Asked.ofMember, hlookup, Option.getD_some]

/-- Each of the fields that are asked for whole is looked at whole. -/
theorem ofMember_fields {names : List String} {field : String} (h : field ∈ names) :
    (Asked.fields names).ofMember field = .all := by
  induction names with
  | nil => cases h
  | cons name names ih =>
    rw [Asked.fields, List.map_cons, Asked.ofMember, List.lookup_cons]
    by_cases heq : field = name
    · rw [beq_iff_eq.mpr heq]
      rfl
    · rw [beq_false_of_ne heq]
      exact ih (List.mem_of_ne_of_mem heq h)

/-- The items of a record are in the order of its fields. -/
theorem zip_partItems (before : List (String × Asked)) {after : List (String × Asked)}
    (js : List Json) (hnodup : ((before ++ after).map Prod.fst).Nodup) :
    (after.map Prod.fst).zip ((Asked.record (before ++ after)).partItems before.length js) =
      (Asked.record (before ++ after)).partMembers ((after.map Prod.fst).zip js) := by
  induction after generalizing before js with
  | nil => rfl
  | cons f after ih =>
    obtain ⟨field, asked⟩ := f
    cases js with
    | nil => rfl
    | cons j js =>
      have hitem :
          (Asked.record (before ++ (field, asked) :: after)).ofItem before.length = asked := by
        simp [Asked.ofItem]
      have hrest := ih (before ++ [(field, asked)]) js (by simpa using hnodup)
      rw [List.append_assoc, List.singleton_append, List.length_append,
        List.length_singleton] at hrest
      rw [Asked.partItems, List.map_cons, List.zip_cons_cons, List.zip_cons_cons, hitem,
        Asked.partMembers, ofMember_record hnodup, hrest]

/-! ### Order -/

theorem normalize_plain (h : a.depth = 0) : a.normalize = a := by
  cases a with
  | array | object => cases h
  | null | bool | int | float | string => rfl

theorem normalizeItems_partItems
    (h : ∀ a ∈ items, ∀ asked : Asked, (asked.part a).normalize = asked.part a.normalize)
    (place : Nat) :
    normalizeItems (asked.partItems place items) =
      asked.partItems place (normalizeItems items) := by
  induction items generalizing place with
  | nil => rfl
  | cons a items ih =>
    obtain ⟨ha, hitems⟩ := List.forall_mem_cons.mp h
    rw [partItems, normalizeItems, normalizeItems, partItems, ha, ih hitems]

theorem normalizeMembers_partMembers
    (h : ∀ m ∈ ms, ∀ asked : Asked, (asked.part m.2).normalize = asked.part m.2.normalize) :
    normalizeMembers (asked.partMembers ms) = asked.partMembers (normalizeMembers ms) := by
  induction ms with
  | nil => rfl
  | cons m ms ih =>
    obtain ⟨hm, hms⟩ := List.forall_mem_cons.mp h
    rw [partMembers, normalizeMembers, normalizeMembers, partMembers, hm, ih hms]

theorem normalize_part_nothing (a : Json) :
    (Asked.nothing.part a).normalize = Asked.nothing.part a.normalize := by
  rw [part_nothing, part_nothing]
  rfl

/-- What is asked for of a member depends on its name only, so it does not matter which of the
members with one name stays. -/
theorem normalize_part (asked : Asked) (a : Json) :
    (asked.part a).normalize = asked.part a.normalize := by
  induction a using induct generalizing asked with
  | leaf a ha =>
    by_cases hasked : asked = .nothing
    · rw [hasked, normalize_part_nothing]
    · rw [normalize_plain ha, part_plain hasked ha, normalize_plain ha]
  | array items ih =>
    by_cases hasked : asked = .nothing
    · rw [hasked, normalize_part_nothing]
    · rw [part_array hasked, normalize, normalize, part_array hasked, normalizeItems_partItems ih]
  | object ms ih =>
    by_cases hasked : asked = .nothing
    · rw [hasked, normalize_part_nothing]
    · rw [part_object hasked, normalize, normalize, part_object hasked,
        normalizeMembers_partMembers ih, partMembers_eq_map, partMembers_eq_map,
        Named.ofList_map fun name => (asked.ofMember name).part]

end Parts

end Asked

end DocSearch.Json

namespace DocSearch

open Json (Asked)

namespace Decode

variable {α β : Type}

/-- What is asked for of a value is all that its reading depends on. -/
def Suffices (asked : Asked) (item : Json → Except DecodeError α) : Prop :=
  ∀ j, item (asked.part j) = item j

theorem suffices_all (item : Json → Except DecodeError α) : Suffices .all item := by
  intro j
  rw [Asked.part_all]

section Items

variable {asked : Asked} {item : Json → Except DecodeError α}

theorem Suffices.option (h : Suffices asked item) (hasked : asked ≠ .nothing) :
    Suffices asked (option item) := by
  intro j
  cases j with
  | null => rw [Asked.part_plain hasked rfl]
  | bool | int | float | string => rw [Asked.part_plain hasked rfl]
  | array js =>
    have hj := h (.array js)
    rw [Asked.part_array hasked] at hj ⊢
    exact congrArg (Except.map some) hj
  | object ms =>
    have hj := h (.object ms)
    rw [Asked.part_object hasked] at hj ⊢
    exact congrArg (Except.map some) hj

theorem Suffices.items (h : Suffices asked item) (js : List Json) :
    items item (js.map asked.part) = Decode.items item js := by
  induction js with
  | nil => rfl
  | cons j js ih => rw [List.map_cons, Decode.items, Decode.items, h, ih]

theorem Suffices.list (h : Suffices asked item) : Suffices (.each asked) (list item) := by
  intro j
  cases j with
  | array js =>
    rw [Asked.part_array (Asked.each_ne_nothing _), Asked.partItems_eq_map fun _ => rfl]
    exact h.items js
  | null | bool | int | float | string | object => rfl

theorem Suffices.entries (h : Suffices asked item) (ms : List (String × Json)) :
    entries item (ms.map fun m => (m.1, asked.part m.2)) = Decode.entries item ms := by
  induction ms with
  | nil => rfl
  | cons m ms ih => rw [List.map_cons, Decode.entries, Decode.entries, h, ih]

theorem Suffices.named (h : Suffices asked item) : Suffices (.each asked) (named item) := by
  intro j
  cases j with
  | object ms =>
    rw [Asked.part_object (Asked.each_ne_nothing _), Asked.partMembers_eq_map]
    exact congrArg (Except.map Named.ofList) (h.entries ms)
  | null | bool | int | float | string | array => rfl

end Items

section Records

variable {fields : List (String × Asked)} {names : List String} {asked : Asked}
variable {item : Json → Except DecodeError α} {field : String}

/-- A record with the part of each member that is asked for under its name. -/
def Record.part (r : Record) (asked : Asked) : Record :=
  { r with members := asked.partMembers r.members }

theorem record_part (hnames : fields.map Prod.fst = names) (hnodup : names.Nodup) (name : String)
    (j : Json) : record name names ((Asked.record fields).part j) =
      (record name names j).map fun r => r.part (.record fields) := by
  subst hnames
  cases j with
  | null | bool | int | float | string => rfl
  | object ms =>
    rw [Asked.part_object (Asked.record_ne_nothing _)]
    rfl
  | array js =>
    have hzip := Asked.zip_partItems [] js hnodup
    rw [Asked.part_array (Asked.record_ne_nothing _), record, record, Asked.length_partItems]
    exact congrArg (fun ms => Except.ok (Record.mk name _ ms _)) hzip

theorem occurrences_part (field : String) (place : Nat) (ms : List (String × Json)) :
    occurrences [field] place (asked.partMembers ms) =
      (occurrences [field] place ms).map fun o => (o.1, (asked.ofMember field).part o.2) := by
  induction ms generalizing place with
  | nil => rfl
  | cons m ms ih =>
    obtain ⟨name, j⟩ := m
    rw [Asked.partMembers, occurrences, occurrences]
    by_cases hname : name = field
    · subst hname
      simp [ih]
    · simp [hname, ih]

theorem Record.slot_part (r : Record) (h : Suffices (asked.ofMember field) item) :
    (r.part asked).slot field item = r.slot field item := by
  rw [Record.slot, Record.slot, Record.slotAs, Record.slotAs, Record.part, occurrences_part]
  cases occurrences [field] 0 r.members with
  | nil => rfl
  | cons o more =>
    obtain ⟨place, j⟩ := o
    simp only [List.map_cons, h j]
    cases item j with
    | error e => rfl
    | ok a =>
      cases more with
      | nil => rfl
      | cons again more => rfl

@[simp]
theorem Record.check_part (r : Record) (asked : Asked)
    (faults : List (Option (Nat × DecodeError))) : (r.part asked).check faults = r.check faults :=
  rfl

@[simp]
theorem Record.required_part (r : Record) (asked : Asked) (field : String) (s : Slot α) :
    (r.part asked).required field s = r.required field s := rfl

theorem Record.slot_part_fields (r : Record) (h : field ∈ names) :
    (r.part (.fields names)).slot field item = r.slot field item :=
  r.slot_part (Asked.ofMember_fields h ▸ suffices_all item)

/-- What suffices for each field suffices for a record. -/
theorem suffices_record (asked : Asked) (hasked : asked = .record fields)
    (hnames : fields.map Prod.fst = names) (hnodup : names.Nodup) {name : String}
    {decode : Json → Except DecodeError α} {finish : Record → Except DecodeError α}
    (hdecode : ∀ j, decode j = record name names j >>= finish)
    (h : ∀ r : Record, finish (r.part asked) = finish r) : Suffices asked decode := by
  subst hasked
  intro j
  rw [hdecode, hdecode, record_part hnames hnodup]
  cases record name names j with
  | error e => rfl
  | ok r => exact h r

end Records

theorem suffices_totalHits : Suffices TotalHits.asked TotalHits.decode := by
  refine suffices_record TotalHits.asked rfl rfl (by decide) (fun _ => rfl) fun r => ?_
  simp [TotalHits.asked, Record.slot_part_fields]

theorem suffices_hit : Suffices Hit.asked Hit.decode := by
  refine suffices_record Hit.asked rfl rfl (by decide) (fun _ => rfl) fun r => ?_
  simp [Hit.asked, Record.slot_part_fields]

theorem suffices_hits : Suffices Hits.asked Hits.decode := by
  refine suffices_record Hits.asked rfl rfl (by decide) (fun _ => rfl) fun r => ?_
  have htotal : Suffices (Hits.asked.ofMember "total") (option TotalHits.decode) :=
    suffices_totalHits.option nofun
  have hscore : Suffices (Hits.asked.ofMember "max_score") (option single) := suffices_all _
  have hhits : Suffices (Hits.asked.ofMember "hits") (list Hit.decode) := suffices_hit.list
  simp [Record.slot_part, htotal, hscore, hhits]

theorem suffices_searchResponse : Suffices SearchResponse.asked SearchResponse.decode := by
  refine suffices_record SearchResponse.asked rfl rfl (by decide) (fun _ => rfl) fun r => ?_
  have htook : Suffices (SearchResponse.asked.ofMember "took") word64 := suffices_all _
  have htimed : Suffices (SearchResponse.asked.ofMember "timed_out") bool := suffices_all _
  have hhits : Suffices (SearchResponse.asked.ofMember "hits") Hits.decode := suffices_hits
  have haggs : Suffices (SearchResponse.asked.ofMember "aggregations") (option (named any)) :=
    suffices_all _
  simp [Record.slot_part, htook, htimed, hhits, haggs]

theorem suffices_count : Suffices countAsked decodeCount := by
  refine suffices_record countAsked rfl rfl (by decide) (fun _ => rfl) fun r => ?_
  simp [countAsked, Record.slot_part_fields]

theorem suffices_getResponse : Suffices GetResponse.asked GetResponse.decode := by
  refine suffices_record GetResponse.asked rfl rfl (by decide) (fun _ => rfl) fun r => ?_
  simp [GetResponse.asked, Record.slot_part_fields]

theorem suffices_bulkResult : Suffices BulkResult.asked BulkResult.decode := by
  refine suffices_record BulkResult.asked rfl rfl (by decide) (fun _ => rfl) fun r => ?_
  simp [BulkResult.asked, Record.slot_part_fields]

theorem suffices_bulkItem : Suffices BulkItem.asked BulkItem.decode := suffices_bulkResult.named

theorem suffices_writeResponse : Suffices WriteResponse.asked WriteResponse.decode := by
  refine suffices_record WriteResponse.asked rfl rfl (by decide) (fun _ => rfl) fun r => ?_
  have htook : Suffices (WriteResponse.asked.ofMember "took") word64 := suffices_all _
  have herrors : Suffices (WriteResponse.asked.ofMember "errors") bool := suffices_all _
  have hitems : Suffices (WriteResponse.asked.ofMember "items") (list BulkItem.decode) :=
    suffices_bulkItem.list
  simp [Record.slot_part, htook, herrors, hitems]

theorem suffices_writeByQueryResponse :
    Suffices WriteByQueryResponse.asked WriteByQueryResponse.decode := by
  refine suffices_record WriteByQueryResponse.asked rfl rfl (by decide) (fun _ => rfl) fun r => ?_
  simp [WriteByQueryResponse.asked, Record.slot_part_fields]

end Decode

end DocSearch
