import DocSearch.Proofs.DataValues
import DocSearch.Proofs.Named
import DocSearch.Schema

/-!
# Fields of a mapping

A mapping describes the properties of the documents of an index, and those of objects inside them.
A field is reached by a chain of names, each that of a property inside the definition before it, or
it is another spelling of such a field. The walk through a mapping comes upon the end of every chain
and upon nothing else. In which of the documents the properties come does not matter: each is told
from the others by its names alone.
-/

namespace DocSearch.Schema

open Json (depthMembers)

/-- A chain of names leads from properties to a definition: the first one is that of a property, and
each further one that of a property in the definition before it. -/
inductive Leads : List (String × Json) → List String → Json → Prop
  | single {ps : List (String × Json)} {name : String} {definition : Json} :
      (name, definition) ∈ ps → Leads ps [name] definition
  | inside {ps inner : List (String × Json)} {name : String} {definition last : Json}
      {names : List String} : (name, definition) ∈ ps →
      definition.get? "properties" = some (.object inner) → Leads inner names last →
      Leads ps (name :: names) last

/-- The fields that a definition gives to its path apart from those of properties inside it. -/
def Spells (path : String) (definition : Json) (field : String) : Prop :=
  field = path ∨ ∃ others, definition.get? "fields" = some (.object others) ∧
    ∃ other ∈ others.map Prod.fst, field = path ++ "." ++ other

section Walk

variable {path field : String} {ps ms : List (String × Json)} {definition : Json}

theorem mem_fields : field ∈ fields path ps ↔
    ∃ name definition, (name, definition) ∈ ps ∧
      field ∈ definedFields (join path name) definition := by
  induction ps with
  | nil => simp [fields]
  | cons p ps ih =>
    obtain ⟨name, definition⟩ := p
    rw [fields, List.mem_append, ih]
    constructor
    · rintro (hfirst | ⟨name', definition', hmem, hrest⟩)
      · exact ⟨name, definition, List.mem_cons_self, hfirst⟩
      · exact ⟨name', definition', List.mem_cons_of_mem _ hmem, hrest⟩
    · rintro ⟨name', definition', hmem, hfield⟩
      rcases List.mem_cons.mp hmem with heq | hmem
      · obtain ⟨rfl, rfl⟩ := Prod.mk.inj heq
        exact Or.inl hfield
      · exact Or.inr ⟨name', definition', hmem, hfield⟩

theorem mem_propertyFields : field ∈ propertyFields path ms ↔
    ∃ inner, List.lookup "properties" ms = some (.object inner) ∧ field ∈ fields path inner := by
  induction ms with
  | nil => simp [propertyFields]
  | cons m ms ih =>
    obtain ⟨name, j⟩ := m
    by_cases hname : name = "properties"
    · subst hname
      cases j with
      | object inner => simp [propertyFields]
      | _ => simp [propertyFields]
    · have hskip : propertyFields path ((name, j) :: ms) = propertyFields path ms := by
        cases j with
        | object inner => rw [propertyFields, if_neg hname]
        | _ => simp [propertyFields, hname]
      rw [hskip, ih, lookup_cons_eq_ite, if_neg (Ne.symm hname)]

theorem mem_spellings : field ∈ spellings path ms ↔
    ∃ others, List.lookup "fields" ms = some (.object others) ∧
      ∃ other ∈ others.map Prod.fst, field = path ++ "." ++ other := by
  induction ms with
  | nil => simp [spellings]
  | cons m ms ih =>
    obtain ⟨name, j⟩ := m
    rw [spellings, lookup_cons_eq_ite]
    by_cases hname : name = "fields"
    · rw [if_pos hname, if_pos hname.symm]
      cases j with
      | object others => simp [Json.members, eq_comm]
      | _ => simp [Json.members]
    · rw [if_neg hname, if_neg (Ne.symm hname), ih]

theorem mem_definedFields : field ∈ definedFields path definition ↔
    (∃ inner, definition.get? "properties" = some (.object inner) ∧ field ∈ fields path inner) ∨
      Spells path definition field := by
  cases definition with
  | object ms =>
    rw [definedFields, List.mem_append, List.mem_append, mem_propertyFields, mem_spellings,
      List.mem_singleton, or_assoc, or_comm (b := field = path)]
    rfl
  | _ => simp [definedFields, Spells, Json.get?, Json.members]

theorem depthMembers_lt {inner : List (String × Json)} {name : String}
    (hmem : (name, definition) ∈ ps)
    (hinner : definition.get? "properties" = some (.object inner)) :
    depthMembers inner < depthMembers ps := by
  have hdefinition : definition.depth ≤ depthMembers ps := Json.depth_le_depthMembers hmem
  cases definition with
  | object ms =>
    obtain ⟨before, after, rfl, -⟩ := List.lookup_eq_some_iff.mp hinner
    have hobject : (Json.object inner).depth ≤
        depthMembers (before ++ ("properties", .object inner) :: after) :=
      Json.depth_le_depthMembers (m := ("properties", .object inner)) (by simp)
    rw [Json.depth] at hdefinition hobject
    omega
  | _ => cases hinner

/-- Each field of the walk is at the end of a chain. The definitions inside a property are less deep
than the properties that it is one of. -/
theorem exists_leads_of_mem_fields {path field : String} {ps : List (String × Json)}
    (h : field ∈ fields path ps) :
    ∃ names last, Leads ps names last ∧ Spells (names.foldl join path) last field := by
  obtain ⟨name, definition, hmem, hfield⟩ := mem_fields.mp h
  rcases mem_definedFields.mp hfield with ⟨inner, hinner, hfield⟩ | hspells
  · have hless := depthMembers_lt hmem hinner
    obtain ⟨names, last, hleads, hspells⟩ := exists_leads_of_mem_fields hfield
    exact ⟨name :: names, last, hleads.inside hmem hinner, hspells⟩
  · exact ⟨[name], definition, .single hmem, hspells⟩
termination_by depthMembers ps

theorem mem_fields_of_leads {names : List String} {last : Json} (h : Leads ps names last)
    (hspells : Spells (names.foldl join path) last field) : field ∈ fields path ps := by
  induction h generalizing path with
  | single hmem =>
    apply mem_fields.mpr
    exact ⟨_, _, hmem, mem_definedFields.mpr (Or.inr hspells)⟩
  | inside hmem hinner hleads ih =>
    apply mem_fields.mpr
    exact ⟨_, _, hmem, mem_definedFields.mpr (Or.inl ⟨_, hinner, ih hspells⟩)⟩

end Walk

/-! ### Paths -/

theorem intercalate_point_cons (path name : String) (names : List String) :
    ".".intercalate ((path ++ "." ++ name) :: names) = ".".intercalate (path :: name :: names) := by
  cases names with
  | nil => rw [String.intercalate_cons_cons, String.intercalate_singleton,
      String.intercalate_singleton]
  | cons next names =>
    rw [String.intercalate_cons_cons, String.intercalate_cons_cons, String.intercalate_cons_cons]
    simp only [String.append_assoc]

theorem foldl_join {path : String} (hpath : path ≠ "") (names : List String) :
    names.foldl join path = ".".intercalate (path :: names) := by
  induction names generalizing path with
  | nil => rw [List.foldl_nil, String.intercalate_singleton]
  | cons name names ih =>
    have hjoin : join path name = path ++ "." ++ name := by
      simp [join, hpath]
    have hnext : path ++ "." ++ name ≠ "" := by
      simp [hpath]
    rw [List.foldl_cons, hjoin, ih hnext, intercalate_point_cons]

theorem Leads.exists_cons {ps : List (String × Json)} {names : List String} {last : Json}
    (h : Leads ps names last) :
    ∃ name rest, names = name :: rest ∧ name ∈ ps.map Prod.fst := by
  cases h with
  | single hmem => exact ⟨_, _, rfl, List.mem_map.mpr ⟨_, hmem, rfl⟩⟩
  | inside hmem _ _ => exact ⟨_, _, rfl, List.mem_map.mpr ⟨_, hmem, rfl⟩⟩

/-- A path that begins nowhere has no point before its first name, which is then not to be empty. -/
theorem Leads.foldl_join {ps : List (String × Json)} {names : List String} {last : Json}
    (h : Leads ps names last) (hps : "" ∉ ps.map Prod.fst) :
    names.foldl join "" = ".".intercalate names := by
  obtain ⟨name, rest, rfl, hmem⟩ := h.exists_cons
  have hname : name ≠ "" := by
    rintro rfl
    exact hps hmem
  have hfirst : join "" name = name := by simp [join]
  rw [List.foldl_cons, hfirst, Schema.foldl_join hname]

/-! ### Where the properties stand -/

/-- A name that is none of the words by which mappings are told. -/
def IsOwnName (name : String) : Prop := name ≠ "mappings" ∧ name ≠ "properties"

instance (name : String) : Decidable (IsOwnName name) :=
  inferInstanceAs (Decidable (name ≠ "mappings" ∧ name ≠ "properties"))

/-- A mapping with properties, which may stand under the name of a type. -/
inductive Holds (ps : List (String × Json)) : Json → Prop
  | plain : Holds ps (.object [("properties", .object ps)])
  | typed {type : String} : IsOwnName type →
      Holds ps (.object [(type, .object [("properties", .object ps)])])

/-- A description of an index with properties: a mapping, a document that holds it, or such a
document under the name of the index. -/
inductive Describes (ps : List (String × Json)) : Json → Prop
  | mapping {j : Json} : Holds ps j → Describes ps j
  | document {j : Json} : Holds ps j → Describes ps (.object [("mappings", j)])
  | index {name : String} {j : Json} : IsOwnName name → Holds ps j →
      Describes ps (.object [(name, .object [("mappings", j)])])

section Descriptions

variable {ps : List (String × Json)} {j : Json} {name word : String}

theorem get?_object (ms : List (String × Json)) (name : String) :
    (Json.object ms).get? name = List.lookup name ms := rfl

theorem get?_only (name : String) (j : Json) : (Json.object [(name, j)]).get? name = some j := by
  rw [get?_object, lookup_cons_eq_ite, if_pos rfl]

theorem get?_only_of_ne (h : name ≠ word) : (Json.object [(name, j)]).get? word = none := by
  rw [get?_object, lookup_cons_eq_ite, if_neg (Ne.symm h), List.lookup_nil]

theorem object?_object (ms : List (String × Json)) : (Json.object ms).object? = some ms := rfl

theorem typeProperties_of_get? {ms : List (String × Json)}
    (h : (Json.object ms).get? "properties" = some j) :
    typeProperties (.object ms) = j.object? := by
  rw [get?_object] at h
  simp [typeProperties, object?_object, h]

/-- The only member of a mapping without properties of its own stands for a type, unless it is a
field of some kind. -/
theorem typeProperties_only (h : name ≠ "properties") (hkind : j.get? "type" = none) :
    typeProperties (.object [(name, j)]) = (j.get? "properties").bind Json.object? := by
  have hnone := get?_only_of_ne (j := j) h
  rw [get?_object] at hnone
  simp [typeProperties, object?_object, hnone, onlyMember, hkind]

theorem properties_of_get? {ms : List (String × Json)}
    (h : (Json.object ms).get? "mappings" = some j) :
    properties (.object ms) = typeProperties j := by
  rw [get?_object] at h
  simp [properties, object?_object, h]

theorem properties_only (h : name ≠ "mappings") : properties (.object [(name, j)]) =
    (typeProperties (.object [(name, j)])).or ((j.get? "mappings").bind typeProperties) := by
  have hnone := get?_only_of_ne (j := j) h
  rw [get?_object] at hnone
  simp [properties, object?_object, hnone, onlyMember]

theorem typeProperties_of_holds (h : Holds ps j) : typeProperties j = some ps := by
  cases h with
  | plain => rw [typeProperties_of_get? (get?_only _ _), object?_object]
  | typed hname =>
    have hkind : (Json.object [("properties", .object ps)]).get? "type" = none :=
      get?_only_of_ne (by decide)
    rw [typeProperties_only hname.2 hkind, get?_only, Option.bind_some, object?_object]

theorem properties_of_holds (h : Holds ps j) : properties j = some ps := by
  have hfound := typeProperties_of_holds h
  cases h with
  | plain => rw [properties_only (by decide), hfound, Option.some_or]
  | typed hname => rw [properties_only hname.1, hfound, Option.some_or]

/-- What holds the properties has no properties of its own under the name of an index, and so is
looked for one level below. -/
theorem properties_of_describes (h : Describes ps j) : properties j = some ps := by
  cases h with
  | mapping hj => exact properties_of_holds hj
  | document hj => rw [properties_of_get? (get?_only _ _), typeProperties_of_holds hj]
  | @index name j hname hj =>
    have hkind : (Json.object [("mappings", j)]).get? "type" = none := get?_only_of_ne (by decide)
    have hnone : (Json.object [("mappings", j)]).get? "properties" = none :=
      get?_only_of_ne (by decide)
    rw [properties_only hname.1, typeProperties_only hname.2 hkind, hnone, get?_only,
      Option.bind_none, Option.bind_some, typeProperties_of_holds hj, Option.none_or]

end Descriptions

theorem contains_ofNames {names : List String} {field : String} :
    (ofNames names).contains field = true ↔ field ∈ names := by
  rw [contains, ofNames, List.contains_iff_mem, mem_sortNames]

/-- **A schema has the fields of its mapping.** All documents that describe an index by properties,
also under the name of a type, of the index or of both, give one schema, provided that no property
has an empty name. It has the names of all chains through the properties, put together with points,
and with one more point the other spellings of the definitions at their ends, and nothing else. -/
theorem ofMapping_contains_iff {ps : List (String × Json)} (hps : "" ∉ ps.map Prod.fst) :
    ∃ s : Schema, (∀ mapping, Describes ps mapping → ofMapping mapping = .ok s) ∧
      ∀ field, s.contains field = true ↔
        ∃ names last, Leads ps names last ∧
          (field = ".".intercalate names ∨
            ∃ others, last.get? "fields" = some (.object others) ∧
              ∃ other ∈ others.map Prod.fst, field = ".".intercalate names ++ "." ++ other) := by
  refine ⟨ofNames (fields "" ps), fun mapping h => ?same, fun field => ?fields⟩
  case same =>
    rw [ofMapping, properties_of_describes h]
  case fields =>
    rw [contains_ofNames]
    constructor
    · intro h
      obtain ⟨names, last, hleads, hspells⟩ := exists_leads_of_mem_fields h
      rw [hleads.foldl_join hps] at hspells
      exact ⟨names, last, hleads, hspells⟩
    · rintro ⟨names, last, hleads, hspells⟩
      rw [← hleads.foldl_join hps] at hspells
      exact mem_fields_of_leads hleads hspells

def actorProperties : List (String × Json) :=
  [("name", .object [("fields", .object [("exact", .object [])])]), ("age", .null)]

/-- Properties of films: the cast has properties and another spelling, and a note is no object. -/
def filmProperties : List (String × Json) :=
  [("title", .object [("type", .string "text")]), ("note", .int 1),
    ("cast", .object
      [("fields", .object [("size", .null)]), ("properties", .object actorProperties)])]

theorem film_contains :
    "" ∉ filmProperties.map Prod.fst ∧
    ∃ s : Schema,
      ofMapping (.object [("properties", .object filmProperties)]) = .ok s ∧
      ofMapping (.object [("films", .object [("mappings",
        .object [("film", .object [("properties", .object filmProperties)])])])]) = .ok s ∧
      s.contains "cast.size" = true ∧ s.contains "cast.name.exact" = true ∧
      s.contains "note" = true := by
  have hps : "" ∉ filmProperties.map Prod.fst := by decide
  have hcast : filmProperties[2] ∈ filmProperties := List.getElem_mem _
  have hname : actorProperties[0] ∈ actorProperties := List.getElem_mem _
  have hnote : filmProperties[1] ∈ filmProperties := List.getElem_mem _
  obtain ⟨s, hsame, hcontains⟩ := ofMapping_contains_iff hps
  refine ⟨hps, s, hsame _ (.mapping .plain), ?typed, ?size, ?exact, ?note⟩
  case typed =>
    exact hsame _ (.index (by decide) (.typed (by decide)))
  case size =>
    exact (hcontains _).mpr ⟨_, _, .single hcast, Or.inr ⟨_, rfl, "size", by decide, by decide⟩⟩
  case exact =>
    exact (hcontains _).mpr ⟨_, _, .inside hcast rfl (.single hname),
      Or.inr ⟨_, rfl, "exact", by decide, by decide⟩⟩
  case note =>
    exact (hcontains _).mpr ⟨_, _, .single hnote, Or.inl (by decide)⟩

end DocSearch.Schema
