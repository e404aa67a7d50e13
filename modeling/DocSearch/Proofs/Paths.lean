import DocSearch.Corpus.Match
import DocSearch.Predicate
import Mathlib.Data.List.TakeWhile

/-!
# Paths into nested objects

A nested query looks at an object under its path as if it were the only one: the object is put back
at the path, and its fields are read by their full names. Here this is shown to be the same as
reading the last name of a field in the object alone.
-/

namespace DocSearch

/-- The name of a field below its path: what stands after the last point. -/
def leafName (field : String) : String :=
  String.ofList (field.toList.reverse.takeWhile (· != '.')).reverse

theorem point_not_mem_leafName (field : String) : '.' ∉ (leafName field).toList := by
  intro hmem
  rw [leafName, String.toList_ofList, List.mem_reverse] at hmem
  simpa using List.mem_takeWhile_imp hmem

/-- A field with a path is the path and the last name with a point between them. -/
theorem toList_of_nestedPath {field path : String} (h : nestedPath field = some path) :
    field.toList = path.toList ++ '.' :: (leafName field).toList := by
  have hsplit := List.takeWhile_append_dropWhile (p := (· != '.')) (l := field.toList.reverse)
  unfold nestedPath at h
  cases hdrop : field.toList.reverse.dropWhile (· != '.') with
  | nil => simp [hdrop] at h
  | cons c before =>
    have hpoint : c = '.' := by
      have hhead := List.head?_dropWhile_not (· != '.') field.toList.reverse
      rw [hdrop] at hhead
      simpa using hhead
    rw [hdrop] at h hsplit
    obtain ⟨-, hpath⟩ : before ≠ [] ∧ String.ofList before.reverse = path := by simpa using h
    have hreverse := congrArg List.reverse hsplit
    rw [← hpath, String.toList_ofList, leafName, String.toList_ofList]
    simpa [hpoint] using hreverse.symm

theorem nestedPath_append {path leaf : String} (hleaf : '.' ∉ leaf.toList) :
    (nestedPath (path ++ "." ++ leaf)).getD "" = path := by
  have hdrop : (path ++ "." ++ leaf).toList.reverse.dropWhile (· != '.') =
      '.' :: path.toList.reverse := by
    have hpass : ∀ c ∈ leaf.toList.reverse, (c != '.') = true := by
      intro c hc
      rw [List.mem_reverse] at hc
      exact bne_iff_ne.mpr fun heq => hleaf (heq ▸ hc)
    rw [String.toList_append, String.toList_append, List.reverse_append, List.reverse_append,
      List.dropWhile_append_of_pos hpass]
    rfl
  unfold nestedPath
  rw [hdrop]
  by_cases hpath : path = ""
  · simp [hpath]
  · simp [hpath]

theorem nestedPath_of_not_mem {field : String} (h : '.' ∉ field.toList) :
    nestedPath field = none := by
  have hdrop : field.toList.reverse.dropWhile (· != '.') = [] := by
    rw [List.dropWhile_eq_nil_iff]
    intro c hc
    rw [List.mem_reverse] at hc
    exact bne_iff_ne.mpr fun heq => h (heq ▸ hc)
  unfold nestedPath
  rw [hdrop]

theorem exists_split_at_point {field : String} (h : '.' ∈ field.toList) :
    ∃ path leaf : String, '.' ∉ leaf.toList ∧ field = path ++ "." ++ leaf := by
  obtain ⟨after, before, hsplit, hafter⟩ := List.eq_append_cons_of_mem (List.mem_reverse.mpr h)
  refine ⟨String.ofList before.reverse, String.ofList after.reverse, by simpa using hafter, ?_⟩
  rw [← String.toList_inj]
  simpa using congrArg List.reverse hsplit

/-- The path of a field is what stands before its last point, and empty if there is none. -/
theorem nestedPath_getD_eq_iff {field path : String} :
    (nestedPath field).getD "" = path ↔
      (∃ leaf : String, '.' ∉ leaf.toList ∧ field = path ++ "." ++ leaf) ∨
        '.' ∉ field.toList ∧ path = "" := by
  constructor
  · rintro rfl
    by_cases hpoint : '.' ∈ field.toList
    · obtain ⟨path, leaf, hleaf, rfl⟩ := exists_split_at_point hpoint
      exact Or.inl ⟨leaf, hleaf, by rw [nestedPath_append hleaf]⟩
    · exact Or.inr ⟨hpoint, by rw [nestedPath_of_not_mem hpoint]; rfl⟩
  · rintro (⟨leaf, hleaf, rfl⟩ | ⟨hpoint, rfl⟩)
    · exact nestedPath_append hleaf
    · rw [nestedPath_of_not_mem hpoint]
      rfl

/-! ### Parts of a path -/

theorem parts_append_point (read before after : List Char) :
    pathParts.parts read (before ++ '.' :: after) =
      pathParts.parts read before ++ pathParts.parts [] after := by
  induction before generalizing read with
  | nil => simp [pathParts.parts]
  | cons c before ih =>
    by_cases hpoint : c = '.'
    · simp [pathParts.parts, hpoint, ih]
    · simp [pathParts.parts, hpoint, ih]

theorem parts_of_not_mem {s : List Char} (h : '.' ∉ s) (read : List Char) :
    pathParts.parts read s = [String.ofList (read.reverse ++ s)] := by
  induction s generalizing read with
  | nil => simp [pathParts.parts]
  | cons c s ih =>
    obtain ⟨hc, hs⟩ : '.' ≠ c ∧ '.' ∉ s := by simpa using h
    rw [pathParts.parts, if_neg hc.symm, ih hs]
    simp

theorem pathParts_leafName (field : String) : pathParts (leafName field) = [leafName field] := by
  rw [pathParts, parts_of_not_mem (point_not_mem_leafName field)]
  simp

theorem pathParts_of_nestedPath {field path : String} (h : nestedPath field = some path) :
    pathParts field = pathParts path ++ [leafName field] := by
  rw [← pathParts_leafName, pathParts, pathParts, pathParts, toList_of_nestedPath h,
    parts_append_point]

/-! ### Values of an object that is put back at its path -/

/-- The values that a list of names leads to. -/
def descend (names : List String) (found : List Json) : List Json :=
  names.foldl (fun found name => found.flatMap (Json.step name)) found

theorem valuesAt_eq_descend (doc : Json) (path : String) :
    valuesAt doc path = (descend (pathParts path) [doc]).flatMap Json.spread := rfl

theorem descend_append (names more : List String) (found : List Json) :
    descend (names ++ more) found = descend more (descend names found) :=
  List.foldl_append

theorem descend_placeAt (item : Json) (names : List String) :
    descend names [placeAt item names] = [item] := by
  induction names with
  | nil => rfl
  | cons name names ih =>
    have hstep : Json.step name (placeAt item (name :: names)) = [placeAt item names] := by
      simp [placeAt, Json.step]
    change descend names ([placeAt item (name :: names)].flatMap (Json.step name)) = [item]
    rw [List.flatMap_singleton, hstep, ih]

/-- A field read by its full name in an object at its path has the values that its last name has in
the object itself. -/
theorem valuesAt_placeAt {field path : String} (h : nestedPath field = some path) (item : Json) :
    valuesAt (placeAt item (pathParts path)) field = valuesAt item (leafName field) := by
  rw [valuesAt_eq_descend, valuesAt_eq_descend, pathParts_of_nestedPath h, descend_append,
    descend_placeAt, pathParts_leafName]

end DocSearch
