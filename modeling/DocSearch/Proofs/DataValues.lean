import DocSearch.Json.Basic
import DocSearch.Proofs.Outcome

/-!
# Data values by their parts

What holds of leaves, and of arrays and objects if it does of what they are made of, holds of all
values. The numbers in a value and the depth to which it goes are those of its parts.
-/

namespace DocSearch.Json

/-- A value is a leaf, or it is made of values that are less. -/
@[elab_as_elim]
theorem induct {P : Json → Prop} (leaf : ∀ a, a.depth = 0 → P a)
    (array : ∀ items, (∀ a ∈ items, P a) → P (.array items))
    (object : ∀ ms, (∀ m ∈ ms, P m.2) → P (.object ms)) (a : Json) : P a :=
  @Json.rec P (fun items => ∀ a ∈ items, P a) (fun ms => ∀ m ∈ ms, P m.2) (fun m => P m.2)
    (leaf _ rfl) (fun _ => leaf _ rfl) (fun _ => leaf _ rfl) (fun _ => leaf _ rfl)
    (fun _ => leaf _ rfl) array object
    (fun _ ha => nomatch ha) (fun _ _ h hs => List.forall_mem_cons.mpr ⟨h, hs⟩)
    (fun _ hm => nomatch hm) (fun _ _ h hs => List.forall_mem_cons.mpr ⟨h, hs⟩)
    (fun _ _ h => h) a

mutual

/-- The numbers in a value. -/
def numbers (a : Json) : List Json :=
  match a with
  | .int n => [.int n]
  | .float x => [.float x]
  | .array items => numbersOfItems items
  | .object ms => numbersOfMembers ms
  | _ => []
termination_by structural a

def numbersOfItems (as : List Json) : List Json :=
  match as with
  | [] => []
  | a :: as => numbers a ++ numbersOfItems as
termination_by structural as

def numbersOfMembers (as : List (String × Json)) : List Json :=
  match as with
  | [] => []
  | (_, a) :: as => numbers a ++ numbersOfMembers as
termination_by structural as

end

section Parts

variable {a n : Json} {items : List Json} {ms : List (String × Json)} {m : String × Json}

theorem mem_numbersOfItems : n ∈ numbersOfItems items ↔ ∃ a ∈ items, n ∈ a.numbers := by
  induction items with
  | nil => simp [numbersOfItems]
  | cons b items ih => simp [numbersOfItems, ih]

theorem mem_numbersOfMembers : n ∈ numbersOfMembers ms ↔ ∃ m ∈ ms, n ∈ m.2.numbers := by
  induction ms with
  | nil => simp [numbersOfMembers]
  | cons m ms ih => simp [numbersOfMembers, ih]

theorem eq_int_or_eq_float (h : n ∈ a.numbers) : (∃ k, n = .int k) ∨ ∃ x, n = .float x := by
  induction a using induct with
  | leaf a hleaf =>
    cases a with
    | int k => exact Or.inl ⟨k, List.mem_singleton.mp h⟩
    | float x => exact Or.inr ⟨x, List.mem_singleton.mp h⟩
    | null | bool | string => cases h
    | array | object => cases hleaf
  | array items ih =>
    obtain ⟨a, ha, hn⟩ := mem_numbersOfItems.mp h
    exact ih a ha hn
  | object ms ih =>
    obtain ⟨m, hm, hn⟩ := mem_numbersOfMembers.mp h
    exact ih m hm hn

theorem depth_le_depthItems (ha : a ∈ items) : a.depth ≤ depthItems items := by
  induction items with
  | nil => cases ha
  | cons b items ih =>
    rw [depthItems]
    rcases List.mem_cons.mp ha with rfl | ha
    · exact Nat.le_max_left _ _
    · exact Nat.le_trans (ih ha) (Nat.le_max_right _ _)

theorem depth_le_depthMembers (hm : m ∈ ms) : m.2.depth ≤ depthMembers ms := by
  induction ms with
  | nil => cases hm
  | cons m' ms ih =>
    rw [depthMembers]
    rcases List.mem_cons.mp hm with rfl | hm
    · exact Nat.le_max_left _ _
    · exact Nat.le_trans (ih hm) (Nat.le_max_right _ _)

end Parts

end DocSearch.Json
