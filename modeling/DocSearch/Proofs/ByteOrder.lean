import DocSearch.Proofs.Named

/-!
# Texts in the order of their bytes

Texts are ordered by their code points. The bytes that they are stored as come in the same order:
the first byte of a character grows with the number of bytes after it, and of two characters of one
length the lesser one has the lesser byte where they first differ. So what is in ascending order by
names is so by their bytes.
-/

namespace DocSearch

/-- The bytes that a text is stored as. -/
def storedBytes (s : String) : List UInt8 := s.toUTF8.data.toList

theorem storedBytes_eq (s : String) : storedBytes s = s.toList.flatMap String.utf8EncodeChar := by
  rw [storedBytes, String.toUTF8_eq_toByteArray, ← String.ofList_toList (s := s),
    String.toByteArray_ofList, String.toList_ofList, List.utf8Encode, List.data_toByteArray]

/-! ### One character -/

/-- The bytes of a code point as numbers. -/
def byteNumbers (v : Nat) : List Nat :=
  if v ≤ 127 then [v]
  else if v ≤ 2047 then [v / 64 % 32 + 192, v % 64 + 128]
  else if v ≤ 65535 then [v / 4096 % 16 + 224, v / 64 % 64 + 128, v % 64 + 128]
  else [v / 262144 % 8 + 240, v / 4096 % 64 + 128, v / 64 % 64 + 128, v % 64 + 128]

/-- Of two lists, the first one has the lesser number where they first differ. -/
def FirstLess : List Nat → List Nat → Prop
  | m :: ms, n :: ns => m < n ∨ m = n ∧ FirstLess ms ns
  | _, _ => False

theorem utf8EncodeChar_eq_map (c : Char) :
    String.utf8EncodeChar c = (byteNumbers c.val.toNat).map UInt8.ofNat := by
  simp only [String.utf8EncodeChar, byteNumbers]
  split_ifs <;> rfl

theorem byteNumbers_ne_nil (v : Nat) : byteNumbers v ≠ [] := by
  unfold byteNumbers
  split_ifs <;> exact List.cons_ne_nil _ _

theorem byteNumbers_lt {v n : Nat} (h : n ∈ byteNumbers v) : n < 256 := by
  unfold byteNumbers at h
  split_ifs at h <;> simp only [List.mem_cons, List.not_mem_nil, or_false] at h <;> omega

theorem div_lt_or_mod_lt {m n : Nat} (h : m < n) :
    m / 64 < n / 64 ∨ m / 64 = n / 64 ∧ m % 64 < n % 64 := by
  omega

/-- The order of two numbers shows in their greatest digit that differs. -/
theorem digits_lt {v w : Nat} (h : v < w) :
    v / 262144 < w / 262144 ∨ v / 262144 = w / 262144 ∧
      (v / 4096 % 64 < w / 4096 % 64 ∨ v / 4096 % 64 = w / 4096 % 64 ∧
        (v / 64 % 64 < w / 64 % 64 ∨ v / 64 % 64 = w / 64 % 64 ∧ v % 64 < w % 64)) := by
  have hsecond : ∀ n : Nat, n / 4096 = n / 64 / 64 := fun n => (Nat.div_div_eq_div_mul n 64 64).symm
  have hthird : ∀ n : Nat, n / 262144 = n / 64 / 64 / 64 := by
    intro n
    rw [← hsecond, Nat.div_div_eq_div_mul]
  rw [hsecond, hsecond, hthird, hthird]
  rcases div_lt_or_mod_lt h with hone | ⟨hone, hlast⟩
  · rcases div_lt_or_mod_lt hone with htwo | ⟨htwo, hlast⟩
    · rcases div_lt_or_mod_lt htwo with hthree | ⟨hthree, hlast⟩
      · exact Or.inl hthree
      · exact Or.inr ⟨hthree, Or.inl hlast⟩
    · rw [htwo]
      exact Or.inr ⟨rfl, Or.inr ⟨rfl, Or.inl hlast⟩⟩
  · rw [hone]
    exact Or.inr ⟨rfl, Or.inr ⟨rfl, Or.inr ⟨rfl, hlast⟩⟩⟩

theorem byteNumbers_of_long {v : Nat} (h : 65535 < v) (hv : v < 1114112) :
    byteNumbers v =
      [v / 262144 + 240, v / 4096 % 64 + 128, v / 64 % 64 + 128, v % 64 + 128] := by
  have hfirst : v / 262144 % 8 = v / 262144 := Nat.mod_eq_of_lt (by omega)
  rw [byteNumbers, if_neg (by omega), if_neg (by omega), if_neg (by omega), hfirst]

theorem firstLess_byteNumbers {v w : Nat} (h : v < w) (hw : w < 1114112) :
    FirstLess (byteNumbers v) (byteNumbers w) := by
  by_cases hlong : 65535 < v
  · rw [byteNumbers_of_long hlong (by omega), byteNumbers_of_long (by omega) hw]
    simp only [FirstLess, Nat.add_lt_add_iff_right, Nat.add_right_cancel_iff, and_false, or_false]
    exact digits_lt h
  · have hshort : v ≤ 65535 := Nat.not_lt.mp hlong
    unfold byteNumbers
    split_ifs <;> simp only [FirstLess] <;> omega

theorem map_ofNat_append_lt {ms ns : List Nat} (hms : ∀ m ∈ ms, m < 256) (hns : ∀ n ∈ ns, n < 256)
    (h : FirstLess ms ns) (s t : List UInt8) :
    ms.map UInt8.ofNat ++ s < ns.map UInt8.ofNat ++ t := by
  induction ms generalizing ns with
  | nil => cases h
  | cons m ms ih =>
    cases ns with
    | nil => cases h
    | cons n ns =>
      obtain ⟨hm, hms⟩ := List.forall_mem_cons.mp hms
      obtain ⟨hn, hns⟩ := List.forall_mem_cons.mp hns
      rw [List.map_cons, List.map_cons, List.cons_append, List.cons_append,
        List.cons_lt_cons_iff]
      rcases h with hless | ⟨heq, hrest⟩
      · apply Or.inl
        rw [UInt8.lt_iff_toNat_lt, UInt8.toNat_ofNat_of_lt' hm, UInt8.toNat_ofNat_of_lt' hn]
        exact hless
      · exact Or.inr ⟨congrArg UInt8.ofNat heq, ih hms hns hrest⟩

theorem utf8EncodeChar_append_lt {c d : Char} (h : c < d) (s t : List UInt8) :
    String.utf8EncodeChar c ++ s < String.utf8EncodeChar d ++ t := by
  rw [utf8EncodeChar_eq_map, utf8EncodeChar_eq_map]
  apply map_ofNat_append_lt
  · exact fun m => byteNumbers_lt
  · exact fun n => byteNumbers_lt
  · apply firstLess_byteNumbers h
    rcases d.valid with hlow | hhigh
    · exact Nat.lt_trans hlow (by decide)
    · exact hhigh.2

/-! ### Texts -/

theorem flatMap_utf8EncodeChar_lt {s t : List Char} (h : s < t) :
    s.flatMap String.utf8EncodeChar < t.flatMap String.utf8EncodeChar := by
  induction s generalizing t with
  | nil =>
    cases t with
    | nil => exact absurd h (List.lt_irrefl [])
    | cons d t =>
      rw [List.flatMap_cons, utf8EncodeChar_eq_map]
      cases hnumbers : byteNumbers d.val.toNat with
      | nil => exact absurd hnumbers (byteNumbers_ne_nil _)
      | cons n ns => exact List.nil_lt_cons _ _
  | cons c s ih =>
    cases t with
    | nil => exact absurd h (List.not_lt_nil _)
    | cons d t =>
      rw [List.flatMap_cons, List.flatMap_cons]
      rcases List.cons_lt_cons_iff.mp h with hless | ⟨rfl, hrest⟩
      · exact utf8EncodeChar_append_lt hless _ _
      · exact List.append_left_lt (ih hrest)

theorem storedBytes_lt {a b : String} (h : a < b) : storedBytes a < storedBytes b := by
  rw [storedBytes_eq, storedBytes_eq]
  exact flatMap_utf8EncodeChar_lt (String.lt_iff_toList_lt.mp h)

end DocSearch
