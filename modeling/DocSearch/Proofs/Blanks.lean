import DocSearch.Text.Blank

/-!
# Blanks at the ends of a text

A text is what is left of it without its blanks, with blanks around. Blanks that are put around a
text change nothing of what is left.
-/

namespace DocSearch.Text

variable {b s t rest : List Char} {c d : Char} {p : Char → Bool}

/-- The characters of a kind are taken up to the first of another kind. -/
theorem takeWhile_append_of_stop (hs : ∀ c ∈ s, p c = true)
    (hrest : ∀ c ∈ rest.head?, p c = false) :
    (s ++ rest).takeWhile p = s := by
  rw [List.takeWhile_append_of_pos hs]
  cases rest with
  | nil => exact List.append_nil s
  | cons c rest => rw [List.takeWhile_cons_of_neg (by simp [hrest c rfl]), List.append_nil]

theorem dropWhile_append_of_stop (hs : ∀ c ∈ s, p c = true)
    (hrest : ∀ c ∈ rest.head?, p c = false) :
    (s ++ rest).dropWhile p = rest := by
  rw [List.dropWhile_append_of_pos hs]
  cases rest with
  | nil => rfl
  | cons c rest => exact List.dropWhile_cons_of_neg (by simp [hrest c rfl])

/-- What holds of the few blanks holds of a character that is one. -/
theorem of_isBlank {P : Char → Prop} (hc : isBlank c = true)
    (h : ∀ run ∈ whiteSpace, ∀ k ∈ List.range (run.2 + 1 - run.1), P (Char.ofNat (run.1 + k))) :
    P c := by
  obtain ⟨run, hrun, hlow, hhigh⟩ := Ranges.contains_iff.mp hc
  have hk : c.toNat - run.1 ∈ List.range (run.2 + 1 - run.1) := by
    rw [List.mem_range]
    omega
  have hP := h run hrun _ hk
  rwa [Nat.add_sub_cancel' hlow, Char.ofNat_toNat] at hP

theorem isBlank_eq_false_of_isDigit (h : c.isDigit = true) : isBlank c = false := by
  rw [Bool.eq_false_iff]
  intro hblank
  have hnot : c.isDigit = false := of_isBlank (P := fun c => c.isDigit = false) hblank (by decide)
  rw [h] at hnot
  cases hnot

/-- A text in which every character is a blank. -/
def AllBlank (s : List Char) : Prop := ∀ c ∈ s, isBlank c = true

/-- A text that neither begins nor ends with a blank. -/
def Unspaced (s : List Char) : Prop :=
  (∀ c ∈ s.head?, isBlank c = false) ∧ ∀ c ∈ s.getLast?, isBlank c = false

theorem allBlank_takeWhile (s : List Char) : AllBlank (s.takeWhile isBlank) :=
  fun _ hc => List.all_eq_true.mp List.all_takeWhile _ hc

theorem AllBlank.reverse (h : AllBlank b) : AllBlank b.reverse :=
  fun c hc => h c (List.mem_reverse.mp hc)

theorem dropBlanks_append (h : AllBlank b) (s : List Char) :
    dropBlanks (b ++ s) = dropBlanks s :=
  List.dropWhile_append_of_pos h

theorem dropBlanksRight_append (h : AllBlank b) (s : List Char) :
    dropBlanksRight (s ++ b) = dropBlanksRight s := by
  rw [dropBlanksRight, List.reverse_append, dropBlanks_append h.reverse, dropBlanksRight]

theorem exists_blanks_append (s : List Char) : ∃ b, AllBlank b ∧ s = b ++ dropBlanks s :=
  ⟨_, allBlank_takeWhile s, List.takeWhile_append_dropWhile.symm⟩

theorem exists_append_blanks (s : List Char) : ∃ b, AllBlank b ∧ s = dropBlanksRight s ++ b := by
  obtain ⟨b, hb, hs⟩ := exists_blanks_append s.reverse
  refine ⟨b.reverse, hb.reverse, ?_⟩
  rw [dropBlanksRight, ← List.reverse_append, ← hs, List.reverse_reverse]

theorem head_dropBlanks (s : List Char) : ∀ c ∈ (dropBlanks s).head?, isBlank c = false := by
  intro c hc
  rw [dropBlanks] at hc
  simpa [Option.mem_def.mp hc] using List.head?_dropWhile_not isBlank s

theorem getLast_dropBlanksRight (s : List Char) :
    ∀ c ∈ (dropBlanksRight s).getLast?, isBlank c = false := by
  rw [dropBlanksRight, List.getLast?_reverse]
  exact head_dropBlanks s.reverse

theorem dropBlanks_of_head? (h : ∀ c ∈ s.head?, isBlank c = false) : dropBlanks s = s := by
  cases s with
  | nil => rfl
  | cons c s => exact dropBlanks_of_head (h c rfl)

theorem dropBlanksRight_of_getLast? (h : ∀ c ∈ s.getLast?, isBlank c = false) :
    dropBlanksRight s = s := by
  rw [dropBlanksRight, dropBlanks_of_head? (by rwa [List.head?_reverse]), List.reverse_reverse]

/-- What is left without the blanks at the end begins as the text does, if anything is left. -/
theorem head_dropBlanksRight (h : ∀ c ∈ s.head?, isBlank c = false) :
    ∀ c ∈ (dropBlanksRight s).head?, isBlank c = false := by
  intro c hc
  obtain ⟨b, -, hs⟩ := exists_append_blanks s
  refine h c ?_
  rw [hs, List.head?_append, Option.mem_def.mp hc]
  rfl

theorem unspaced_trimmed (s : List Char) : Unspaced (dropBlanksRight (dropBlanks s)) :=
  ⟨head_dropBlanksRight (head_dropBlanks s), getLast_dropBlanksRight _⟩

/-- Between blanks a text without any at its ends is found again. -/
theorem Unspaced.trimmed_append (h : Unspaced t) {before after : List Char}
    (hbefore : AllBlank before) (hafter : AllBlank after) :
    dropBlanksRight (dropBlanks (before ++ (t ++ after))) = t := by
  rw [dropBlanks_append hbefore]
  cases t with
  | nil =>
    rw [List.nil_append, ← List.append_nil after, dropBlanks_append hafter]
    rfl
  | cons c t =>
    rw [List.cons_append, dropBlanks_of_head (h.1 c rfl), ← List.cons_append,
      dropBlanksRight_append hafter, dropBlanksRight_of_getLast? h.2]

/-- Blanks around a text do not count once it is trimmed. -/
theorem trim_append {before s after : String} (hbefore : AllBlank before.toList)
    (hafter : AllBlank after.toList) : trim (before ++ s ++ after) = trim s := by
  obtain ⟨b, hb, hleft⟩ := exists_blanks_append s.toList
  obtain ⟨b', hb', hright⟩ := exists_append_blanks (dropBlanks s.toList)
  have hbefore' : AllBlank (before.toList ++ b) := List.forall_mem_append.mpr ⟨hbefore, hb⟩
  have hafter' : AllBlank (b' ++ after.toList) := List.forall_mem_append.mpr ⟨hb', hafter⟩
  have hsplit : (before ++ s ++ after).toList = (before.toList ++ b) ++
      (dropBlanksRight (dropBlanks s.toList) ++ (b' ++ after.toList)) := by
    rw [String.toList_append, String.toList_append, ← List.append_assoc _ b', ← hright,
      List.append_assoc before.toList b, ← List.append_assoc b, ← hleft, List.append_assoc]
  rw [trim, hsplit, (unspaced_trimmed s.toList).trimmed_append hbefore' hafter', trim]

theorem trim_trim (s : String) : trim (trim s) = trim s := by
  have hunspaced := unspaced_trimmed s.toList
  rw [trim, trim, String.toList_ofList, dropBlanks_of_head? hunspaced.1,
    dropBlanksRight_of_getLast? hunspaced.2]

/-- A text that begins and ends with characters other than blanks. -/
structure Tight (s : List Char) : Prop where
  head : ∃ c t, s = c :: t ∧ isBlank c = false
  last : ∃ t c, s = t ++ [c] ∧ isBlank c = false

theorem Tight.of_forall (hne : s ≠ []) (h : ∀ c ∈ s, isBlank c = false) : Tight s where
  head := ⟨s.head hne, s.tail, (s.cons_head_tail hne).symm, h _ (s.head_mem hne)⟩
  last := ⟨s.dropLast, s.getLast hne, (s.dropLast_concat_getLast hne).symm, h _ (s.getLast_mem hne)⟩

theorem Tight.dropBlanks (h : Tight s) : Text.dropBlanks s = s := by
  obtain ⟨c, t, rfl, hc⟩ := h.head
  exact dropBlanks_of_head hc

theorem Tight.dropBlanksRight (h : Tight s) : Text.dropBlanksRight s = s := by
  obtain ⟨t, c, rfl, hc⟩ := h.last
  rw [Text.dropBlanksRight, List.reverse_append, List.reverse_singleton, List.singleton_append,
    dropBlanks_of_head hc, List.reverse_cons, List.reverse_reverse]

theorem Tight.trim {s : String} (h : Tight s.toList) : Text.trim s = s := by
  rw [Text.trim, h.dropBlanks, h.dropBlanksRight, String.ofList_toList]

theorem Tight.isEmpty {s : String} (h : Tight s.toList) : s.isEmpty = false := by
  obtain ⟨c, t, heq, -⟩ := h.head
  rw [Bool.eq_false_iff, ne_eq, String.isEmpty_iff, ← String.toList_eq_nil_iff, heq]
  exact List.cons_ne_nil c t

theorem dropBlanks_blank (h : Tight s) : Text.dropBlanks (' ' :: s) = s := by
  rw [Text.dropBlanks, List.dropWhile_cons_of_pos (by decide)]
  exact h.dropBlanks

end DocSearch.Text
