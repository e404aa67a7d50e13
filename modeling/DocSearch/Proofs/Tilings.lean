import DocSearch.Proofs.Chunks
import Mathlib.Algebra.Order.Floor.Div

/-!
# Chunks as a tiling

The chunks of a list lie side by side from its first place to its end. Both their size and their
number are quotients rounded up, and such a quotient is at most a number exactly when the number of
times the divisor reaches the dividend. All bounds come from there: the chunks reach the end of the
list, the last of them is not empty, and there are no more of them than asked for.
-/

namespace DocSearch

variable {α : Type}

/-- Ranges that follow each other from a first place to the one after the last, none of them
empty. -/
def Tiles : Nat → List (Nat × Nat) → Nat → Prop
  | first, [], last => first = last
  | first, r :: ranges, last => r.1 = first ∧ r.1 < r.2 ∧ Tiles r.2 ranges last

namespace Tiles

variable {first last : Nat} {ranges : List (Nat × Nat)}

theorem le (h : Tiles first ranges last) : first ≤ last := by
  induction ranges generalizing first with
  | nil => exact Nat.le_of_eq h
  | cons r ranges ih =>
    obtain ⟨hfirst, hnonempty, hrest⟩ := h
    have := ih hrest
    omega

theorem nonempty (h : Tiles first ranges last) : ∀ r ∈ ranges, r.1 < r.2 := by
  induction ranges generalizing first with
  | nil => simp
  | cons r ranges ih =>
    obtain ⟨-, hnonempty, hrest⟩ := h
    exact List.forall_mem_cons.mpr ⟨hnonempty, ih hrest⟩

/-- A tiling goes on with a range that begins where it ends. -/
theorem concat (h : Tiles first ranges last) {stop : Nat} (hstop : last < stop) :
    Tiles first (ranges ++ [(last, stop)]) stop := by
  induction ranges generalizing first with
  | nil =>
    obtain rfl : first = last := h
    exact ⟨rfl, hstop, rfl⟩
  | cons r ranges ih =>
    obtain ⟨hfirst, hnonempty, hrest⟩ := h
    exact ⟨hfirst, hnonempty, ih hrest⟩

/-- The places in the ranges are all places from the first to the last, each once and in order. -/
theorem flatMap_places (h : Tiles first ranges last) :
    ranges.flatMap (fun r => List.range' r.1 (r.2 - r.1)) = List.range' first (last - first) := by
  induction ranges generalizing first with
  | nil =>
    obtain rfl : first = last := h
    simp
  | cons r ranges ih =>
    obtain ⟨rfl, hnonempty, hrest⟩ := h
    have hle := hrest.le
    have hnext : r.1 + (r.2 - r.1) = r.2 := by omega
    have hsum : r.2 - r.1 + (last - r.2) = last - r.1 := by omega
    calc (r :: ranges).flatMap (fun r => List.range' r.1 (r.2 - r.1))
        = List.range' r.1 (r.2 - r.1) ++ List.range' r.2 (last - r.2) := by
          rw [List.flatMap_cons, ih hrest]
      _ = List.range' r.1 (last - r.1) := by
          rw [← hsum, ← List.range'_append_1, hnext]

/-- Taking as many items as each range has places gives each range the items at its places. -/
theorem takeChunks_drop (h : Tiles first ranges last) (items : List α) :
    takeChunks ranges (items.drop first) =
      ranges.map fun r => (items.drop r.1).take (r.2 - r.1) := by
  induction ranges generalizing first with
  | nil => simp [takeChunks]
  | cons r ranges ih =>
    obtain ⟨start, stop⟩ := r
    obtain ⟨rfl, hnonempty, hrest⟩ := h
    have hnext : start + (stop - start) = stop := by
      simp only at hnonempty
      omega
    rw [takeChunks, List.drop_drop, hnext, ih hrest, List.map_cons]

end Tiles

/-! ### Quotients rounded up -/

theorem ceilDiv_eq (n d : Nat) : ceilDiv n d = n ⌈/⌉ d := (Nat.ceilDiv_eq_add_pred_div n d).symm

theorem pos_of_lt_ceilDiv {n d i : Nat} (h : i < ceilDiv n d) : 0 < d := by
  apply Nat.pos_of_ne_zero
  rintro rfl
  rw [ceilDiv, Nat.div_zero] at h
  exact Nat.not_lt_zero i h

theorem mul_lt_of_lt_ceilDiv {n d i : Nat} (h : i < ceilDiv n d) : i * d < n := by
  by_contra hreached
  have hquotient : ceilDiv n d ≤ i := by
    rw [ceilDiv_eq, ceilDiv_le_iff_le_mul (pos_of_lt_ceilDiv h), Nat.mul_comm]
    exact Nat.not_lt.mp hreached
  omega

/-! ### The plan -/

section Plan

variable {length batch size : Nat} {r : Nat × Nat}

/-- The range with a number among ranges of one size, cut at the end of the list. -/
def rangeAt (size length i : Nat) : Nat × Nat := (i * size, min ((i + 1) * size) length)

/-- A list without items needs no case of its own, as its ranges have no size. -/
theorem chunkRanges_eq (length batch : Nat) : chunkRanges length batch =
    (List.range (ceilDiv length (chunkSize length batch))).map
      (rangeAt (chunkSize length batch) length) := by
  by_cases hlength : length = 0
  · have hsize : chunkSize 0 batch = 0 := by
      rw [chunkSize, ceilDiv_eq, zero_ceilDiv]
    rw [hlength, hsize, ceilDiv, Nat.div_zero]
    exact if_pos rfl
  · exact if_neg hlength

theorem tiles_map_rangeAt (hsize : 0 < size) (k : Nat) (h : ∀ i < k, i * size < length) :
    Tiles 0 ((List.range k).map (rangeAt size length)) (min (k * size) length) := by
  induction k with
  | zero => simp [Tiles]
  | succ k ih =>
    have hbefore : k * size < length := h k (Nat.lt_succ_self k)
    have hprefix := ih fun i hi => h i (Nat.lt_succ_of_lt hi)
    rw [Nat.min_eq_left (Nat.le_of_lt hbefore)] at hprefix
    rw [List.range_succ, List.map_append, List.map_singleton]
    apply hprefix.concat
    rw [Nat.add_mul]
    omega

theorem tiles_chunkRanges (length batch : Nat) : Tiles 0 (chunkRanges length batch) length := by
  by_cases hlength : length = 0
  · rw [chunkRanges, if_pos hlength]
    exact hlength.symm
  · have hsize := chunkSize_pos (Nat.pos_of_ne_zero hlength) batch
    have htiles := tiles_map_rangeAt hsize (ceilDiv length (chunkSize length batch))
      fun i hi => mul_lt_of_lt_ceilDiv hi
    rw [Nat.min_eq_right (le_ceilDiv_mul hsize)] at htiles
    rw [chunkRanges_eq]
    exact htiles

/-- The number of ranges is a quotient by their size, and so at most the number that gave the
size. -/
theorem length_chunkRanges_le (length batch : Nat) :
    (chunkRanges length batch).length ≤ max 1 batch := by
  by_cases hlength : length = 0
  · rw [chunkRanges, if_pos hlength]
    exact Nat.zero_le _
  · have hsize := chunkSize_pos (Nat.pos_of_ne_zero hlength) batch
    rw [chunkRanges_eq, List.length_map, List.length_range, ceilDiv_eq,
      ceilDiv_le_iff_le_mul hsize]
    exact le_ceilDiv_mul (by omega)

theorem mul_lt_of_lt_length {i : Nat} (h : i < (chunkRanges length batch).length) :
    i * chunkSize length batch < length := by
  rw [chunkRanges_eq, List.length_map, List.length_range] at h
  exact mul_lt_of_lt_ceilDiv h

theorem le_of_mem_chunkRanges (h : r ∈ chunkRanges length batch) :
    r.2 ≤ r.1 + chunkSize length batch := by
  rw [chunkRanges_eq] at h
  obtain ⟨i, -, rfl⟩ := List.mem_map.mp h
  rw [rangeAt, Nat.add_mul]
  omega

/-- A range before the last one is not cut, as the next one begins inside the list. -/
theorem eq_of_mem_dropLast (h : r ∈ (chunkRanges length batch).dropLast) :
    r.2 = r.1 + chunkSize length batch := by
  rw [chunkRanges_eq, ← List.map_dropLast] at h
  obtain ⟨i, hi, rfl⟩ := List.mem_map.mp h
  have hnext : i + 1 < ceilDiv length (chunkSize length batch) := by
    cases hcount : ceilDiv length (chunkSize length batch) with
    | zero => simp [hcount] at hi
    | succ n =>
      rw [hcount, List.range_succ, List.dropLast_concat, List.mem_range] at hi
      omega
  have hinside := mul_lt_of_lt_ceilDiv hnext
  rw [rangeAt, Nat.min_eq_left (Nat.le_of_lt hinside), Nat.add_mul, Nat.one_mul]

end Plan

/-- **The plan of the chunks is a balanced partition.** For a list of any length and any number of
chunks asked for, also none, the ranges follow each other from the first place of the list to its
end. None is empty, all places are in them once and in order, and they are no more than asked for,
or one if none are. All have the length of the list divided by that number, rounded up, but for the
last one, which may be shorter. No number on the way reaches the length of the list and of one range
together. When as many items are taken for each range as it has places, each range gets the items at
its places, and all items are handed out once and in order. -/
theorem chunkRanges_partition (length batch : Nat) :
    Tiles 0 (chunkRanges length batch) length ∧
    (chunkRanges length batch).flatMap (fun r => List.range' r.1 (r.2 - r.1)) =
      List.range length ∧
    (∀ r ∈ chunkRanges length batch, r.1 < r.2) ∧
    (chunkRanges length batch).length ≤ max 1 batch ∧
    (∀ r ∈ (chunkRanges length batch).dropLast, r.2 = r.1 + length ⌈/⌉ max 1 batch) ∧
    (∀ r ∈ chunkRanges length batch, r.2 ≤ r.1 + length ⌈/⌉ max 1 batch) ∧
    (∀ i < (chunkRanges length batch).length,
      (i + 1) * (length ⌈/⌉ max 1 batch) < length + length ⌈/⌉ max 1 batch) ∧
    ∀ {α : Type} (items : List α), items.length = length →
      chunks batch items =
        (chunkRanges length batch).map (fun r => (items.drop r.1).take (r.2 - r.1)) ∧
      (chunks batch items).flatten = items := by
  have htiles := tiles_chunkRanges length batch
  have hsize : chunkSize length batch = length ⌈/⌉ max 1 batch := ceilDiv_eq _ _
  rw [← hsize]
  refine ⟨htiles, ?places, htiles.nonempty, length_chunkRanges_le length batch,
    fun r => eq_of_mem_dropLast, fun r => le_of_mem_chunkRanges, ?bounds, ?items⟩
  case places =>
    rw [htiles.flatMap_places, Nat.sub_zero, List.range_eq_range']
  case bounds =>
    intro i hi
    have hstart := mul_lt_of_lt_length hi
    rw [Nat.add_mul]
    omega
  case items =>
    intro α items hitems
    have htaken := htiles.takeChunks_drop items
    rw [List.drop_zero] at htaken
    constructor
    · rw [chunks, hitems, htaken]
    · exact flatten_chunks batch items

/-- Fifteen items in at most ten chunks. -/
theorem fifteen_chunkRanges_partition :
    (14, 15) ∈ chunkRanges 15 10 ∧ (12, 14) ∈ (chunkRanges 15 10).dropLast ∧
      15 ≤ 14 + 15 ⌈/⌉ max 1 10 ∧ 14 = 12 + 15 ⌈/⌉ max 1 10 ∧
      (7 + 1) * (15 ⌈/⌉ max 1 10) < 15 + 15 ⌈/⌉ max 1 10 ∧
      "partial records".toList.length = 15 ∧
      (chunks 10 "partial records".toList).flatten = "partial records".toList := by
  obtain ⟨-, -, -, -, hfull, hbounded, hsmall, hitems⟩ := chunkRanges_partition 15 10
  have hlast : (14, 15) ∈ chunkRanges 15 10 := by decide
  have hbefore : (12, 14) ∈ (chunkRanges 15 10).dropLast := by decide
  have hlength : "partial records".toList.length = 15 := by decide
  exact ⟨hlast, hbefore, hbounded _ hlast, hfull _ hbefore, hsmall 7 (by decide), hlength,
    (hitems "partial records".toList hlength).2⟩

end DocSearch
