import DocSearch.Json.Outline
import DocSearch.Proofs.Outcome

/-!
# What is passed over

Passing over a part of a text asks less of it than reading it does. What is left of a text is an end
of it, and where a text, a number or another plain value can be read, it can be passed over up to
the same place.
-/

namespace DocSearch.Json

section Passing

variable {s rest : List Char}

theorem fourHex_suffix {n : Nat} (h : fourHex s = .ok (n, rest)) : rest <:+ s := by
  unfold fourHex at h
  split at h
  · cases h
  · split at h
    · cases h
      exact List.drop_suffix 4 s
    · cases h

theorem passEscape_suffix (h : passEscape s = .ok rest) : rest <:+ s := by
  unfold passEscape at h
  split at h
  · cases h
  · obtain ⟨⟨n, rest'⟩, hfour, rfl⟩ := map_eq_ok_iff.mp h
    exact (fourHex_suffix hfour).trans (List.suffix_cons _ _)
  · split at h
    · cases h
      exact List.suffix_cons _ _
    · cases h

theorem passChars_suffix {fuel : Nat} (h : passChars fuel s = .ok rest) : rest <:+ s := by
  fun_induction passChars fuel s with
  | case1 | case2 | case5 => cases h
  | case3 fuel s =>
    cases h
    exact List.suffix_cons _ _
  | case4 fuel s hquote ih =>
    obtain ⟨after, hescape, h⟩ := bind_eq_ok_iff.mp h
    exact (ih after h).trans ((passEscape_suffix hescape).trans (List.suffix_cons _ _))
  | case6 fuel c s hquote hbackslash hcontrol ih =>
    exact (ih h).trans (List.suffix_cons _ _)

theorem passDigits_suffix (h : passDigits s = .ok rest) : rest <:+ s := by
  unfold passDigits at h
  split at h
  · cases h
  · split at h
    · cases h
      exact (List.dropWhile_suffix _).trans (List.suffix_cons _ _)
    · cases h

theorem passPower_suffix (h : passPower s = .ok rest) : rest <:+ s := by
  unfold passPower at h
  split at h
  · exact (passDigits_suffix h).trans (List.suffix_cons _ _)
  · exact (passDigits_suffix h).trans (List.suffix_cons _ _)
  · exact passDigits_suffix h

theorem passExponent_suffix (h : passExponent s = .ok rest) : rest <:+ s := by
  unfold passExponent at h
  split at h
  · exact (passPower_suffix h).trans (List.suffix_cons _ _)
  · exact (passPower_suffix h).trans (List.suffix_cons _ _)
  · cases h
    exact List.suffix_refl _

theorem passFraction_suffix (h : passFraction s = .ok rest) : rest <:+ s := by
  unfold passFraction at h
  split at h
  · obtain ⟨after, hdigits, h⟩ := bind_eq_ok_iff.mp h
    exact (passExponent_suffix h).trans ((passDigits_suffix hdigits).trans (List.suffix_cons _ _))
  · exact passExponent_suffix h

theorem passNumber_suffix (h : passNumber s = .ok rest) : rest <:+ s := by
  unfold passNumber at h
  split at h
  · split at h
    · cases h
    · exact (passFraction_suffix h).trans (List.suffix_cons _ _)
  · obtain ⟨after, hdigits, h⟩ := bind_eq_ok_iff.mp h
    exact (passFraction_suffix h).trans (passDigits_suffix hdigits)

theorem word_suffix {a b : Json} {w : List Char} (h : word a w s = .ok (b, rest)) :
    rest <:+ s := by
  fun_induction word a w s with
  | case1 s =>
    cases h
    exact List.suffix_refl _
  | case2 | case4 => cases h
  | case3 w ws s ih => exact (ih h).trans (List.suffix_cons _ _)

theorem passPlain_suffix (h : passPlain s = .ok rest) : rest <:+ s := by
  have hword {a : Json} {w t : List Char} (h : (word a w t).map Prod.snd = .ok rest) :
      rest <:+ t := by
    obtain ⟨⟨b, after⟩, hword, rfl⟩ := map_eq_ok_iff.mp h
    exact word_suffix hword
  cases s with
  | nil => cases h
  | cons c t =>
    rw [passPlain] at h
    split at h
    · exact (hword h).trans (List.suffix_cons _ _)
    split at h
    · exact (hword h).trans (List.suffix_cons _ _)
    split at h
    · exact (hword h).trans (List.suffix_cons _ _)
    split at h
    · exact (passNumber_suffix h).trans (List.suffix_cons _ _)
    split at h
    · exact passNumber_suffix h
    split at h
    · exact (passChars_suffix h).trans (List.suffix_cons _ _)
    · cases h

/-! ### Texts -/

theorem exists_of_secondHalf {high : Nat} {c : Char} (h : secondHalf high s = .ok (c, rest)) :
    ∃ t n, s = '\\' :: 'u' :: t ∧ fourHex t = .ok (n, rest) := by
  unfold secondHalf at h
  split at h
  · next t =>
    obtain ⟨⟨low, after⟩, hlow, h⟩ := bind_eq_ok_iff.mp h
    dsimp only at h
    split at h
    · obtain ⟨-, rfl⟩ := Prod.mk.inj (Except.ok.inj h)
      exact ⟨t, low, rfl, hlow⟩
    · cases h
  all_goals cases h

theorem passEscape_of_escape {c : Char} (h : escape s = .ok (c, rest)) :
    ∃ after, passEscape s = .ok after ∧
      (after = rest ∨ ∃ t n, after = '\\' :: 'u' :: t ∧ fourHex t = .ok (n, rest)) := by
  unfold escape at h
  split at h
  case h_10 s =>
    obtain ⟨⟨n, after⟩, hfour, h⟩ := bind_eq_ok_iff.mp h
    refine ⟨after, map_eq_ok_iff.mpr ⟨_, hfour, rfl⟩, ?_⟩
    dsimp only at h
    split at h
    · cases h
    split at h
    · exact Or.inr (exists_of_secondHalf h)
    · cases h
      exact Or.inl rfl
  all_goals
    cases h
  all_goals exact ⟨_, rfl, Or.inl rfl⟩

/-- A text that can be read can be passed over. A character in two escapes is passed over in two
steps. -/
theorem passChars_of_chars {fuel n : Nat} {cs : List Char} (h : chars fuel s = .ok (cs, rest))
    (hn : s.length ≤ n) : passChars n s = .ok rest := by
  induction fuel generalizing s cs n with
  | zero =>
    cases s with
    | nil => cases h
    | cons c s => cases h
  | succ fuel ih =>
    cases s with
    | nil => cases h
    | cons c s =>
      obtain ⟨m, rfl⟩ : ∃ m, n = m + 1 := ⟨n - 1, by simp at hn; omega⟩
      have hm : s.length ≤ m := by simpa using hn
      rw [chars] at h
      rw [passChars]
      by_cases hquote : c = '"'
      · rw [if_pos hquote] at h ⊢
        cases h
        rfl
      rw [if_neg hquote] at h ⊢
      by_cases hbackslash : c = '\\'
      · rw [if_pos hbackslash] at h ⊢
        obtain ⟨⟨e, after⟩, hescape, h⟩ := bind_eq_ok_iff.mp h
        obtain ⟨⟨es, rest'⟩, hmore, h⟩ := bind_eq_ok_iff.mp h
        cases h
        obtain ⟨next, hpass, hnext⟩ := passEscape_of_escape hescape
        have hle := (passEscape_suffix hpass).length_le
        rw [hpass, ok_bind]
        rcases hnext with rfl | ⟨t, low, rfl, hlow⟩
        · exact ih hmore (Nat.le_trans hle hm)
        · -- the second half of the character is an escape of its own
          have hafter := (fourHex_suffix hlow).length_le
          simp only [List.length_cons] at hle
          obtain ⟨k, rfl⟩ : ∃ k, m = k + 1 := ⟨m - 1, by omega⟩
          have hsecond : passEscape ('u' :: t) = .ok after := map_eq_ok_iff.mpr ⟨_, hlow, rfl⟩
          rw [passChars, if_neg (by decide), if_pos rfl, hsecond, ok_bind]
          exact ih hmore (by omega)
      rw [if_neg hbackslash] at h ⊢
      by_cases hcontrol : c.toNat < 32
      · rw [if_pos hcontrol] at h
        cases h
      rw [if_neg hcontrol] at h ⊢
      obtain ⟨⟨es, rest'⟩, hmore, h⟩ := bind_eq_ok_iff.mp h
      cases h
      exact ih hmore hm

theorem passText_of_text {t : String} (h : text s = .ok (t, rest)) : passText s = .ok rest := by
  obtain ⟨⟨cs, rest'⟩, hchars, h⟩ := bind_eq_ok_iff.mp h
  cases h
  exact passChars_of_chars hchars (Nat.le_refl _)

/-! ### Numbers -/

/-- Digits that are too many for a number are still digits. -/
theorem dropWhile_takeDigits (limit n taken : Nat) (s : List Char) :
    (takeDigits limit n taken s).2.2.dropWhile Char.isDigit = s.dropWhile Char.isDigit := by
  fun_induction takeDigits limit n taken s with
  | case1 => rfl
  | case2 n taken c s hdigit ih => rw [ih, List.dropWhile_cons_of_pos hdigit.1]
  | case3 => rfl

theorem of_finish {minus : Bool} {n : Nat} {e : Int} {a : Json}
    (h : finish minus n e s = .ok (a, rest)) : rest = s ∧ a.depth = 0 := by
  unfold finish at h
  split at h
  · cases h
    exact ⟨rfl, rfl⟩
  · cases h

theorem passDigits_cons {c : Char} (h : c.isDigit = true) :
    passDigits (c :: s) = .ok (s.dropWhile Char.isDigit) := if_pos h

theorem passDigits_of_exponentDigits {minus down : Bool} {n : Nat} {e : Int} {a : Json}
    (h : exponentDigits minus n e down s = .ok (a, rest)) :
    passDigits s = .ok rest ∧ a.depth = 0 := by
  cases s with
  | nil => cases h
  | cons c t =>
    rw [exponentDigits] at h
    split at h
    · next hdigit =>
      have hall := dropWhile_takeDigits (Nat.pow 2 31) 0 0 (c :: t)
      rw [List.dropWhile_cons_of_pos hdigit] at hall
      rw [passDigits_cons hdigit, ← hall]
      dsimp only at h
      split at h
      · next d after htaken =>
        rw [htaken]
        split at h
        · next hmore =>
          split at h
          · cases h
          · cases h
            exact ⟨by rw [List.dropWhile_cons_of_pos hmore], rfl⟩
        · next hend =>
          obtain ⟨rfl, ha⟩ := of_finish h
          exact ⟨by rw [List.dropWhile_cons_of_neg hend, htaken], ha⟩
      · next htaken =>
        obtain ⟨rfl, ha⟩ := of_finish h
        exact ⟨by rw [htaken, List.dropWhile_nil], ha⟩
    · cases h

theorem passPower_of_exponentPart {minus : Bool} {n : Nat} {e : Int} {a : Json}
    (h : exponentPart minus n e s = .ok (a, rest)) : passPower s = .ok rest ∧ a.depth = 0 := by
  unfold exponentPart at h
  split at h
  · exact passDigits_of_exponentDigits h
  · exact passDigits_of_exponentDigits h
  · next hplus hminus =>
    unfold passPower
    split
    · exact absurd rfl (hplus _)
    · exact absurd rfl (hminus _)
    · exact passDigits_of_exponentDigits h

theorem passExponent_of_afterDigits {minus : Bool} {n : Nat} {e : Int} {a : Json}
    (h : afterDigits minus n e s = .ok (a, rest)) : passExponent s = .ok rest ∧ a.depth = 0 := by
  unfold afterDigits at h
  split at h
  · exact passPower_of_exponentPart h
  · exact passPower_of_exponentPart h
  · next hlower hupper =>
    obtain ⟨rfl, ha⟩ := of_finish h
    refine ⟨?_, ha⟩
    unfold passExponent
    split
    · exact absurd rfl (hlower _)
    · exact absurd rfl (hupper _)
    · rfl

theorem passFraction_of_fractionPart {minus : Bool} {n : Nat} {e : Int} {a : Json}
    (h : fractionPart minus n e s = .ok (a, rest)) :
    passFraction ('.' :: s) = .ok rest ∧ a.depth = 0 := by
  cases s with
  | nil => cases h
  | cons c t =>
    have hall := dropWhile_takeDigits UInt64.size n 0 (c :: t)
    rw [fractionPart] at h
    by_cases hdigit : c.isDigit = true
    · have hafter : ∃ k e', afterDigits minus k e' (t.dropWhile Char.isDigit) = .ok (a, rest) := by
        rw [List.dropWhile_cons_of_pos hdigit] at hall
        rw [← hall]
        dsimp only at h
        split at h
        · next htaken =>
          split at h
          · cases h
          · rw [htaken, List.dropWhile_nil, ← htaken]
            exact ⟨_, _, h⟩
        · next d after htaken =>
          rw [htaken]
          split at h
          · exact ⟨_, _, htaken ▸ h⟩
          · next hend =>
            rw [List.dropWhile_cons_of_neg hend, ← htaken]
            split at h
            · cases h
            · exact ⟨_, _, h⟩
      obtain ⟨k, e', hafter⟩ := hafter
      obtain ⟨hexponent, ha⟩ := passExponent_of_afterDigits hafter
      exact ⟨by rw [passFraction, passDigits_cons hdigit, ok_bind, hexponent], ha⟩
    · rw [takeDigits, if_neg fun hboth => hdigit hboth.1] at h
      simp [hdigit] at h

theorem passNumber_cons {c : Char} (hdigit : c.isDigit = true)
    (hzero : c = '0' → s.takeWhile Char.isDigit = []) :
    passNumber (c :: s) = passFraction (s.dropWhile Char.isDigit) := by
  unfold passNumber
  split
  · next d t heq =>
    obtain ⟨rfl, rfl⟩ := List.cons.inj heq
    have hend : ¬ d.isDigit = true := by
      intro hd
      simp [List.takeWhile_cons_of_pos hd] at hzero
    rw [if_neg hend, List.dropWhile_cons_of_neg hend]
  · rw [passDigits_cons hdigit, ok_bind]

theorem passFraction_of_not_point (hpoint : s.head? ≠ some '.') :
    passFraction s = passExponent s := by
  unfold passFraction
  split
  · exact absurd rfl hpoint
  · rfl

theorem passExponent_of_not_letter (hlower : s.head? ≠ some 'e') (hupper : s.head? ≠ some 'E') :
    passExponent s = .ok s := by
  unfold passExponent
  split
  · exact absurd rfl hlower
  · exact absurd rfl hupper
  · rfl

theorem depth_whole (minus : Bool) (n : Nat) : (whole minus n).depth = 0 := by
  unfold whole
  split
  · split
    · rfl
    · rfl
  · rfl

theorem passNumber_of_number {minus : Bool} {a : Json} (h : number minus s = .ok (a, rest)) :
    passNumber s = .ok rest ∧ a.depth = 0 := by
  cases s with
  | nil => cases h
  | cons c t =>
    rw [number] at h
    split at h
    · cases h
    next hdigit =>
    have hdigit : c.isDigit = true := by simpa using hdigit
    -- a leading zero is taken alone, so a digit that follows it is found in `more`
    obtain ⟨⟨n, taken, more⟩, htaken⟩ :
      ∃ p, (if c = '0' then (0, 1, t) else takeDigits UInt64.size 0 0 (c :: t)) = p := ⟨_, rfl⟩
    have hafter : more.dropWhile Char.isDigit = t.dropWhile Char.isDigit := by
      split at htaken
      · obtain ⟨rfl, rfl, rfl⟩ : 0 = n ∧ 1 = taken ∧ t = more := by simpa using htaken
        rfl
      · have hall := dropWhile_takeDigits UInt64.size 0 0 (c :: t)
        rwa [htaken, List.dropWhile_cons_of_pos hdigit] at hall
    have hzero (hnot : ¬ (c = '0' ∧ (!(more.takeWhile Char.isDigit).isEmpty) = true)) :
        c = '0' → t.takeWhile Char.isDigit = [] := by
      rintro rfl
      obtain ⟨rfl, rfl, rfl⟩ : 0 = n ∧ 1 = taken ∧ t = more := by simpa using htaken
      simpa using hnot
    rw [htaken] at h
    dsimp only at h
    rw [hafter] at h
    split at h
    · next after hpoint =>
      split at h
      · cases h
      · next hnot =>
        rw [passNumber_cons hdigit (hzero hnot), hpoint]
        exact passFraction_of_fractionPart h
    · next hpoint =>
      split at h
      · cases h
      next hnot =>
      have hhead : (t.dropWhile Char.isDigit).head? ≠ some '.' := by
        intro hhead
        obtain ⟨after, heq⟩ := List.head?_eq_some_iff.mp hhead
        exact hpoint _ heq
      rw [passNumber_cons hdigit (hzero hnot), passFraction_of_not_point hhead]
      split at h
      · next hend =>
        cases h
        exact ⟨passExponent_of_not_letter hend.2.1 hend.2.2, depth_whole minus n⟩
      · exact passExponent_of_afterDigits h

/-! ### Plain values -/

theorem eq_of_word {v a : Json} {w : List Char} (h : word v w s = .ok (a, rest)) : a = v := by
  fun_induction word v w s with
  | case1 s =>
    cases h
    rfl
  | case2 | case4 => cases h
  | case3 w ws s ih => exact ih h

/-- A plain value that can be read can be passed over. -/
theorem passPlain_of_value {c : Char} {a : Json} (hspace : isSpace c = false) (harray : c ≠ '[')
    (hobject : c ≠ '\x7b') (h : value 1 (c :: s) = .ok (a, rest)) :
    passPlain (c :: s) = .ok rest ∧ a.depth = 0 := by
  have hword {v : Json} {w : List Char} (hv : v.depth = 0) (h : word v w s = .ok (a, rest)) :
      (word v w s).map Prod.snd = .ok rest ∧ a.depth = 0 :=
    ⟨map_eq_ok_iff.mpr ⟨_, h, rfl⟩, eq_of_word h ▸ hv⟩
  rw [value, skipSpace, List.dropWhile_cons_of_neg (by simp [hspace])] at h
  dsimp only at h
  rw [passPlain]
  by_cases hnull : c = 'n'
  · rw [if_pos hnull] at h ⊢
    exact hword rfl h
  rw [if_neg hnull] at h ⊢
  by_cases htrue : c = 't'
  · rw [if_pos htrue] at h ⊢
    exact hword rfl h
  rw [if_neg htrue] at h ⊢
  by_cases hfalse : c = 'f'
  · rw [if_pos hfalse] at h ⊢
    exact hword rfl h
  rw [if_neg hfalse] at h ⊢
  by_cases hminus : c = '-'
  · rw [if_pos hminus] at h ⊢
    exact passNumber_of_number h
  rw [if_neg hminus] at h ⊢
  by_cases hdigit : c.isDigit = true
  · rw [if_pos hdigit] at h ⊢
    exact passNumber_of_number h
  rw [if_neg hdigit] at h ⊢
  by_cases hquote : c = '"'
  · rw [if_pos hquote] at h ⊢
    obtain ⟨⟨t, after⟩, htext, h⟩ := bind_eq_ok_iff.mp h
    cases h
    exact ⟨passText_of_text htext, rfl⟩
  · rw [if_neg hquote, if_neg harray, if_neg hobject] at h
    cases h

end Passing

end DocSearch.Json
