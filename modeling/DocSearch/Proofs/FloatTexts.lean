import DocSearch.Floating.Layout
import DocSearch.Proofs.Blanks
import DocSearch.Proofs.Rounding

/-!
# Floats that are read back from their texts

The text of a finite float is a decimal whose nearest float is that float. It is not known that the
shortest candidates hold one that reads back, and it need not be: where none does, the exact decimal
is written. Zeros that are taken off the digits or put after them change the decimal but not the
float that is nearest to it.
-/

namespace DocSearch.Floating

/-! ### Powers -/

theorem two_pow_le_ten_pow {a b : Nat} (h : a ≤ 3 * b) : 2 ^ a ≤ 10 ^ b := by
  calc 2 ^ a
    _ ≤ 2 ^ (3 * b) := Nat.pow_le_pow_right (by decide) h
    _ = (2 ^ 3) ^ b := Nat.pow_mul 2 3 b
    _ ≤ 10 ^ b := Nat.pow_le_pow_left (by decide) b

theorem ten_pow_le_five_pow {a b : Nat} (h : 3 * a ≤ 2 * b) : 10 ^ a ≤ 5 ^ b := by
  have hsplit : b - a + a = b := Nat.sub_add_cancel (by omega)
  calc 10 ^ a
    _ = 2 ^ a * 5 ^ a := Nat.mul_pow 2 5 a
    _ ≤ 2 ^ (2 * (b - a)) * 5 ^ a :=
      Nat.mul_le_mul_right _ (Nat.pow_le_pow_right (by decide) (by omega))
    _ = (2 ^ 2) ^ (b - a) * 5 ^ a := by rw [Nat.pow_mul]
    _ ≤ 5 ^ (b - a) * 5 ^ a := Nat.mul_le_mul_right _ (Nat.pow_le_pow_left (by decide) _)
    _ = 5 ^ b := by rw [← Nat.pow_add, hsplit]

/-! ### Quotients of one value -/

section Quotients

variable {f : Format} {c num den : Nat}

theorem roundDiv_mul_left (hc : 0 < c) : Format.roundDiv (c * num) (c * den) =
    Format.roundDiv num den := by
  have hleft (a b : Nat) : 2 * (c * a) < c * b ↔ 2 * a < b := by
    rw [Nat.mul_left_comm]
    exact Nat.mul_lt_mul_left hc
  have hright (a b : Nat) : c * b < 2 * (c * a) ↔ b < 2 * a := by
    rw [Nat.mul_left_comm]
    exact Nat.mul_lt_mul_left hc
  simp only [Format.roundDiv, Nat.mul_div_mul_left _ _ hc, Nat.mul_mod_mul_left, hleft, gt_iff_lt,
    hright]

/-- Only the value of a quotient counts. -/
theorem nearest_mul_left (f : Format) (hc : 0 < c) (num den : Nat) :
    f.nearest (c * num) (c * den) = f.nearest num den := by
  simp only [Format.nearest, Nat.mul_assoc, Nat.mul_div_mul_left _ _ hc, roundDiv_mul_left hc]

theorem le_roundDiv (num den : Nat) : num / den ≤ Format.roundDiv num den := by
  simp only [Format.roundDiv]
  split
  · exact Nat.le_refl _
  · split <;> omega

theorem le_div_of_scaled (a b : Nat) (hden : 0 < den) (h : 2 ^ a * den ≤ num) :
    2 ^ (a + b) ≤ num * 2 ^ b / den := by
  refine (Nat.le_div_iff_mul_le hden).mpr ?_
  rw [Nat.pow_add, Nat.mul_right_comm]
  exact Nat.mul_le_mul_right _ h

/-- Quotients above all finite floats. -/
theorem nearest_of_large (hden : 0 < den) (h : 2 ^ 1024 * den ≤ num) :
    double.nearest num den = double.infinity := by
  let q := num * 2 ^ double.scale / den
  have hscale : double.scale = 1074 := by decide
  have hq : 2 ^ (1024 + double.scale) ≤ q := le_div_of_scaled 1024 double.scale hden h
  have hne : q ≠ 0 := Nat.ne_of_gt (Nat.lt_of_lt_of_le (Nat.two_pow_pos _) hq)
  have hlog : 1024 + double.scale ≤ q.log2 := (Nat.le_log2 hne).mpr hq
  have hround :
      2 ^ 52 ≤ Format.roundDiv (num * 2 ^ double.scale) (den * 2 ^ (q.log2 - 52)) := by
    refine Nat.le_trans ?_ (le_roundDiv _ _)
    rw [← Nat.div_div_eq_div_mul]
    refine (Nat.le_div_iff_mul_le (Nat.two_pow_pos _)).mpr ?_
    rw [← Nat.pow_add, Nat.add_sub_cancel' (by omega)]
    exact Nat.log2_self_le hne
  have hdropped : 2046 * 2 ^ 52 ≤ (q.log2 - 52) * 2 ^ 52 := Nat.mul_le_mul_right _ (by omega)
  have hbits : double.fractionBits = 52 := rfl
  simp only [Format.nearest, Nat.pow_eq, hbits]
  refine Nat.min_eq_left ?_
  rw [infinity_double]
  exact Nat.le_trans (by decide) (Nat.add_le_add hdropped hround)

end Quotients

/-! ### Decimals of one value -/

namespace Decimal

variable {d : Decimal} {tie : Tie} {m n : Nat}

theorem digitCount_ten_mul (hn : n ≠ 0) : digitCount (10 * n) = digitCount n + 1 := by
  have happend := Nat.toDigits_append_toDigits (b := 10) (by decide) (Nat.pos_of_ne_zero hn)
    (by decide : 0 < 10)
  rw [Nat.add_zero] at happend
  rw [digitCount, ← happend, List.length_append]
  rfl

/-- A zero that is taken off the digits counts in the exponent. -/
theorem nearest_ten_mul (n : Nat) (e : Int) : nearest ⟨10 * n, e⟩ = nearest ⟨n, e + 1⟩ := by
  by_cases hn : n = 0
  · simp [nearest, hn]
  have hn' : 10 * n ≠ 0 := by omega
  simp only [nearest, hn, hn', if_false, digitCount_ten_mul hn, Nat.pow_eq]
  by_cases hlarge : 400 < e
  · rw [if_pos hlarge, if_pos (by omega)]
  rw [if_neg hlarge]
  by_cases hsmall : e < -(400 + (digitCount n + 1 : Nat) : Int)
  · rw [if_pos hsmall, if_neg (by omega), if_pos (by omega)]
  rw [if_neg hsmall]
  have hsmall' : ¬e + 1 < -(400 + digitCount n : Int) := by omega
  by_cases hend : 400 < e + 1
  · have he : e = 400 := by omega
    rw [if_pos hend, if_pos (by omega), he]
    refine nearest_of_large Nat.one_pos ?_
    rw [Nat.mul_comm (10 * n)]
    exact Nat.mul_le_mul (two_pow_le_ten_pow (by decide)) (Nat.pos_of_ne_zero hn')
  rw [if_neg hend, if_neg hsmall']
  by_cases hwhole : 0 ≤ e
  · have hpow : 10 * n * 10 ^ e.toNat = n * 10 ^ (e + 1).toNat := by
      rw [show (e + 1).toNat = e.toNat + 1 by omega, Nat.pow_succ]
      ac_rfl
    rw [if_pos hwhole, if_pos (by omega), hpow]
  rw [if_neg hwhole]
  have hpow : 10 ^ (-e).toNat = 10 * 10 ^ (-(e + 1)).toNat := by
    rw [show (-e).toNat = (-(e + 1)).toNat + 1 by omega, Nat.pow_succ, Nat.mul_comm]
  rw [hpow, nearest_mul_left _ (by decide)]
  by_cases hone : 0 ≤ e + 1
  · have he : e + 1 = 0 := by omega
    simp [he]
  · rw [if_neg hone]

theorem nearest_ten_pow_mul (k n : Nat) (e : Int) :
    nearest ⟨10 ^ k * n, e⟩ = nearest ⟨n, e + k⟩ := by
  induction k generalizing e with
  | zero => simp
  | succ k ih =>
    rw [Nat.pow_succ', Nat.mul_assoc, nearest_ten_mul, ih]
    congr 2
    omega

theorem nearest_stripZeros (fuel : Nat) (d : Decimal) :
    (stripZeros fuel d).nearest = d.nearest := by
  induction fuel generalizing d with
  | zero => rfl
  | succ fuel ih =>
    rw [stripZeros]
    split
    · next hzero =>
      have hdigits : 10 * (d.digits / 10) = d.digits := by omega
      rw [ih, ← nearest_ten_mul, hdigits]
    · rfl

theorem nearest_normal (d : Decimal) : d.normal.nearest = d.nearest := by
  rw [normal]
  split
  · next hzero => simp [nearest, hzero]
  · exact nearest_stripZeros _ d

theorem units_ne_zero (hm : m ≠ 0) : double.units m ≠ 0 := by
  rcases lt_or_field double m with hsmall | ⟨k, r, hr, rfl⟩
  · rwa [units_of_lt hsmall]
  · rw [units_of_field hr]
    exact Nat.mul_ne_zero (Nat.ne_of_gt (Nat.add_pos_left (Nat.two_pow_pos _) r))
      (Nat.ne_of_gt (Nat.two_pow_pos k))

theorem nearest_exact (hm : m < double.infinity) : (exact m).nearest = m := by
  have hscale : double.scale = 1074 := by decide
  by_cases hzero : m = 0
  · have hunits : double.units m = 0 := by
      rw [hzero]
      rfl
    rw [exact, hunits, Nat.zero_mul, nearest, if_pos rfl, hzero]
  have hdigits : double.units m * 5 ^ double.scale ≠ 0 :=
    Nat.mul_ne_zero (units_ne_zero hzero) (Nat.ne_of_gt (Nat.pow_pos (by decide)))
  have hcount : double.scale ≤ 400 + digitCount (double.units m * 5 ^ double.scale) := by
    have hfew : ¬digitCount (double.units m * 5 ^ double.scale) ≤ 673 := by
      rw [digitCount, Nat.length_toDigits_le_iff (by decide) (by decide), Nat.not_lt]
      calc 10 ^ 673
        _ ≤ 5 ^ double.scale := ten_pow_le_five_pow (by omega)
        _ ≤ double.units m * 5 ^ double.scale :=
          Nat.le_mul_of_pos_left _ (Nat.pos_of_ne_zero (units_ne_zero hzero))
    omega
  have hten : 10 ^ double.scale = 5 ^ double.scale * 2 ^ double.scale := by
    rw [← Nat.mul_pow]
  have hexact : (-(-(double.scale : Int))).toNat = double.scale := by omega
  rw [exact, nearest]
  simp only [Nat.pow_eq, hdigits, if_false]
  rw [if_neg (by omega), if_neg (by omega), if_neg (by omega), hexact]
  refine nearest_of_exact (Nat.pow_pos (by decide)) (Nat.le_of_lt hm) ?_
  rw [hten, Nat.mul_assoc]

/-- The decimal that is written for a magnitude reads back as it. -/
theorem nearest_shortest (hm : m < double.infinity) : (shortest tie m).nearest = m := by
  rw [shortest]
  split
  · next hzero =>
    rw [hzero]
    rfl
  · rw [nearest_normal]
    cases hfind : (candidates tie (double.units m) (Nat.pow 2 double.scale)).find?
        (·.nearest == m) with
    | none => exact nearest_exact hm
    | some d =>
      have hback := List.find?_some hfind
      exact beq_iff_eq.mp hback

end Decimal

/-! ### Texts of decimals -/

/-- The characters of numbers. -/
def isNumeral (c : Char) : Bool :=
  c.isDigit || c == '.' || c == 'e' || c == 'E' || c == '+' || c == '-'

/-- A text of a decimal: it is read as one of the same value, and is no row of digits, which would
be taken for an integer. -/
structure Decimal.Written (d : Decimal) (s : List Char) : Prop where
  head : ∃ c t, s = c :: t ∧ c.isDigit = true
  numeral : ∀ c ∈ s, isNumeral c = true
  point : ∃ c ∈ s, c.isDigit = false
  read : ∃ d', readDecimal s = some d' ∧ d'.nearest = d.nearest

section Texts

variable {d d' : Decimal} {whole fraction rest : List Char} {e : Int} {x : Float}

/-- Digits with a point among them, before something that is no digit. -/
theorem readDecimal_point (hwhole : ∀ c ∈ whole, c.isDigit = true) (hne : whole ≠ [])
    (hfraction : ∀ c ∈ fraction, c.isDigit = true) (hrest : ∀ c ∈ rest.head?, c.isDigit = false)
    (he : readExponent rest = some e) : readDecimal (whole ++ '.' :: (fraction ++ rest)) =
      some ⟨Nat.ofDigitChars 10 (whole ++ fraction) 0, e - fraction.length⟩ := by
  have hpoint : ∀ c ∈ ('.' :: (fraction ++ rest)).head?, c.isDigit = false := fun c hc => by
    cases hc
    rfl
  simp only [readDecimal, Text.takeWhile_append_of_stop hwhole hpoint,
    Text.dropWhile_append_of_stop hwhole hpoint, Text.takeWhile_append_of_stop hfraction hrest,
    Text.dropWhile_append_of_stop hfraction hrest, List.isEmpty_eq_false_iff.mpr hne, he,
    Bool.false_and, Bool.false_eq_true, if_false, Option.map_some]
  rfl

/-- Digits without a point, before something that is no digit. -/
theorem readDecimal_whole (hwhole : ∀ c ∈ whole, c.isDigit = true) (hne : whole ≠ [])
    (hrest : ∀ c ∈ rest.head?, c.isDigit = false ∧ c ≠ '.') (he : readExponent rest = some e) :
    readDecimal (whole ++ rest) = some ⟨Nat.ofDigitChars 10 whole 0, e⟩ := by
  have hstop : ∀ c ∈ rest.head?, c.isDigit = false := fun c hc => (hrest c hc).1
  simp only [readDecimal, Text.takeWhile_append_of_stop hwhole hstop,
    Text.dropWhile_append_of_stop hwhole hstop]
  split
  · exact absurd rfl (hrest '.' rfl).2
  · simp only [List.isEmpty_eq_false_iff.mpr hne, Bool.false_and, Bool.false_eq_true, if_false, he,
      Option.map_some, List.append_nil, List.length_nil, Int.natCast_zero, Int.sub_zero]
    rfl

theorem isDigit_toDigits {n : Nat} {c : Char} (h : c ∈ Nat.toDigits 10 n) : c.isDigit = true :=
  Nat.isDigit_of_mem_toDigits (by decide) (by decide) h

theorem readExponent_sign (e : Int) : readExponent
    ('e' :: (if 0 ≤ e then '+' else '-') :: Nat.toDigits 10 e.natAbs) = some e := by
  have hdigits : (Nat.toDigits 10 e.natAbs).all Char.isDigit = true :=
    List.all_eq_true.mpr fun c => isDigit_toDigits
  have hvalue : digitsValue 0 (Nat.toDigits 10 e.natAbs) = e.natAbs :=
    Nat.ofDigitChars_ten_toDigits
  by_cases he : 0 ≤ e
  · simp [readExponent, he, splitSign, hdigits, hvalue, Int.natAbs_of_nonneg he]
  · simp [readExponent, he, splitSign, hdigits, hvalue, abs_of_neg (not_le.mp he)]

theorem isNumeral_of_isDigit {c : Char} (h : c.isDigit = true) : isNumeral c = true := by
  simp [isNumeral, h]

theorem written_append (hwhole : ∀ c ∈ whole, c.isDigit = true) (hne : whole ≠ [])
    (hrest : ∀ c ∈ rest, isNumeral c = true) (hpoint : ∃ c ∈ rest, c.isDigit = false)
    (hread : readDecimal (whole ++ rest) = some d') (hvalue : d'.nearest = d.nearest) :
    d.Written (whole ++ rest) where
  head := by
    obtain ⟨c, t, rfl⟩ := List.exists_cons_of_ne_nil hne
    exact ⟨c, t ++ rest, rfl, hwhole c List.mem_cons_self⟩
  numeral := List.forall_mem_append.mpr ⟨fun c hc => isNumeral_of_isDigit (hwhole c hc), hrest⟩
  point := by
    obtain ⟨c, hc, hdigit⟩ := hpoint
    exact ⟨c, List.mem_append_right _ hc, hdigit⟩
  read := ⟨d', hread, hvalue⟩

/-- Digits with a point among them and nothing after them. -/
theorem written_point (hwhole : ∀ c ∈ whole, c.isDigit = true) (hne : whole ≠ [])
    (hfraction : ∀ c ∈ fraction, c.isDigit = true) (hvalue : Decimal.nearest
      ⟨Nat.ofDigitChars 10 (whole ++ fraction) 0, -(fraction.length : Int)⟩ = d.nearest) :
    d.Written (whole ++ '.' :: fraction) := by
  have hread : readDecimal (whole ++ '.' :: (fraction ++ [])) =
      some ⟨Nat.ofDigitChars 10 (whole ++ fraction) 0, 0 - (fraction.length : Int)⟩ :=
    readDecimal_point hwhole hne hfraction (by simp) rfl
  rw [List.append_nil, Int.zero_sub] at hread
  refine written_append hwhole hne ?_ ⟨'.', List.mem_cons_self, rfl⟩ hread hvalue
  exact List.forall_mem_cons.mpr ⟨rfl, fun c hc => isNumeral_of_isDigit (hfraction c hc)⟩

theorem ofDigitChars_zeros (n k : Nat) :
    Nat.ofDigitChars 10 (Nat.toDigits 10 n ++ List.replicate k '0') 0 = 10 ^ k * n := by
  rw [Nat.ofDigitChars_append, Nat.ofDigitChars_ten_toDigits, Nat.ofDigitChars_replicate_zero]

theorem written_positionalText (d : Decimal) :
    d.Written (dataLayout.positionalText d).toList := by
  rw [Layout.positionalText]
  dsimp only
  split
  · next hwhole =>
    have htext : (String.ofList (Nat.toDigits 10 d.digits ++
        List.replicate d.exponent.toNat '0') ++ dataLayout.whole).toList =
        (Nat.toDigits 10 d.digits ++ List.replicate d.exponent.toNat '0') ++ '.' :: ['0'] := by
      rw [String.toList_append, String.toList_ofList]
      rfl
    have hdigits : ∀ c ∈ Nat.toDigits 10 d.digits ++ List.replicate d.exponent.toNat '0',
        c.isDigit = true := by
      refine List.forall_mem_append.mpr ⟨fun c hc => isDigit_toDigits hc, fun c hc => ?_⟩
      obtain rfl := List.eq_of_mem_replicate hc
      rfl
    rw [htext]
    refine written_point hdigits (by simp) (by simp) ?_
    rw [List.append_assoc, ← List.replicate_succ', ofDigitChars_zeros, Decimal.nearest_ten_pow_mul]
    congr 2
    simp only [List.length_singleton]
    omega
  · next hwhole =>
    let places := (-d.exponent).toNat
    let padded := List.replicate (places + 1 - (Nat.toDigits 10 d.digits).length) '0' ++
      Nat.toDigits 10 d.digits
    have hlength : places + 1 ≤ padded.length := by
      rw [List.length_append, List.length_replicate]
      omega
    have hdigits : ∀ c ∈ padded, c.isDigit = true := by
      refine List.forall_mem_append.mpr ⟨fun c hc => ?_, fun c hc => isDigit_toDigits hc⟩
      obtain rfl := List.eq_of_mem_replicate hc
      rfl
    have hvalue : Nat.ofDigitChars 10 padded 0 = d.digits := by
      rw [Nat.ofDigitChars_append, Nat.ofDigitChars_replicate_zero, Nat.mul_zero,
        Nat.ofDigitChars_ten_toDigits]
    have hne : padded.take (padded.length - places) ≠ [] := by
      rw [← List.length_pos_iff, List.length_take]
      omega
    have hexponent : -((padded.drop (padded.length - places)).length : Int) = d.exponent := by
      rw [List.length_drop]
      omega
    rw [String.toList_ofList]
    refine written_point (fun c hc => hdigits c (List.mem_of_mem_take hc)) hne
      (fun c hc => hdigits c (List.mem_of_mem_drop hc)) ?_
    rw [List.take_append_drop, hvalue, hexponent]

theorem written_exponentText (d : Decimal) : d.Written (exponentText d).toList := by
  obtain ⟨c, ds, hds⟩ := List.exists_cons_of_ne_nil (Nat.toDigits_ne_nil (n := d.digits) (b := 10))
  have hdigits (c : Char) (hc : c ∈ Nat.toDigits 10 d.digits) := isDigit_toDigits hc
  have hvalue : Nat.ofDigitChars 10 (Nat.toDigits 10 d.digits) 0 = d.digits :=
    Nat.ofDigitChars_ten_toDigits
  let e := d.exponent + (ds.length : Nat)
  let rest := 'e' :: (if 0 ≤ e then '+' else '-') :: Nat.toDigits 10 e.natAbs
  have hrest : ∀ c ∈ rest.head?, c.isDigit = false ∧ c ≠ '.' := fun c hc => by
    cases hc
    decide
  have htext : (exponentText d).toList =
      c :: ((if ds = [] then [] else ['.']) ++ (ds ++ rest)) := by
    have hsign : (if 0 ≤ e then "+" else "-").toList = [if 0 ≤ e then '+' else '-'] := by
      split <;> rfl
    have hpoint : (if ds = [] then "" else ".").toList = if ds = [] then [] else ['.'] := by
      split <;> rfl
    simp [exponentText, hds, hpoint, hsign, rest, e]
  have hnumeral : ∀ c ∈ rest, isNumeral c = true := by
    refine List.forall_mem_cons.mpr ⟨rfl, List.forall_mem_cons.mpr ⟨?_, fun c hc =>
      isNumeral_of_isDigit (isDigit_toDigits hc)⟩⟩
    split <;> rfl
  rw [hds] at hdigits hvalue
  rw [htext]
  by_cases hone : ds = []
  · subst hone
    have hread := readDecimal_whole hdigits (List.cons_ne_nil c []) hrest (readExponent_sign e)
    rw [hvalue, show e = d.exponent by simp [e]] at hread
    exact written_append hdigits (List.cons_ne_nil c []) hnumeral ⟨'e', List.mem_cons_self, rfl⟩
      hread rfl
  · have hfirst : ∀ d ∈ [c], d.isDigit = true := by simpa using hdigits c List.mem_cons_self
    have hmore : ∀ d ∈ ds, d.isDigit = true := fun d hd => hdigits d (List.mem_cons_of_mem _ hd)
    have hread := readDecimal_point hfirst (List.cons_ne_nil c []) hmore
      (fun d hd => (hrest d hd).1) (readExponent_sign e)
    rw [List.singleton_append, List.singleton_append, hvalue,
      show e - ds.length = d.exponent by simp [e]] at hread
    have hpoint : ∀ c ∈ '.' :: (ds ++ rest), isNumeral c = true :=
      List.forall_mem_cons.mpr ⟨rfl, List.forall_mem_append.mpr
        ⟨fun c hc => isNumeral_of_isDigit (hmore c hc), hnumeral⟩⟩
    rw [if_neg hone]
    exact written_append hfirst (List.cons_ne_nil c []) hpoint ⟨'.', List.mem_cons_self, rfl⟩
      hread rfl

end Texts

/-! ### Texts of floats -/

theorem eq_of_toBits {x y : Float} (h : x.toBits = y.toBits) : x = y := by
  obtain ⟨⟨bits, hbits⟩⟩ := x
  obtain ⟨⟨bits', hbits'⟩⟩ := y
  obtain rfl : bits = bits' := h
  rfl

theorem ofMagnitude_magnitude {x : Float} (h : finite x = true) :
    ofMagnitude (negative x) (magnitude x) = x := by
  have hsize : x.toBits.toNat < 2 ^ 64 := x.toBits.toNat_lt
  have hbits : (if negative x then signBit else 0) + magnitude x = x.toBits.toNat := by
    simp only [negative, magnitude, signBit_eq, decide_eq_true_eq]
    split <;> omega
  rw [ofMagnitude, hbits, UInt64.ofNat_toNat]
  exact eq_of_toBits (toBits_ofBits (decide_eq_true_eq.mp h))

/-- The text of a finite float: a minus sign if it is negative, then a decimal that is nearest to
it. -/
theorem exists_written_text {x : Float} (h : finite x = true) :
    ∃ (s : List Char) (d : Decimal),
      (dataLayout.text x).toList = (if negative x then ['-'] else []) ++ s ∧
        d.Written s ∧ d.toFloat (negative x) = x := by
  let d := Decimal.shortest dataLayout.tie (magnitude x)
  have hfloat : d.toFloat (negative x) = x := by
    rw [Decimal.toFloat, Decimal.nearest_shortest (decide_eq_true_eq.mp h), ofMagnitude_magnitude h]
  have hsign : (if negative x then "-" else "").toList = if negative x then ['-'] else [] := by
    split <;> rfl
  by_cases hpositional :
      dataLayout.positional (d.exponent + (digitCount d.digits - 1 : Nat)) = true
  · refine ⟨(dataLayout.positionalText d).toList, d, ?_, written_positionalText d, hfloat⟩
    rw [← hsign, ← String.toList_append]
    simp only [Layout.text, d, hpositional, if_true]
  · refine ⟨(exponentText d).toList, d, ?_, written_exponentText d, hfloat⟩
    rw [← hsign, ← String.toList_append]
    simp only [Layout.text, d, hpositional, Bool.false_eq_true, if_false]

end DocSearch.Floating
