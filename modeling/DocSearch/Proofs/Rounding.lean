import DocSearch.Proofs.Numbers
import Mathlib

/-!
# Floats that lose nothing

A float is known by its sign and its magnitude, and a magnitude by its value in smallest units. The
nearest magnitude to a value that some magnitude has is that magnitude, since all that rounding
gives up then is zeros. The values of the narrow format are among those of the wide one, so a narrow
float is the same after it was kept as a wide one.
-/

namespace DocSearch

open Float.Model (UnpackedFloat Format)

namespace Floating

/-! ### Parts of a float -/

theorem toNat_packComponents (s : UnpackedFloat.Sign) (e : BitVec 11) (m : BitVec 52) :
    (UnpackedFloat.packComponents Format.binary64 s e m).toNat =
      s.toBitVec.toNat * 2 ^ 63 + e.toNat * 2 ^ 52 + m.toNat := by
  have hm := m.isLt
  have he := e.isLt
  rw [UnpackedFloat.packComponents, BitVec.toNat_append, BitVec.toNat_append,
    ← Nat.shiftLeft_add_eq_or_of_lt he, ← Nat.shiftLeft_add_eq_or_of_lt hm,
    Nat.shiftLeft_eq, Nat.shiftLeft_eq, Nat.add_mul, Nat.mul_assoc, ← Nat.pow_add]

theorem toBitVec_ofBitVec (b : BitVec 1) : (UnpackedFloat.Sign.ofBitVec b).toBitVec = b := by
  revert b
  decide

theorem packComponents_unpack (b : BitVec Format.binary64.numBits) :
    UnpackedFloat.packComponents Format.binary64 (.ofBitVec (UnpackedFloat.unpackSign b))
      (UnpackedFloat.unpackExponent b) (UnpackedFloat.unpackMantissa b) = b := by
  apply BitVec.eq_of_toNat_eq
  have hb : b.toNat < 2 ^ 64 := b.isLt
  rw [toNat_packComponents, toBitVec_ofBitVec]
  simp only [UnpackedFloat.unpackSign, UnpackedFloat.unpackExponent, UnpackedFloat.unpackMantissa,
    BitVec.toNat_cast, BitVec.extractLsb_toNat, Nat.shiftRight_eq_div_pow]
  omega

theorem pack_finite (s : UnpackedFloat.Sign) (m : Nat) (e : Int) (hm : 0 < m) :
    UnpackedFloat.pack Format.binary64 (.finite s m e hm) =
      if 2 ^ 11 ≤ (e + 1075).toNat + 1 then UnpackedFloat.packedInfinity Format.binary64 s
      else if m.log2 + 1 = 53 then
        UnpackedFloat.packComponents Format.binary64 s (BitVec.ofNat 11 (e + 1075).toNat)
          (BitVec.ofNat 52 m)
      else UnpackedFloat.packComponents Format.binary64 s 0#11 (BitVec.ofNat 52 m) := by
  have hbias : e + Format.binary64.exponentBias + (52 : Nat) = e + 1075 := by
    have hvalue : Format.binary64.exponentBias = 1023 := rfl
    rw [hvalue]
    omega
  rw [UnpackedFloat.pack, hbias]
  rfl

/-- Below the normal floats the exponent is the least one and there is no leading bit. -/
theorem pack_subnormal (s : UnpackedFloat.Sign) {m : BitVec 52} (hm : 0 < m.toNat) :
    UnpackedFloat.pack Format.binary64 (.finite s m.toNat (-1074) hm) =
      UnpackedFloat.packComponents Format.binary64 s 0#11 m := by
  have hlog : m.toNat.log2 < 52 := (Nat.log2_lt (by omega)).mpr m.isLt
  rw [pack_finite, if_neg (by decide), if_neg (by omega), BitVec.ofNat_toNat, BitVec.setWidth_eq]

theorem pack_normal (s : UnpackedFloat.Sign) {e : BitVec 11} (he : e.toNat < 2047) (m : BitVec 52)
    (hm : 0 < (1#1 ++ m).toNat) :
    UnpackedFloat.pack Format.binary64 (.finite s (1#1 ++ m).toNat (e.toNat - 1075) hm) =
      UnpackedFloat.packComponents Format.binary64 s e m := by
  have hlt : m.toNat < 2 ^ 52 := m.isLt
  have hvalue : (1#1 ++ m).toNat = 2 ^ 52 + m.toNat := by
    rw [BitVec.toNat_append, ← Nat.shiftLeft_add_eq_or_of_lt hlt]
    rfl
  have hlog : (1#1 ++ m).toNat.log2 = 52 := by
    rw [hvalue]
    exact (Nat.log2_eq_iff (by omega)).mpr (by omega)
  have hexponent : ((e.toNat : Int) - 1075 + 1075).toNat = e.toNat := by omega
  have hlow : BitVec.ofNat 52 (1#1 ++ m).toNat = m := by
    apply BitVec.eq_of_toNat_eq
    rw [BitVec.toNat_ofNat, hvalue]
    omega
  rw [pack_finite, hexponent, if_neg (by omega), hlog, if_pos rfl, hlow, BitVec.ofNat_toNat,
    BitVec.setWidth_eq]

/-- The bits of a finite float are made up again from its parts. -/
theorem pack_unpack {b : BitVec Format.binary64.numBits}
    (h : (UnpackedFloat.unpackExponent b).toNat < 2047) :
    UnpackedFloat.pack Format.binary64 (UnpackedFloat.unpack Format.binary64 b) = b := by
  have hwhole := packComponents_unpack b
  have hne : UnpackedFloat.unpackExponent b ≠ -1#_ := by
    intro heq
    rw [heq] at h
    exact absurd h (by decide)
  unfold UnpackedFloat.unpack
  rw [if_neg hne]
  by_cases hexponent : UnpackedFloat.unpackExponent b = 0#_
  · rw [if_pos hexponent]
    rw [hexponent] at hwhole ⊢
    by_cases hmantissa : UnpackedFloat.unpackMantissa b = 0#_
    · rw [dif_pos hmantissa]
      rw [hmantissa] at hwhole
      exact hwhole
    · rw [dif_neg hmantissa]
      exact (pack_subnormal _ _).trans hwhole
  · rw [if_neg hexponent]
    exact (pack_normal _ h _ _).trans hwhole

/-! ### Signs and magnitudes -/

theorem infinity_double : double.infinity = 2047 * 2 ^ 52 := by decide

theorem signBit_eq : signBit = 2 ^ 63 := by decide

theorem toBits_ofBits {b : UInt64} (h : b.toNat % signBit < double.infinity) :
    (Float.ofBits b).toBits = b := by
  have hfield :
      (@UnpackedFloat.unpackExponent Format.binary64 b.toBitVec).toNat < 2047 := by
    rw [infinity_double, signBit_eq] at h
    simp only [UnpackedFloat.unpackExponent, BitVec.toNat_cast, BitVec.extractLsb_toNat,
      Nat.shiftRight_eq_div_pow, UInt64.toNat_toBitVec]
    omega
  show UInt64.ofBitVec (UnpackedFloat.pack Format.binary64
    (UnpackedFloat.unpack Format.binary64 b.toBitVec)) = b
  rw [pack_unpack hfield]

section Magnitudes

variable {sign : Bool} {m : Nat}

theorem toNat_toBits_ofMagnitude (h : m < double.infinity) :
    (ofMagnitude sign m).toBits.toNat = (if sign then signBit else 0) + m := by
  rw [infinity_double] at h
  have hbits : (UInt64.ofNat ((if sign then signBit else 0) + m)).toNat =
      (if sign then signBit else 0) + m := by
    rw [UInt64.toNat_ofNat']
    cases sign <;> simp [signBit_eq] <;> omega
  have hlow : ((if sign then signBit else 0) + m) % signBit < double.infinity := by
    rw [infinity_double]
    cases sign <;> simp [signBit_eq] <;> omega
  rw [ofMagnitude, toBits_ofBits (by rwa [hbits]), hbits]

theorem magnitude_ofMagnitude (h : m < double.infinity) : magnitude (ofMagnitude sign m) = m := by
  rw [magnitude, toNat_toBits_ofMagnitude h]
  rw [infinity_double] at h
  cases sign <;> simp [signBit_eq] <;> omega

theorem negative_ofMagnitude (h : m < double.infinity) : negative (ofMagnitude sign m) = sign := by
  rw [negative, toNat_toBits_ofMagnitude h]
  rw [infinity_double] at h
  cases sign <;> simp [signBit_eq]
  omega

theorem finite_ofMagnitude (h : m < double.infinity) : finite (ofMagnitude sign m) = true := by
  rw [finite, magnitude_ofMagnitude h, decide_eq_true h]

end Magnitudes

/-! ### Exact quotients -/

section Exact

variable {f : Floating.Format} {m k r : Nat}

theorem units_of_lt (h : m < 2 ^ f.fractionBits) : f.units m = m := by
  simp [Floating.Format.units, Nat.div_eq_of_lt h, Nat.mod_eq_of_lt h]

theorem units_of_field (hr : r < 2 ^ f.fractionBits) :
    f.units ((k + 1) * 2 ^ f.fractionBits + r) = (2 ^ f.fractionBits + r) * 2 ^ k := by
  have hpos : 0 < 2 ^ f.fractionBits := Nat.two_pow_pos _
  have hdiv : ((k + 1) * 2 ^ f.fractionBits + r) / 2 ^ f.fractionBits = k + 1 := by
    rw [Nat.mul_comm, Nat.mul_add_div hpos, Nat.div_eq_of_lt hr, Nat.add_zero]
  have hmod : ((k + 1) * 2 ^ f.fractionBits + r) % 2 ^ f.fractionBits = r := by
    rw [Nat.mul_comm, Nat.mul_add_mod, Nat.mod_eq_of_lt hr]
  simp [Floating.Format.units, hdiv, hmod]

/-- A magnitude is below the normal ones, or it has an exponent field and a fraction. -/
theorem lt_or_field (f : Floating.Format) (m : Nat) :
    m < 2 ^ f.fractionBits ∨
      ∃ k r, r < 2 ^ f.fractionBits ∧ m = (k + 1) * 2 ^ f.fractionBits + r := by
  have hpos : 0 < 2 ^ f.fractionBits := Nat.two_pow_pos _
  by_cases hm : m < 2 ^ f.fractionBits
  · exact Or.inl hm
  · have hfield : 0 < m / 2 ^ f.fractionBits := Nat.div_pos (by omega) hpos
    refine Or.inr ⟨m / 2 ^ f.fractionBits - 1, m % 2 ^ f.fractionBits, Nat.mod_lt _ hpos, ?_⟩
    rw [Nat.sub_add_cancel hfield]
    exact (Nat.div_add_mod' m _).symm

theorem roundDiv_mul {q den : Nat} (hden : 0 < den) :
    Floating.Format.roundDiv (q * den) den = q := by
  simp [Floating.Format.roundDiv, Nat.mul_div_cancel _ hden, hden]

theorem log2_units_of_field (hr : r < 2 ^ f.fractionBits) :
    ((2 ^ f.fractionBits + r) * 2 ^ k).log2 = f.fractionBits + k := by
  have hpos : 0 < 2 ^ k := Nat.two_pow_pos k
  have hlow : 2 ^ (f.fractionBits + k) ≤ (2 ^ f.fractionBits + r) * 2 ^ k := by
    rw [Nat.pow_add]
    exact Nat.mul_le_mul_right _ (Nat.le_add_right _ _)
  have hhigh : (2 ^ f.fractionBits + r) * 2 ^ k < 2 ^ (f.fractionBits + k + 1) := by
    rw [Nat.add_right_comm, Nat.pow_add, Nat.pow_succ]
    exact Nat.mul_lt_mul_of_pos_right (by omega) hpos
  refine (Nat.log2_eq_iff ?_).mpr ⟨hlow, hhigh⟩
  exact Nat.ne_of_gt (Nat.lt_of_lt_of_le (Nat.two_pow_pos _) hlow)

/-- The magnitude of an exact quotient is the one that is nearest to it. -/
theorem nearest_of_exact {num den : Nat} (hden : 0 < den) (hm : m ≤ f.infinity)
    (h : num * 2 ^ f.scale = f.units m * den) : f.nearest num den = m := by
  have hquotient : f.units m * den / den = f.units m := Nat.mul_div_cancel _ hden
  simp only [Floating.Format.nearest, Nat.pow_eq, h, hquotient]
  rcases lt_or_field f m with hsmall | ⟨k, r, hr, rfl⟩
  · have hlog : m.log2 - f.fractionBits = 0 := by
      by_cases hzero : m = 0
      · subst hzero
        simp
      · exact Nat.sub_eq_zero_of_le (Nat.le_of_lt ((Nat.log2_lt hzero).mpr hsmall))
    rw [units_of_lt hsmall, hlog, Nat.pow_zero, Nat.mul_one, roundDiv_mul hden, Nat.zero_mul,
      Nat.zero_add]
    exact Nat.min_eq_right hm
  · have hwhole : (2 ^ f.fractionBits + r) * 2 ^ k * den =
        (2 ^ f.fractionBits + r) * (den * 2 ^ k) := by
      rw [Nat.mul_assoc, Nat.mul_comm (2 ^ k)]
    have hsum : k * 2 ^ f.fractionBits + (2 ^ f.fractionBits + r) =
        (k + 1) * 2 ^ f.fractionBits + r := by
      rw [Nat.succ_mul, Nat.add_assoc]
    rw [units_of_field hr, log2_units_of_field hr, Nat.add_sub_cancel_left, hwhole,
      roundDiv_mul (Nat.mul_pos hden (Nat.two_pow_pos k)), hsum]
    exact Nat.min_eq_right hm

end Exact

/-! ### From the narrow format to the wide one -/

section Widening

variable {f : Floating.Format} {m : Nat}

/-- Twice a value is the value of a magnitude that is not much greater. -/
theorem exists_units_double (f : Floating.Format) (m : Nat) :
    ∃ m' ≤ m + 2 ^ f.fractionBits, f.units m' = 2 * f.units m := by
  rcases lt_or_field f m with hsmall | ⟨k, r, hr, rfl⟩
  · refine ⟨2 * m, by omega, ?_⟩
    rw [units_of_lt hsmall]
    by_cases htwice : 2 * m < 2 ^ f.fractionBits
    · exact units_of_lt htwice
    · have hfraction : 2 * m - 2 ^ f.fractionBits < 2 ^ f.fractionBits := by omega
      have hfield : (0 + 1) * 2 ^ f.fractionBits + (2 * m - 2 ^ f.fractionBits) = 2 * m := by omega
      rw [← hfield, units_of_field hfraction]
      omega
  · have hnext : (k + 1) * 2 ^ f.fractionBits + r + 2 ^ f.fractionBits =
        (k + 1 + 1) * 2 ^ f.fractionBits + r := by
      rw [Nat.succ_mul (k + 1)]
      omega
    refine ⟨_, Nat.le_refl _, ?_⟩
    rw [hnext, units_of_field hr, units_of_field hr, Nat.pow_succ]
    ac_rfl

theorem exists_units_mul_two_pow (f : Floating.Format) (m e : Nat) :
    ∃ m' ≤ m + e * 2 ^ f.fractionBits, f.units m' = f.units m * 2 ^ e := by
  induction e with
  | zero => exact ⟨m, by simp, by simp⟩
  | succ e ih =>
    obtain ⟨m₁, hle₁, hunits₁⟩ := ih
    obtain ⟨m₂, hle₂, hunits₂⟩ := exists_units_double f m₁
    refine ⟨m₂, ?_, ?_⟩
    · rw [Nat.succ_mul]
      omega
    · rw [hunits₂, hunits₁, Nat.pow_succ]
      ac_rfl

/-- The value of a finite magnitude of the narrow format is that of one of the wide format. -/
theorem exists_units_single (h : m < single.infinity) :
    ∃ m' < double.infinity,
      double.units m' = single.units m * 2 ^ (double.scale - single.scale) := by
  have hinfinity : single.infinity = 255 * 2 ^ 23 := by decide
  have hbits : single.fractionBits = 23 := rfl
  rw [hinfinity] at h
  have hwide : ∃ a e, a < 2 ^ 24 ∧ e < 254 ∧ single.units m = a * 2 ^ e := by
    rcases lt_or_field single m with hsmall | ⟨k, r, hr, rfl⟩
    · rw [units_of_lt hsmall]
      rw [hbits] at hsmall
      exact ⟨m, 0, by omega, by omega, by simp⟩
    · rw [units_of_field hr]
      rw [hbits] at hr h ⊢
      exact ⟨2 ^ 23 + r, k, by omega, by omega, rfl⟩
  obtain ⟨a, e, ha, he, hunits⟩ := hwide
  have hself : double.units a = a := units_of_lt (Nat.lt_trans ha (by decide))
  obtain ⟨m', hle, hunits'⟩ :=
    exists_units_mul_two_pow double a (e + (double.scale - single.scale))
  refine ⟨m', ?_, ?_⟩
  · have hscale : double.scale - single.scale = 925 := by decide
    have hbound : (e + (double.scale - single.scale)) * 2 ^ double.fractionBits ≤ 1178 * 2 ^ 52 :=
      Nat.mul_le_mul_right _ (by omega)
    rw [infinity_double]
    omega
  · rw [hunits', hself, hunits, Nat.mul_assoc, ← Nat.pow_add]

/-- What becomes of a narrow magnitude: a wide one to which it is nearest in its turn. -/
theorem widen_spec (h : m < single.infinity) :
    Single.widen m < double.infinity ∧
      single.nearest (double.units (Single.widen m)) (Nat.pow 2 double.scale) = m := by
  obtain ⟨m', hlt, hunits⟩ := exists_units_single h
  have hscale : 2 ^ (double.scale - single.scale) * 2 ^ single.scale = 2 ^ double.scale := by
    have hexponent : double.scale - single.scale + single.scale = double.scale := by decide
    rw [← Nat.pow_add, hexponent]
  have hwiden : Single.widen m = m' := by
    rw [Single.widen, if_pos h]
    refine nearest_of_exact (Nat.two_pow_pos _) (Nat.le_of_lt hlt) ?_
    rw [hunits, Nat.mul_assoc, Nat.pow_eq, hscale]
  rw [hwiden]
  have hden : 0 < Nat.pow 2 double.scale := by simp only [Nat.pow_eq, Nat.two_pow_pos]
  refine ⟨hlt, nearest_of_exact hden (Nat.le_of_lt h) ?_⟩
  rw [hunits, Nat.mul_assoc, hscale, Nat.pow_eq]

end Widening

/-- A finite float of the narrow format. -/
def Single.Finite (x : Single) : Prop :=
  ∃ sign, ∃ m < single.infinity, x = ⟨ofMagnitude sign (Single.widen m)⟩

theorem Single.Finite.finite_value {x : Single} (h : x.Finite) : finite x.value = true := by
  obtain ⟨sign, m, hm, rfl⟩ := h
  exact finite_ofMagnitude (widen_spec hm).1

theorem Single.Finite.round_value {x : Single} (h : x.Finite) : Single.round x.value = x := by
  have hfinite := h.finite_value
  obtain ⟨sign, m, hm, rfl⟩ := h
  obtain ⟨hwide, hnearest⟩ := widen_spec hm
  rw [Single.round, if_pos hfinite, magnitude_ofMagnitude hwide, negative_ofMagnitude hwide]
  exact congrArg (fun m => Single.mk (ofMagnitude sign (Single.widen m))) hnearest

end Floating

end DocSearch
