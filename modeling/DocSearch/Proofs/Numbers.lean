import DocSearch.Corpus.Match
import DocSearch.Proofs.Order

/-!
# The order of numbers

All floats but the undefined one are ordered by three integers: which of the five kinds between the
two infinities a float is of, its exponent and its mantissa. Both infinities and the floats nearest
to integers are in that order, so numbers of both kinds are preordered by size.
-/

namespace DocSearch

open Float.Model (UnpackedFloat Format)

namespace Floating

/-- A float is a number, finite or not. -/
def Defined (x : Float) : Prop := x.toModel.unpack ≠ .notANumber

/-! ### Floats by ranks -/

/-- Kind, exponent and mantissa of a float, the latter two negated below zero. -/
def rank : UnpackedFloat → Int × Int × Int
  | .infinity .negative => (-2, 0, 0)
  | .finite .negative m e _ => (-1, -e, -m)
  | .notANumber => (0, 0, 0)
  | .zero _ => (0, 0, 0)
  | .finite .positive m e _ => (1, e, m)
  | .infinity .positive => (2, 0, 0)

def compareRanks : (a b : Int × Int × Int) → Ordering :=
  compareLex (compareOn (·.1)) (compareLex (compareOn (·.2.1)) (compareOn (·.2.2)))

instance : Std.TransCmp compareRanks :=
  inferInstanceAs (Std.TransCmp (compareLex _ _))

theorem compare_neg (a b : Int) : compare (-a) (-b) = (compare a b).swap := by
  rw [← Std.OrientedOrd.eq_swap]
  simp only [compare, compareOfLessAndEq, Int.neg_lt_neg_iff, Int.neg_inj, eq_comm]

theorem compare_natCast (m n : Nat) : compare (m : Int) (n : Int) = compare m n := by
  simp only [compare, compareOfLessAndEq, Int.ofNat_lt, Int.ofNat_inj]

theorem compare_eq_compareRanks {u v : UnpackedFloat} (hu : u ≠ .notANumber)
    (hv : v ≠ .notANumber) : u.compare v = some (compareRanks (rank u) (rank v)) := by
  have hnegative : ∀ (e f : Int) (m n : Nat), ((compare e f).then (compare m n)).swap =
      (compare (-e) (-f)).then (compare (-m : Int) (-n)) := by
    intro e f m n
    rw [compare_neg, compare_neg, compare_natCast, Ordering.swap_then]
  have hpositive : ∀ (e f : Int) (m n : Nat), (compare e f).then (compare m n) =
      (compare e f).then (compare (m : Int) n) := by
    intro e f m n
    rw [compare_natCast]
  rcases u with (_ | _) | _ | _ | ⟨_ | _, m, e, hm⟩ <;>
    rcases v with (_ | _) | _ | _ | ⟨_ | _, n, f, hn⟩ <;>
    first
      | rfl
      | exact absurd rfl hu
      | exact absurd rfl hv
      | exact congrArg some (hnegative e f m n)
      | exact congrArg some (hpositive e f m n)

theorem lt_iff {x y : Float} : x < y ↔ x.toModel.unpack.compare y.toModel.unpack = some .lt := by
  show decide ((x.toModel.unpack.compare y.toModel.unpack == some .lt) = true) = true ↔ _
  rw [decide_eq_true_iff, beq_iff_eq]

theorem beq_iff {x y : Float} :
    (x == y) = true ↔ x.toModel.unpack.compare y.toModel.unpack = some .eq := by
  show (x.toModel.unpack.compare y.toModel.unpack == some .eq) = true ↔ _
  rw [beq_iff_eq]

theorem compareFloats_eq_compareRanks {x y : Float} (hx : Defined x) (hy : Defined y) :
    compareFloats x y = compareRanks (rank x.toModel.unpack) (rank y.toModel.unpack) := by
  have hxy := compare_eq_compareRanks hx hy
  have hyx := compare_eq_compareRanks hy hx
  have hswap : compareRanks (rank y.toModel.unpack) (rank x.toModel.unpack) =
      (compareRanks (rank x.toModel.unpack) (rank y.toModel.unpack)).swap :=
    Std.OrientedCmp.eq_swap
  rw [hswap] at hyx
  unfold compareFloats
  simp only [lt_iff, hxy, hyx]
  cases compareRanks (rank x.toModel.unpack) (rank y.toModel.unpack) <;> simp

/-! ### Which floats are numbers -/

theorem unpack_ne_notANumber_of {b : BitVec Format.binary64.numBits}
    (h : UnpackedFloat.unpackExponent b = -1#_ → UnpackedFloat.unpackMantissa b = 0#_) :
    UnpackedFloat.unpack Format.binary64 b ≠ .notANumber := by
  unfold UnpackedFloat.unpack
  intro hnan
  by_cases hexponent : UnpackedFloat.unpackExponent b = -1#_
  · rw [if_pos hexponent, if_pos (h hexponent)] at hnan
    cases hnan
  · rw [if_neg hexponent] at hnan
    by_cases hsmall : UnpackedFloat.unpackExponent b = 0#_
    · rw [if_pos hsmall] at hnan
      by_cases hmantissa : UnpackedFloat.unpackMantissa b = 0#_
      · rw [dif_pos hmantissa] at hnan
        cases hnan
      · rw [dif_neg hmantissa] at hnan
        cases hnan
    · rw [if_neg hsmall] at hnan
      cases hnan

/-- Bits whose magnitude is at most that of infinity. -/
theorem unpack_ne_notANumber {b : UInt64} (h : b.toNat % signBit ≤ double.infinity) :
    UnpackedFloat.unpack Format.binary64 b.toBitVec ≠ .notANumber := by
  apply unpack_ne_notANumber_of
  intro hexponent
  have hfield := congrArg BitVec.toNat hexponent
  have hinfinity : double.infinity = 2047 * 2 ^ 52 := by decide
  have hsign : signBit = 2 ^ 63 := by decide
  rw [hinfinity, hsign] at h
  apply BitVec.eq_of_toNat_eq
  simp [UnpackedFloat.unpackExponent, UnpackedFloat.unpackMantissa,
    Nat.shiftRight_eq_div_pow] at hfield ⊢
  omega

/-- Below the greatest exponent field there is no other one that is left for what is not finite. -/
theorem ofNat_ne_neg_one {e : Nat} (h : e + 1 < 2048) : BitVec.ofNat 11 e ≠ -1#11 := by
  intro hfield
  have hvalue := congrArg BitVec.toNat hfield
  simp at hvalue
  omega

theorem unpack_pack_ne_notANumber {u : UnpackedFloat} (hu : u ≠ .notANumber) :
    UnpackedFloat.unpack Format.binary64 (UnpackedFloat.pack Format.binary64 u) ≠
      .notANumber := by
  apply unpack_ne_notANumber_of
  cases u with
  | notANumber => exact absurd rfl hu
  | infinity s => exact fun _ => UnpackedFloat.unpackMantissa_packComponents
  | zero s => exact fun _ => UnpackedFloat.unpackMantissa_packComponents
  | finite s m e hm =>
    have hpack : UnpackedFloat.pack Format.binary64 (.finite s m e hm) =
        if 2 ^ 11 ≤ (e + Format.binary64.exponentBias + 52).toNat + 1 then
          UnpackedFloat.packComponents Format.binary64 s (-1#11) 0
        else if m.log2 + 1 = Format.binary64.mantissaBits then
          UnpackedFloat.packComponents Format.binary64 s
            (BitVec.ofNat 11 (e + Format.binary64.exponentBias + 52).toNat) (BitVec.ofNat 52 m)
        else UnpackedFloat.packComponents Format.binary64 s 0#11 (BitVec.ofNat 52 m) := rfl
    rw [hpack]
    split
    · exact fun _ => UnpackedFloat.unpackMantissa_packComponents
    · next hsmall =>
      intro hexponent
      split at hexponent
      · rw [UnpackedFloat.unpackExponent_packComponents] at hexponent
        exact absurd hexponent (ofNat_ne_neg_one (by omega))
      · rw [UnpackedFloat.unpackExponent_packComponents] at hexponent
        exact absurd hexponent (by decide)

theorem defined_of_finite {x : Float} (h : finite x = true) : Defined x := by
  have hmagnitude : magnitude x < double.infinity := of_decide_eq_true h
  exact unpack_ne_notANumber (Nat.le_of_lt hmagnitude)

theorem defined_ofMagnitude {negative : Bool} {m : Nat} (h : m ≤ double.infinity) :
    Defined (ofMagnitude negative m) := by
  have hinfinity : double.infinity = 2047 * 2 ^ 52 := by decide
  have hsign : signBit = 2 ^ 63 := by decide
  refine unpack_pack_ne_notANumber (unpack_ne_notANumber ?_)
  rw [UInt64.toNat_ofNat', hsign, hinfinity]
  rw [hinfinity] at h
  cases negative <;> simp <;> omega

theorem nearest_le_infinity (f : Floating.Format) (num den : Nat) :
    f.nearest num den ≤ f.infinity :=
  Nat.min_le_left _ _

theorem defined_ofInt (n : Int) : Defined (ofInt n) :=
  defined_ofMagnitude (nearest_le_infinity double _ _)

end Floating

/-! ### Numbers as values -/

/-- Numbers of both kinds are preordered by size. -/
theorem preorders_compareFloats {xs : List Float} (h : ∀ x ∈ xs, Floating.Defined x) :
    Preorders compareFloats xs := by
  have hranks : Preorders Floating.compareRanks (xs.map fun x => Floating.rank x.toModel.unpack) :=
    { eq_swap := fun a _ b _ => Std.OrientedCmp.eq_swap
      isLE_trans := fun a _ b _ c _ => Std.TransCmp.isLE_trans }
  exact hranks.of_map.congr fun x hx y hy =>
    Floating.compareFloats_eq_compareRanks (h x hx) (h y hy)

theorem compareFloats_self {x : Float} (hx : Floating.Defined x) : compareFloats x x = .eq := by
  rw [Floating.compareFloats_eq_compareRanks hx hx]
  exact Std.ReflCmp.compare_self

/-- Floats that are equal tie; the two zeros are such. -/
theorem compareFloats_of_beq {x y : Float} (h : (x == y) = true) : compareFloats x y = .eq := by
  have hcompare := Floating.beq_iff.mp h
  have hx : Floating.Defined x := by
    intro hnan
    rw [hnan] at hcompare
    cases hcompare
  have hy : Floating.Defined y := by
    intro hnan
    rw [hnan] at hcompare
    cases hunpacked : x.toModel.unpack <;> rw [hunpacked] at hcompare <;> cases hcompare
  rw [Floating.compareFloats_eq_compareRanks hx hy]
  exact Option.some.inj ((Floating.compare_eq_compareRanks hx hy).symm.trans hcompare)

end DocSearch
