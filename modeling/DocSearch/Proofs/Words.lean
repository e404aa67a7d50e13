import DocSearch.Text.Integer

/-!
# Integers of 64 bits

A word is what is read for the integer that it stands for, and for the decimal of that integer.
-/

namespace DocSearch

theorem Word.int64?_toInt (n : Int64) : Word.int64? n.toInt = some n := by
  have hlow : Int64.minValue.toInt ≤ n.toInt := Int64.le_iff_toInt_le.mp n.minValue_le
  have hhigh : n.toInt ≤ Int64.maxValue.toInt := Int64.le_iff_toInt_le.mp n.le_maxValue
  rw [int64?, if_pos ⟨hlow, hhigh⟩, Int64.ofInt_toInt]

namespace Text

theorem readNat_toDigits (n : Nat) : readNat (Nat.toDigits 10 n) = some n := by
  have hdigits : (Nat.toDigits 10 n).all Char.isDigit = true :=
    List.all_eq_true.mpr fun c hc => Nat.isDigit_of_mem_toDigits (by decide) (by decide) hc
  have hempty : (Nat.toDigits 10 n).isEmpty = false := by simp
  have hvalue : Floating.digitsValue 0 (Nat.toDigits 10 n) = n := Nat.ofDigitChars_ten_toDigits
  rw [readNat, hempty, hdigits, hvalue]
  rfl

theorem splitSign_toDigits (n : Nat) :
    Floating.splitSign (Nat.toDigits 10 n) = (false, Nat.toDigits 10 n) := by
  cases hdigits : Nat.toDigits 10 n with
  | nil => rfl
  | cons c s =>
    have hdigit : c.isDigit = true :=
      Nat.isDigit_of_mem_toDigits (b := 10) (n := n) (by decide) (by decide) (by simp [hdigits])
    unfold Floating.splitSign
    split
    · next heq =>
      obtain rfl := (List.cons.inj heq).1
      exact absurd hdigit (by decide)
    · next heq =>
      obtain rfl := (List.cons.inj heq).1
      exact absurd hdigit (by decide)
    · rfl

/-- The characters of an integer: a minus sign if it is negative, then the digits. -/
theorem toList_toString (n : Int) :
    (toString n).toList = if 0 ≤ n then Nat.toDigits 10 n.toNat
      else '-' :: Nat.toDigits 10 (-n).toNat := by
  rw [Int.toString_eq_repr, Int.repr_eq_if]
  split
  · exact Nat.toList_repr
  · rw [String.toList_append, Nat.toList_repr]
    rfl

theorem readInt_toString (n : Int) : readInt (toString n).toList = some n := by
  rw [toList_toString]
  by_cases hsign : 0 ≤ n
  · have hvalue : (n.toNat : Int) = n := Int.toNat_of_nonneg hsign
    rw [if_pos hsign, readInt, splitSign_toDigits]
    simp only [readNat_toDigits]
    exact congrArg some hvalue
  · have hvalue : -((-n).toNat : Int) = n := by omega
    rw [if_neg hsign, readInt, Floating.splitSign]
    simp only [readNat_toDigits]
    exact congrArg some hvalue

theorem readInt64_toString (n : Int64) : readInt64 (toString n.toInt) = some n := by
  rw [readInt64, readInt_toString, Option.bind_some, Word.int64?_toInt]

end Text

end DocSearch
