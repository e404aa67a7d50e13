/-!
Integers that fit into words of 64 bits.
-/

namespace DocSearch.Word

def int64? (n : Int) : Option Int64 :=
  if Int64.minValue.toInt ≤ n ∧ n ≤ Int64.maxValue.toInt then some (Int64.ofInt n) else none

def word64? (n : Int) : Option UInt64 :=
  if 0 ≤ n ∧ n < UInt64.size then some (UInt64.ofNat n.toNat) else none

end DocSearch.Word
