import DocSearch.Floating.Decimal
import DocSearch.Word

/-!
Integers in decimal.
-/

namespace DocSearch.Text

/-- The number that digits stand for, of which there must be at least one. -/
def readNat (s : List Char) : Option Nat :=
  if s.isEmpty || !s.all Char.isDigit then none else some (Floating.digitsValue 0 s)

/-- The integer that digits stand for, with a sign before them if there is one. -/
def readInt (s : List Char) : Option Int :=
  let (minus, digits) := Floating.splitSign s
  (readNat digits).map fun n => if minus then -(n : Int) else n

/-- The integer of 64 bits with a sign that a text stands for. -/
def readInt64 (s : String) : Option Int64 :=
  (readInt s.toList).bind Word.int64?

/-- The size of 64 bits that a text stands for. It may have a plus sign. -/
def readSize (s : String) : Option UInt64 :=
  let digits := match s.toList with
    | '+' :: ds => ds
    | ds => ds
  (readNat digits).bind fun n => Word.word64? n

end DocSearch.Text
