import DocSearch.Floating.Format

/-!
Decimal numbers and the floats nearest to them. The decimal of a float is the shortest that reads
back as the float, and of those the nearest. Where two are equally near, a rule for ties decides.
-/

namespace DocSearch.Floating

/-- The number `digits · 10 ^ exponent`. -/
structure Decimal where
  digits : Nat
  exponent : Int
  deriving Repr, DecidableEq

/-- Which of two equally near decimals is taken. -/
inductive Tie where
  | even
  | up
  deriving Repr, DecidableEq

/-- Whether a number has to be counted up by one, given twice the remainder above it and the unit
in which it is counted. -/
def Tie.roundsUp (tie : Tie) (low twice unit : Nat) : Bool :=
  match compare twice unit with
  | .lt => false
  | .gt => true
  | .eq => tie == .up || low % 2 == 1

def digitCount (n : Nat) : Nat := (Nat.toDigits 10 n).length

namespace Decimal

/-- The magnitude nearest to a decimal. Decimals far outside the range of floats are settled by
their exponent alone. -/
def nearest (d : Decimal) : Nat :=
  if d.digits = 0 then 0
  else if 400 < d.exponent then double.infinity
  else if d.exponent < -(400 + digitCount d.digits : Int) then 0
  else if 0 ≤ d.exponent then double.nearest (d.digits * Nat.pow 10 d.exponent.toNat) 1
  else double.nearest d.digits (Nat.pow 10 (-d.exponent).toNat)

def toFloat (negative : Bool) (d : Decimal) : Float := ofMagnitude negative d.nearest

/-- A decimal without the trailing zeros of its digits, removed at most `fuel` times. -/
def stripZeros (fuel : Nat) (d : Decimal) : Decimal :=
  match fuel with
  | 0 => d
  | fuel + 1 =>
    if d.digits % 10 = 0 ∧ d.digits ≠ 0 then stripZeros fuel ⟨d.digits / 10, d.exponent + 1⟩ else d

def normal (d : Decimal) : Decimal :=
  if d.digits = 0 then ⟨0, 0⟩ else stripZeros (digitCount d.digits) d

/-- The number `k` with `10 ^ (k - 1) ≤ num / den < 10 ^ k`, for a positive quotient. -/
def order (num den : Nat) : Int :=
  if den ≤ num then digitCount (num / den) else 1 - (digitCount ((den - 1) / num) : Int)

/-- The multiples of `10 ^ exponent` on the two sides of a quotient, the nearer one first. -/
def neighbours (tie : Tie) (num den : Nat) (exponent : Int) : List Decimal :=
  let n := if 0 ≤ exponent then num else num * Nat.pow 10 (-exponent).toNat
  let d := if 0 ≤ exponent then den * Nat.pow 10 exponent.toNat else den
  let low := n / d
  if tie.roundsUp low (2 * (n % d)) d then [⟨low + 1, exponent⟩, ⟨low, exponent⟩]
  else [⟨low, exponent⟩, ⟨low + 1, exponent⟩]

/-- The decimals that may stand for a positive quotient, with one digit, two digits and so on. -/
def candidates (tie : Tie) (num den : Nat) : List Decimal :=
  let k := order num den
  (List.range 17).flatMap fun n => neighbours tie num den (k - (n + 1 : Nat))

def exact (magnitude : Nat) : Decimal :=
  ⟨double.units magnitude * Nat.pow 5 double.scale, -(double.scale : Int)⟩

def shortest (tie : Tie) (magnitude : Nat) : Decimal :=
  if magnitude = 0 then ⟨0, 0⟩
  else
    let readingBack := (candidates tie (double.units magnitude) (Nat.pow 2 double.scale)).find?
      (·.nearest == magnitude)
    (readingBack.getD (exact magnitude)).normal

end Decimal

def digitValue (c : Char) : Nat := c.toNat - '0'.toNat

/-- The number that a row of digits stands for after the digits already read. -/
def digitsValue (before : Nat) (ds : List Char) : Nat :=
  ds.foldl (fun n c => 10 * n + digitValue c) before

/-- A sign, if there is one, and what follows it. -/
def splitSign : List Char → Bool × List Char
  | '-' :: s => (true, s)
  | '+' :: s => (false, s)
  | s => (false, s)

/-- The exponent at the end of a number, zero if there is none. -/
def readExponent : List Char → Option Int
  | [] => some 0
  | c :: s =>
    if c = 'e' ∨ c = 'E' then
      let (minus, ds) := splitSign s
      if ds.isEmpty || !ds.all Char.isDigit then none
      else some (if minus then -(digitsValue 0 ds : Int) else digitsValue 0 ds)
    else none

/-- Reads a decimal without a sign: digits with an optional point among or beside them, then an
optional exponent. -/
def readDecimal (s : List Char) : Option Decimal :=
  let whole := s.takeWhile Char.isDigit
  let afterWhole := s.dropWhile Char.isDigit
  let (fraction, rest) :=
    match afterWhole with
    | '.' :: t => (t.takeWhile Char.isDigit, t.dropWhile Char.isDigit)
    | t => ([], t)
  if whole.isEmpty && fraction.isEmpty then none
  else (readExponent rest).map fun e =>
    ⟨digitsValue 0 (whole ++ fraction), e - fraction.length⟩

/-- Reads a float: a sign, then a decimal or a name of infinity or of the undefined value. -/
def readFloat (s : List Char) : Option Float :=
  let (minus, t) := splitSign s
  let name := t.map Char.toLower
  if name == "inf".toList || name == "infinity".toList then
    some (ofMagnitude minus double.infinity)
  else if name == "nan".toList then some (ofMagnitude minus (double.infinity + Nat.pow 2 51))
  else (readDecimal t).map (·.toFloat minus)

end DocSearch.Floating
