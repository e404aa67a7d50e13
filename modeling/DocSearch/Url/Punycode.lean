/-!
Labels of a domain in ASCII. The characters outside ASCII are taken out and described after the
others: in ascending order, each by how many places lie between it and the one before.
-/

namespace DocSearch.Url

def punyDigit (n : Nat) : Char := if n < 26 then Char.ofNat (97 + n) else Char.ofNat (22 + n)

/-- The least value that a digit must have for another one to follow. -/
def threshold (k bias : Nat) : Nat :=
  if k ≤ bias + 1 then 1 else if bias + 26 ≤ k then 26 else k - bias

/-- Divides a distance until it is small, counting the steps in units of the base. -/
def damp : (fuel : Nat) → Nat → Nat → Nat × Nat
  | 0, delta, k => (delta, k)
  | fuel + 1, delta, k => if 455 < delta then damp fuel (delta / 35) (k + 36) else (delta, k)

/-- The bias after a distance has been written, which follows the size of the distances. -/
def adapt (delta count : Nat) (first : Bool) : Nat :=
  let delta := if first then delta / 700 else delta / 2
  let (delta, k) := damp delta (delta + delta / count) 0
  k + 36 * delta / (delta + 38)

def distance (bias : Nat) : (fuel : Nat) → (k q : Nat) → List Char
  | 0, _, _ => []
  | fuel + 1, k, q =>
    let t := threshold k bias
    if q < t then [punyDigit q]
    else punyDigit (t + (q - t) % (36 - t)) :: distance bias fuel (k + 36) ((q - t) / (36 - t))

/-- The state of the description: the digits so far, the distance to the next character, the bias
and the number of characters handled. -/
structure Puny where
  digits : List Char
  delta : Nat
  bias : Nat
  handled : Nat

/-- Passes a character of the label while those with the code point `m` are described. -/
def Puny.pass (basic m : Nat) (p : Puny) (c : Char) : Puny :=
  if c.toNat < m then { p with delta := p.delta + 1 }
  else if c.toNat = m then
    { digits := p.digits ++ distance p.bias (p.delta + 1) 36 p.delta
      delta := 0
      bias := adapt p.delta (p.handled + 1) (p.handled == basic)
      handled := p.handled + 1 }
  else p

/-- Describes the characters with the given code points, which are in ascending order. -/
def Puny.describe (label : List Char) (basic : Nat) : List Nat → (from_ : Nat) → Puny → Puny
  | [], _, p => p
  | m :: rest, n, p =>
    let p := { p with delta := p.delta + (m - n) * (p.handled + 1) }
    let p := label.foldl (Puny.pass basic m) p
    describe label basic rest (m + 1) { p with delta := p.delta + 1 }

/-- Adds a code point to others in ascending order. -/
def insertPoint (m : Nat) : List Nat → List Nat
  | [] => [m]
  | n :: ns => if m < n then m :: n :: ns else if m = n then n :: ns else n :: insertPoint m ns

def asciiLabel (label : List Char) : List Char :=
  if label.all fun c => c.toNat < 128 then label
  else
    let basic := label.filter fun c => c.toNat < 128
    let points := label.foldl (fun ps c => if c.toNat < 128 then ps else insertPoint c.toNat ps) []
    let start : Puny := ⟨[], 0, 72, basic.length⟩
    let p := Puny.describe label basic.length points 128 start
    ['x', 'n', '-', '-'] ++ basic ++ (if basic.isEmpty then [] else ['-']) ++ p.digits

/-! ### Reading a description -/

def punyValue (c : Char) : Option Nat :=
  if 'a' ≤ c ∧ c ≤ 'z' then some (c.toNat - 97)
  else if '0' ≤ c ∧ c ≤ '9' then some (c.toNat - 22)
  else none

def withinWord (n : Nat) : Option Nat := if n < UInt32.size then some n else none

/-- Reads a distance: adds digits of varying weight to a sum. -/
def readDistance (bias : Nat) : (k weight sum : Nat) → List Char → Option (Nat × List Char)
  | _, _, _, [] => none
  | k, weight, sum, c :: s => do
    let d ← punyValue c
    let sum ← withinWord (sum + d * weight)
    let t := threshold k bias
    if d < t then some (sum, s)
    else
      let weight ← withinWord (weight * (36 - t))
      readDistance bias (k + 36) weight sum s

/-- Puts the characters that are described into a label, at most `fuel` of them. The next one has
the code point `n` and the place `i` or follows from there. -/
def insertDescribed : (fuel n i bias : Nat) → (label : List Char) → List Char → Option (List Char)
  | _, _, _, _, label, [] => some label
  | 0, _, _, _, _, _ => none
  | fuel + 1, n, i, bias, label, s => do
    let (j, rest) ← readDistance bias 36 1 i s
    let places := label.length + 1
    let n := n + j / places
    if n.isValidChar then
      insertDescribed fuel n (j % places + 1) (adapt (j - i) places (i == 0))
        (label.insertIdx (j % places) (Char.ofNat n)) rest
    else none

def describedLabel (s : List Char) : Option (List Char) :=
  let digits := (s.reverse.takeWhile (· != '-')).reverse
  let basic := s.take (s.length - digits.length - 1)
  if basic.all fun c => c.toNat < 128 then
    insertDescribed s.length 128 0 72 basic (if basic.isEmpty then s else digits)
  else none

end DocSearch.Url
