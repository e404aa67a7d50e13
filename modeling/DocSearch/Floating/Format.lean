/-!
Binary floating-point formats. A magnitude, the bits below the sign, is a natural number whose
order is the order of the values; rounding goes to the nearest magnitude, a tie to the even one.
-/

namespace DocSearch.Floating

/-- A format by the widths of its two fields below the sign. -/
structure Format where
  fractionBits : Nat
  exponentBits : Nat
  deriving Repr, DecidableEq

def double : Format := ⟨52, 11⟩

def single : Format := ⟨23, 8⟩

namespace Format

/-- The magnitude of infinity, below which all magnitudes are finite. -/
def infinity (f : Format) : Nat := (Nat.pow 2 f.exponentBits - 1) * Nat.pow 2 f.fractionBits

/-- The power of two that one unit of the smallest magnitudes stands for, negated. -/
def scale (f : Format) : Nat := Nat.pow 2 (f.exponentBits - 1) - 2 + f.fractionBits

/-- The value of a magnitude as a multiple of the smallest positive value. -/
def units (f : Format) (magnitude : Nat) : Nat :=
  let one := Nat.pow 2 f.fractionBits
  let field := magnitude / one
  let fraction := magnitude % one
  if field = 0 then fraction else (one + fraction) * Nat.pow 2 (field - 1)

/-- The quotient of two numbers rounded to an integer, a tie to the even one. -/
def roundDiv (num den : Nat) : Nat :=
  let q := num / den
  let r := num % den
  if 2 * r < den then q
  else if 2 * r > den then q + 1
  else q + q % 2

/-- The magnitude nearest to `num / den`. The quotient is counted in smallest units, and as many of
its low bits are given up as its size requires. -/
def nearest (f : Format) (num den : Nat) : Nat :=
  let scaled := num * Nat.pow 2 f.scale
  let dropped := (scaled / den).log2 - f.fractionBits
  min f.infinity
    (dropped * Nat.pow 2 f.fractionBits + roundDiv scaled (den * Nat.pow 2 dropped))

end Format

def signBit : Nat := Nat.pow 2 63

def magnitude (x : Float) : Nat := x.toBits.toNat % signBit

/-- Whether the sign bit is set, which tells the two zeros apart. -/
def negative (x : Float) : Bool := decide (signBit ≤ x.toBits.toNat)

def ofMagnitude (negative : Bool) (magnitude : Nat) : Float :=
  Float.ofBits (UInt64.ofNat ((if negative then signBit else 0) + magnitude))

def ofRatio (negative : Bool) (num den : Nat) : Float :=
  ofMagnitude negative (double.nearest num den)

def finite (x : Float) : Bool := decide (magnitude x < double.infinity)

def ofInt (n : Int) : Float := ofRatio (decide (n < 0)) n.natAbs 1

/-- A float of half the width, kept as the float of full width with the same value. -/
structure Single where
  value : Float
  deriving Repr, DecidableEq

namespace Single

/-- The magnitude of full width with the value of a magnitude of half the width. -/
def widen (magnitude : Nat) : Nat :=
  if magnitude < single.infinity then
    double.nearest (single.units magnitude) (Nat.pow 2 single.scale)
  else double.infinity

def round (x : Float) : Single :=
  if finite x then
    ⟨ofMagnitude (negative x)
      (widen (single.nearest (double.units (magnitude x)) (Nat.pow 2 double.scale)))⟩
  else ⟨x⟩

/-- The float of half the width nearest to an integer, rounded once. -/
def ofInt (n : Int) : Single :=
  ⟨ofMagnitude (decide (n < 0)) (widen (single.nearest n.natAbs 1))⟩

end Single

end DocSearch.Floating
