import DocSearch.Floating.Decimal

/-!
The text of a float: its shortest decimal, set out positionally or with an exponent.
-/

namespace DocSearch.Floating

/-- How decimals are set out. -/
structure Layout where
  /-- Which exponents of the leading digit are written positionally. -/
  positional : Int → Bool
  /-- What follows the digits of a whole number in positional form. -/
  whole : String
  /-- Which of two equally near decimals is written. -/
  tie : Tie

def Layout.positionalText (l : Layout) (d : Decimal) : String :=
  let ds := Nat.toDigits 10 d.digits
  if 0 ≤ d.exponent then
    String.ofList (ds ++ List.replicate d.exponent.toNat '0') ++ l.whole
  else
    let places := (-d.exponent).toNat
    let padded := List.replicate (places + 1 - ds.length) '0' ++ ds
    let whole := padded.length - places
    String.ofList (padded.take whole ++ '.' :: padded.drop whole)

/-- A decimal as one digit, the others after a point, and the exponent with its sign. -/
def exponentText (d : Decimal) : String :=
  let ds := Nat.toDigits 10 d.digits
  let e := d.exponent + (ds.length - 1 : Nat)
  let point := if ds.length = 1 then "" else "."
  String.ofList (ds.take 1) ++ point ++ String.ofList (ds.drop 1) ++ "e" ++
    (if 0 ≤ e then "+" else "-") ++ toString e.natAbs

def Layout.text (l : Layout) (x : Float) : String :=
  let d := Decimal.shortest l.tie (magnitude x)
  let e := d.exponent + (digitCount d.digits - 1 : Nat)
  (if negative x then "-" else "") ++ if l.positional e then l.positionalText d else exponentText d

/-- Whole numbers keep a decimal, exponents below `-5` or above `15` are written out, and a tie goes
to the even digit. -/
def dataLayout : Layout := ⟨fun e => decide (-5 ≤ e ∧ e < 16), ".0", .even⟩

/-- Always positional, a whole number has no decimals, and a tie goes up. -/
def plainLayout : Layout := ⟨fun _ => true, "", .up⟩

def plainText (x : Float) : String :=
  if finite x then plainLayout.text x
  else if magnitude x = double.infinity then (if negative x then "-inf" else "inf")
  else "NaN"

end DocSearch.Floating
