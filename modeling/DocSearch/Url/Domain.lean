import DocSearch.Url.Label

/-!
Domains: labels with points between them.
-/

namespace DocSearch.Url

/-- Splits a text at each character of a kind. -/
def splitWhere (p : Char → Bool) (s : List Char) : List (List Char) :=
  let rec parts : List Char → List Char → List (List Char)
    | read, [] => [read.reverse]
    | read, c :: rest => if p c then read.reverse :: parts [] rest else parts (c :: read) rest
  parts [] s

def refused (c : Char) : Bool :=
  decide (c.toNat ≤ 32) || c.toNat == 127 ||
    ['%', '#', '/', ':', '<', '>', '?', '@', '[', '\\', ']', '^', '|'].contains c

/-- A domain in ASCII, in the form in which it is compared. -/
def asciiDomain (name : String) : Option String := do
  let folded ← Folding.fold? name.toList
  let labels ← (splitWhere (· == '.') folded).mapM readLabel
  let reversing := labels.any fun label => label.any isReversing
  if labels.all isSound && (!reversing || labels.all keepsDirection) then
    let ascii := List.intercalate ['.'] (labels.map asciiLabel)
    if ascii.any refused then none else some (String.ofList ascii)
  else none

end DocSearch.Url
