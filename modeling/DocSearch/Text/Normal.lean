import DocSearch.Text.CombiningClass
import DocSearch.Text.Composition
import DocSearch.Text.Replacement

/-!
The composed form of a text, which is the same for all texts that look the same: characters are
taken apart, the marks around a letter are put in the order of their classes, and each pair that has
a single character in its place is put together.
-/

namespace DocSearch.Text

/-! ### Syllables

A syllable of two or three letters has a code point that is counted out of those of its letters. -/

/-- The two code points in whose place a syllable stands: two letters, or a syllable and its last
letter. -/
def syllableParts? (n : Nat) : Option (Nat × Nat) :=
  if 44032 ≤ n ∧ n < 55204 then
    let i := n - 44032
    if i % 28 = 0 then some (4352 + i / 588, 4449 + i % 588 / 28)
    else some (n - i % 28, 4519 + i % 28)
  else none

/-- The syllable in place of two letters, or of a syllable and its last letter. -/
def syllable? (a b : Nat) : Option Nat :=
  if 4352 ≤ a ∧ a < 4371 ∧ 4449 ≤ b ∧ b < 4470 then
    some (44032 + 588 * (a - 4352) + 28 * (b - 4449))
  else if 44032 ≤ a ∧ a < 55204 ∧ (a - 44032) % 28 = 0 ∧ 4519 < b ∧ b < 4547 then
    some (a + (b - 4519))
  else none

/-! ### Taking apart -/

/-- What a code point consists of, taken apart at most `fuel` times. -/
def takeApart : (fuel : Nat) → Nat → List Nat
  | 0, n => [n]
  | fuel + 1, n =>
    if n < 192 then [n]
    else
      match replacement? n with
      | some ns => ns
      | none =>
        match (syllableParts? n).or (parts? n) with
        | some (a, b) => takeApart fuel a ++ [b]
        | none => [n]

/-- How often a character can be taken apart. -/
def partLevels : Nat := 4

/-! ### Order of marks -/

/-- Puts a mark with its class before the marks of greater classes that end a text. The text is
given in reverse order. -/
def insertMark (mark : Char × Nat) : List (Char × Nat) → List (Char × Nat)
  | [] => [mark]
  | last :: before =>
    if 0 < mark.2 ∧ mark.2 < last.2 then last :: insertMark mark before else mark :: last :: before

/-- The characters of a text with their classes, marks in the order of the classes. -/
def orderMarks (s : List Char) : List (Char × Nat) :=
  (s.foldl (fun before c => insertMark (c, combiningClass c) before) []).reverse

/-! ### Putting together -/

/-- The character in place of two, if there is one. -/
def joined? (a b : Char) : Option Char :=
  ((syllable? a.toNat b.toNat).or (composition? a.toNat b.toNat)).map Char.ofNat

/-- Puts the rest of a text together, given the letter before it and the marks between the two in
reverse order. A mark does not reach its letter past another one of its class. -/
def joinFrom (letter : Char) (between : List (Char × Nat)) : List (Char × Nat) → List Char
  | [] => letter :: (between.map Prod.fst).reverse
  | (c, k) :: rest =>
    match if between.all (·.2 < k) then joined? letter c else none with
    | some whole => joinFrom whole between rest
    | none =>
      if k = 0 then letter :: (between.map Prod.fst).reverse ++ joinFrom c [] rest
      else joinFrom letter ((c, k) :: between) rest

/-- The composed form of a text. -/
def composed (s : List Char) : List Char :=
  let parts := s.flatMap fun c => (takeApart partLevels c.toNat).map Char.ofNat
  let marked := orderMarks parts
  let leading := (marked.takeWhile (·.2 != 0)).map Prod.fst
  match marked.dropWhile (·.2 != 0) with
  | [] => leading
  | (c, _) :: rest => leading ++ joinFrom c [] rest

end DocSearch.Text
