import DocSearch.Text.CombiningClass
import DocSearch.Text.Direction
import DocSearch.Text.Joining
import DocSearch.Url.Folding
import DocSearch.Url.Punycode

/-!
The labels of a domain, and what a label has to be like so that nobody mistakes it for another one.
-/

namespace DocSearch.Url

def isAscii (label : List Char) : Bool := label.all fun c => c.toNat < 128

/-- The characters of a label. One that begins with `xn--` describes them; they have to be in the
form in which they are compared. -/
def readLabel (label : List Char) : Option (List Char) :=
  match label with
  | 'x' :: 'n' :: '-' :: '-' :: code =>
    if label.getLast? = some '-' ∨ 2000 < code.length then none
    else (describedLabel code).bind fun s => if Folding.fold? s = some s then some s else none
  | _ => some label

/-- Whether a joiner may stand between two texts, the first of which is given in reverse order:
after a mark that silences a vowel, or, if it keeps apart, between letters that would join. -/
def joinerFits (joiner : Char) (before after : List Char) : Bool :=
  match before with
  | [] => false
  | c :: _ =>
    Text.combiningClass c == Text.viramaClass ||
      (joiner.toNat == 8204 && Text.nearestJoins Text.joiningNext before &&
        Text.nearestJoins Text.joiningPrevious after)

/-- Whether all joiners of a text may stand where they do, given what comes before the text in
reverse order. -/
def joinersFit (before : List Char) : List Char → Bool
  | [] => true
  | c :: rest => (!Folding.isJoiner c || joinerFits c before rest) && joinersFit (c :: before) rest

/-- Whether a label does not begin with a mark, has its joiners in place, and is not too long to be
described. -/
def isSound (label : List Char) : Bool :=
  !label.head?.any Text.isMark && joinersFit [] label &&
    (isAscii label || decide (label.length ≤ 1000))

/-- Whether a character makes its domain one that is written from right to left. -/
def isReversing (c : Char) : Bool :=
  match Text.direction c with
  | .right => true
  | .arabicDigit => true
  | _ => false

/-- Whether a label reads the same within a domain that is written from right to left: its first
letter tells its direction, it ends in that direction, and digits of one kind only stand in it. -/
def keepsDirection (label : List Char) : Bool :=
  match label.map Text.direction with
  | [] => true
  | first :: rest =>
    let inner := (rest.reverse.dropWhile (· == .mark)).reverse
    let last := inner.getLast?
    match first with
    | .left =>
      last.all (fun d => d == .left || d == .europeanDigit) &&
        inner.all fun d => d != .right && d != .arabicDigit
    | .right =>
      last.all (fun d => d == .right || d == .europeanDigit || d == .arabicDigit) &&
        (inner.all fun d => d != .left) && !(inner.contains .europeanDigit &&
          inner.contains .arabicDigit)
    | _ => false

end DocSearch.Url
