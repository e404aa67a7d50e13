/-!
Classes of characters, listed by their code points, and what is told of single characters.
-/

namespace DocSearch.Text

/-- A class of characters as its runs of consecutive code points, each by its two ends. -/
abbrev Ranges := List (Nat × Nat)

/-- Whether a character lies in one of the runs. -/
def Ranges.contains (ranges : Ranges) (c : Char) : Bool :=
  ranges.any fun run => run.1 ≤ c.toNat && c.toNat ≤ run.2

theorem Ranges.contains_iff {ranges : Ranges} {c : Char} :
    ranges.contains c = true ↔ ∃ run ∈ ranges, run.1 ≤ c.toNat ∧ c.toNat ≤ run.2 := by
  simp [Ranges.contains]

/-- What is told of single code points, in runs of consecutive ones: each by its first and by what
is told of its members. -/
abbrev Runs (α : Type) := List (Nat × List α)

/-- What is told of a code point. -/
def Runs.at? {α : Type} (runs : Runs α) (n : Nat) : Option α :=
  runs.findSome? fun run => if run.1 ≤ n then run.2[n - run.1]? else none

/-- Characters that change into others, in runs `(first, last, step, shift)`: every `step`-th code
point from `first` to `last` changes by `shift`. -/
abbrev Shifts := List (Nat × Nat × Nat × Int)

/-- What a character changes into, if it does. -/
def Shifts.image? (shifts : Shifts) (c : Char) : Option Char :=
  (shifts.find? fun run =>
      run.1 ≤ c.toNat && c.toNat ≤ run.2.1 && (c.toNat - run.1) % run.2.2.1 == 0).map
    fun run => Char.ofNat (Int.ofNat c.toNat + run.2.2.2).toNat

end DocSearch.Text
