import Mathlib.Data.List.Basic

/-!
# Patterns

A pattern describes how a text begins. There may be several ways to read a text as a pattern says;
they are listed in order of preference, so that a part that is read as long as possible tries its
longest reading first and goes back from there, and the first way counts. What a way takes for the
groups of the pattern is told with it.

Often the preference does not matter: where what comes next is not helped by getting back a
character that a part has taken, that part is read to its end or the whole is not read at all.
-/

namespace DocSearch.Text

/-- A description of the beginning of a text. -/
inductive Pattern where
  /-- A character of a class. -/
  | one (p : Char → Bool)
  /-- One of several words, the earlier ones preferred. -/
  | words (ws : List String)
  /-- Characters of a class, as many as possible. -/
  | many (p : Char → Bool)
  /-- Characters of a class, as few as possible. -/
  | few (p : Char → Bool)
  | andThen (a b : Pattern)
  /-- A part that is remembered. -/
  | group (a : Pattern)
  | atEnd

/-- What a pattern takes of a text, what is remembered of that, and what is left of the text. -/
structure Way where
  taken : List Char
  groups : List (List Char) := []
  rest : List Char

def Way.andThen (x y : Way) : Way := ⟨x.taken ++ y.taken, x.groups ++ y.groups, y.rest⟩

/-- The beginnings of a text in a class, the longest first. -/
def longestFirst (p : Char → Bool) : List Char → List Way
  | [] => [{ taken := [], rest := [] }]
  | c :: s =>
    (if p c then (longestFirst p s).map (Way.andThen { taken := [c], rest := s }) else []) ++
      [{ taken := [], rest := c :: s }]

/-- The beginnings of a text in a class, the shortest first. -/
def shortestFirst (p : Char → Bool) : List Char → List Way
  | [] => [{ taken := [], rest := [] }]
  | c :: s =>
    { taken := [], rest := c :: s } ::
      if p c then (shortestFirst p s).map (Way.andThen { taken := [c], rest := s }) else []

namespace Pattern

/-- The ways in which a text can be read, in order of preference. -/
def ways : Pattern → List Char → List Way
  | .one p, s =>
    match s with
    | c :: t => if p c then [{ taken := [c], rest := t }] else []
    | [] => []
  | .words ws, s =>
    ws.filterMap fun w =>
      if w.toList.isPrefixOf s then some { taken := w.toList, rest := s.drop w.toList.length }
      else none
  | .many p, s => longestFirst p s
  | .few p, s => shortestFirst p s
  | .andThen a b, s => (a.ways s).flatMap fun x => (b.ways x.rest).map x.andThen
  | .group a, s => (a.ways s).map fun x => { x with groups := x.taken :: x.groups }
  | .atEnd, s => if s = [] then [{ taken := [], rest := [] }] else []

/-- What the first way remembers, if there is a way. -/
def captures (a : Pattern) (s : List Char) : Option (List (List Char)) :=
  (a.ways s).head?.map Way.groups

end Pattern

variable {p : Char → Bool} {a b : Pattern} {s : List Char}

/-- What is remembered of the first way for a sequence: the ways of the first part are tried one
after the other, each with the first way for the second part from there on. -/
theorem captures_andThen :
    (a.andThen b).captures s =
      (a.ways s).findSome? fun x => (b.captures x.rest).map (x.groups ++ ·) := by
  have hstep (x : Way) : ((b.ways x.rest).map x.andThen).head?.map Way.groups =
      (b.captures x.rest).map (x.groups ++ ·) := by
    rw [List.head?_map, Pattern.captures, Option.map_map, Option.map_map]
    rfl
  rw [Pattern.captures, Pattern.ways, List.head?_flatMap]
  induction a.ways s with
  | nil => rfl
  | cons x xs ih =>
    rw [List.findSome?_cons, List.findSome?_cons, ← hstep x]
    cases ((b.ways x.rest).map x.andThen).head? with
    | none => exact ih
    | some y => rfl

theorem mem_longestFirst (p : Char → Bool) (s : List Char) :
    { taken := [], rest := s } ∈ longestFirst p s := by
  cases s <;> simp [longestFirst]

/-- Where what follows is not helped by getting back a character of the class, only the longest
reading counts. -/
theorem findSome?_longestFirst {β : Type} {k : Way → Option β}
    (hk : ∀ t c r, p c = true → k { taken := t ++ [c], rest := r } = none →
      k { taken := t, rest := c :: r } = none) (s : List Char) :
    (longestFirst p s).findSome? k = k { taken := s.takeWhile p, rest := s.dropWhile p } := by
  induction s generalizing k with
  | nil => simp [longestFirst]
  | cons c s ih =>
    by_cases hc : p c = true
    · let onward := k ∘ Way.andThen { taken := [c], rest := s }
      have hlong : (longestFirst p s).findSome? onward =
          k { taken := (c :: s).takeWhile p, rest := (c :: s).dropWhile p } := by
        rw [ih fun t d r hd => hk (c :: t) d r hd, List.takeWhile_cons_of_pos hc,
          List.dropWhile_cons_of_pos hc]
        rfl
      have hshort (hnone : (longestFirst p s).findSome? onward = none) :
          k { taken := [], rest := c :: s } = none :=
        hk [] c s hc (List.findSome?_eq_none_iff.mp hnone _ (mem_longestFirst p s))
      rw [longestFirst, if_pos hc, List.findSome?_append, List.findSome?_map,
        List.findSome?_singleton, ← hlong]
      cases hfound : (longestFirst p s).findSome? onward with
      | none => rw [hshort hfound, Option.none_or]
      | some found => rfl
    · simp [longestFirst, hc]

/-- Characters of a class before a pattern are all taken where the pattern is not helped by getting
one of them back. -/
theorem captures_many_andThen
    (hb : ∀ c r, p c = true → b.captures r = none → b.captures (c :: r) = none) :
    ((Pattern.many p).andThen b).captures s = b.captures (s.dropWhile p) := by
  rw [captures_andThen, Pattern.ways, findSome?_longestFirst]
  · simp
  · intro t c r hc hnone
    rw [Option.map_eq_none_iff] at hnone ⊢
    exact hb c r hc hnone

theorem captures_group_andThen :
    ((Pattern.group a).andThen b).captures s =
      (a.ways s).findSome? fun x => (b.captures x.rest).map (x.taken :: x.groups ++ ·) := by
  rw [captures_andThen, Pattern.ways, List.findSome?_map]
  rfl

end DocSearch.Text
