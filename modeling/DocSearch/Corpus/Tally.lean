import DocSearch.Corpus.Rank

/-!
Aggregations over documents.
-/

namespace DocSearch

/-- Documents grouped by a value. A document stands in a group as often as it has the value. -/
abbrev Groups := List (Json × List Json)

/-- Adds a document to the group of a value, which is opened at the end if there is none. -/
def Groups.add (key doc : Json) : Groups → Groups
  | [] => [(key, [doc])]
  | (k, docs) :: rest =>
    if Json.same k key then (k, docs ++ [doc]) :: rest else (k, docs) :: Groups.add key doc rest

def groupBy (field : String) (docs : List Json) : Groups :=
  docs.foldl (fun groups doc =>
    (valuesAt doc field).foldl (fun groups key => Groups.add key doc groups) groups) []

/-- Whether a group is listed before another one: the larger first, then by the value. -/
def listedBefore (a b : Json × List Json) : Bool :=
  decide (b.2.length < a.2.length) ||
    (a.2.length == b.2.length && compareValues a.1 b.1 == .lt)

def numbersAt (field : String) (docs : List Json) : List Float :=
  (docs.flatMap fun doc => valuesAt doc field).filterMap Json.asFloat?

def textsAt (field : String) (docs : List Json) : List String :=
  (docs.flatMap fun doc => valuesAt doc field).filterMap Json.string?

def sumOf (xs : List Float) : Float := xs.foldl (· + ·) (-0.0)

def lesser (x y : Float) : Float := if y < x then y else x

def greater (x y : Float) : Float := if x < y then y else x

def statsOf (field : String) (docs : List Json) : Json :=
  match numbersAt field docs with
  | [] =>
    .object [("avg", .null), ("count", .int 0), ("max", .null), ("min", .null),
      ("std_deviation", .null), ("sum", .float 0.0), ("sum_of_squares", .null), ("variance", .null)]
  | x :: xs =>
    let all := x :: xs
    let count := Floating.ofInt all.length
    let sum := sumOf all
    let squares := sumOf (all.map fun v => v * v)
    let avg := sum / count
    let variance := squares / count - avg * avg
    .object [("avg", .ofFloat avg), ("count", .int all.length),
      ("max", .ofFloat (xs.foldl greater x)), ("min", .ofFloat (xs.foldl lesser x)),
      ("std_deviation", .ofFloat variance.sqrt), ("sum", .ofFloat sum),
      ("sum_of_squares", .ofFloat squares), ("variance", .ofFloat variance)]

/-- The least or the greatest value of a field: a number, or a text if there are no numbers. -/
def boundOf (least : Bool) (field : String) (docs : List Json) : Json :=
  match numbersAt field docs, textsAt field docs with
  | x :: xs, _ =>
    .object [("value", .ofFloat (xs.foldl (if least then lesser else greater) x))]
  | [], s :: ss =>
    let pick := fun a b : String => if decide (a < b) == least then a else b
    .object [("value", .float 0.0), ("value_as_string", .string (ss.foldl pick s))]
  | [], [] => .object [("value", .null)]

/-- How many buckets are listed unless a number is given. -/
def defaultBuckets : Nat := 10

/-- The buckets of a field, with what `inside` adds to the documents of each. -/
def bucketsOf (t : TermsAggregation) (inside : List Json → List (String × Json))
    (docs : List Json) : Json :=
  let groups := sortBy listedBefore (groupBy t.field docs)
  let size := (t.size.map UInt64.toNat).getD defaultBuckets
  let others : Nat := (groups.drop size).foldl (fun n g => n + g.2.length) 0
  let listed := (groups.take size).map fun g =>
    Json.object (Named.ofList ([("key", g.1), ("doc_count", .int g.2.length)] ++ inside g.2))
  .object [("buckets", .array listed), ("doc_count_error_upper_bound", .int 0),
    ("sum_other_doc_count", .int others)]

namespace Aggregation

mutual

def tally (a : Aggregation) (docs : List Json) : Json :=
  match a with
  | ⟨some t, _, _, _, aggs⟩ => bucketsOf t (fun members => tallyAll aggs members) docs
  | ⟨none, some field, _, _, _⟩ => statsOf field docs
  | ⟨none, none, some field, _, _⟩ => boundOf true field docs
  | ⟨none, none, none, some field, _⟩ => boundOf false field docs
  | ⟨none, none, none, none, _⟩ => .object []
termination_by structural a

def tallyAll (as : List (String × Aggregation)) (docs : List Json) : List (String × Json) :=
  match as with
  | [] => []
  | (name, a) :: as => (name, tally a docs) :: tallyAll as docs
termination_by structural as

end

end Aggregation

end DocSearch
