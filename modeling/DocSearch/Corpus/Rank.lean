import DocSearch.Corpus.Match
import DocSearch.Query.Wire

/-!
The order of documents. A document has one sort value for each part of the order: the least of its
values in an ascending part, the greatest in a descending one, and nothing if it has none.
-/

namespace DocSearch

variable {α : Type}

/-- Puts an item into a sorted list that is given from its end, behind all that it does not come
before. -/
def insertBack (before : α → α → Bool) (a : α) : List α → List α
  | [] => [a]
  | b :: bs => if before a b then b :: insertBack before a bs else a :: b :: bs

/-- Sorts a list; items of which neither comes before the other keep their order. -/
def sortBy (before : α → α → Bool) (as : List α) : List α :=
  (as.foldl (fun sorted a => insertBack before a sorted) []).reverse

/-- The first of the least values. -/
def leastValue : List Json → Json
  | [] => .null
  | v :: vs => vs.foldl (fun best v => if compareValues best v == .gt then v else best) v

/-- The last of the greatest values. -/
def greatestValue : List Json → Json
  | [] => .null
  | v :: vs => vs.foldl (fun best v => if compareValues best v == .gt then best else v) v

namespace SortClause

/-- Whether a part of the order is descending. -/
def descending (c : SortClause) : Bool := c.options?.any fun o => o.order == .desc

def value (c : SortClause) (doc : Json) : Json :=
  let values := valuesAt doc (c.field?.getD "")
  if c.descending then greatestValue values else leastValue values

end SortClause

def sortValues (order : List SortClause) (doc : Json) : List Json :=
  order.map fun c => c.value doc

/-- The order of two lists of sort values, decided by the first part in which they differ; parts
for which a value is missing do not count. -/
def comparePlaces : List SortClause → List Json → List Json → Ordering
  | c :: cs, a :: as, b :: bs =>
    let one := compareValues a b
    match if c.descending then one.swap else one with
    | .eq => comparePlaces cs as bs
    | other => other
  | _, _, _ => .eq

end DocSearch
