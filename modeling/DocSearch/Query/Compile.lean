import DocSearch.Query.Wire
import DocSearch.Validation

/-!
From a query under construction to the requests for the engine. The conditions fall into five
families, which are compiled side by side; each keeps the order of its calls, and the result is
composed of them in a fixed order. Only the choice of the failure that is reported depends on which
family is done first.
-/

namespace DocSearch

/-- What a family contributes to each part of a combination. -/
structure Family where
  must : List Query := []
  mustNot : List Query := []
  filter : List Query := []

namespace Family

def append (a b : Family) : Family :=
  ⟨a.must ++ b.must, a.mustNot ++ b.mustNot, a.filter ++ b.filter⟩

def compose (families : List Family) : BoolQuery Query :=
  let all := families.foldl append {}
  { must := all.must, mustNot := all.mustNot, filter := all.filter }

end Family

namespace Query

def ofTerm (field : String) (value : Json) : Query := .term [(field, value)]

def ofTerms (field : String) (values : List Json) : Query := .terms [(field, values)]

def ofRange (field : String) (bounds : RangeBounds) : Query := .range [(field, bounds)]

def ofFullText (field : String) (text : Json) : Query := .fullText [(field, text)]

def ofPhrase (field : String) (text : Json) : Query := .phrase [(field, text)]

end Query

def rangeClause {context : Context} (p : Predicate context) (op : Operator) :
    Except ValidationError Query :=
  if !p.value.isRangeable then .error (.unrangeableValue p.field op)
  else
    match op with
    | .gt => .ok (.ofRange p.field { gt := some p.value.toJson })
    | .gte => .ok (.ofRange p.field { gte := some p.value.toJson })
    | .lt => .ok (.ofRange p.field { lt := some p.value.toJson })
    | .lte => .ok (.ofRange p.field { lte := some p.value.toJson })
    | .eq | .ne => .error (.invalidOperator context p.field op.text)

/-- The contribution of each item of a list, in order, up to the first failure. -/
def collect {α : Type} (f : α → Except ValidationError Family) :
    List α → Except ValidationError Family
  | [] => .ok {}
  | a :: as => do
    let first ← f a
    let rest ← collect f as
    return first.append rest

def whereClause (p : Predicate .scored) : Except ValidationError Family := do
  match ← p.allowed with
  | .eq => return { must := [.ofTerm p.field p.value.toJson] }
  | .ne => return { mustNot := [.ofTerm p.field p.value.toJson] }
  | op => return { must := [← rangeClause p op] }

def filterClause (p : Predicate .filter) : Except ValidationError Family := do
  match ← p.allowed with
  | .eq => return { filter := [.ofTerm p.field p.value.toJson] }
  | op => return { filter := [← rangeClause p op] }

/-- What a condition on a text contributes, for the kind of query that a context makes of it. -/
def textClause {context : Context} (make : String → Json → Query) (p : Predicate context) :
    Except ValidationError Family := do
  let query := make p.field p.value.toJson
  match ← p.allowed with
  | .ne => return { mustNot := [query] }
  | _ => return { must := [query] }

/-- One of some texts: the only one, or a combination of alternatives. -/
def alternatives {context : Context} (make : String → Json → Query) (p : SetPredicate context) :
    Query :=
  match p.jsonValues with
  | [value] => make p.field value
  | values => .bool (.anyOf (values.map (make p.field)))

/-- None of some texts: one query for each. -/
def exclusions {context : Context} (make : String → Json → Query) (p : SetPredicate context) :
    List Query :=
  p.jsonValues.map (make p.field)

def SetPredicate.termsQuery {context : Context} (p : SetPredicate context) : Query :=
  .ofTerms p.field p.jsonValues

namespace Clauses

def whereFamily (cs : Clauses) : Except ValidationError Family := do
  let singles ← collect whereClause cs.wheres
  let sets : Family :=
    { must := cs.whereIns.map SetPredicate.termsQuery
      mustNot := cs.whereNotIns.map SetPredicate.termsQuery }
  return sets.append singles

def filterFamily (cs : Clauses) : Except ValidationError Family := do
  let singles ← collect filterClause cs.filters
  let sets : Family := { filter := cs.filterIns.map SetPredicate.termsQuery }
  return sets.append singles

def textFamily {context : Context} (make : String → Json → Query)
    (ins notIns : List (SetPredicate context)) (ps : List (Predicate context)) :
    Except ValidationError Family := do
  let singles ← collect (textClause make) ps
  let sets : Family :=
    { must := ins.map (alternatives make), mustNot := notIns.flatMap (exclusions make) }
  return sets.append singles

def fullTextFamily (cs : Clauses) : Except ValidationError Family :=
  textFamily Query.ofFullText cs.matchIns cs.matchNotIns cs.matches_

def phraseFamily (cs : Clauses) : Except ValidationError Family :=
  textFamily Query.ofPhrase cs.phraseIns cs.phraseNotIns cs.phrases

def compile (cs : Clauses) : Except ValidationError (BoolQuery Query) := do
  let wheres ← cs.whereFamily
  let filters ← cs.filterFamily
  let matches_ ← cs.fullTextFamily
  let phrases ← cs.phraseFamily
  return Family.compose [wheres, filters, matches_, phrases]

end Clauses

/-- What a nested group contributes: one query for its path. -/
def NestedGroup.compile (g : NestedGroup) : Except ValidationError Family :=
  if g.path.isEmpty then .error g.malformed
  else do
    let inner ← g.clauses.compile
    return { must := [.nested g.path (.bool inner)] }

def nestedFamily (groups : List NestedGroup) : Except ValidationError Family :=
  collect NestedGroup.compile groups

/-- The five families. -/
inductive FamilyKind where
  | wheres | filters | fullTexts | phrases | nested
  deriving Repr, DecidableEq

/-- The families in the order in which they are composed. -/
def FamilyKind.all : List FamilyKind := [.wheres, .filters, .fullTexts, .phrases, .nested]

def failure? {ε α : Type} : Except ε α → Option ε
  | .ok _ => none
  | .error e => some e

def statsName (field : String) : String := field ++ "_stats"

namespace Builder

def family (b : Builder) : FamilyKind → Except ValidationError Family
  | .wheres => b.clauses.whereFamily
  | .filters => b.clauses.filterFamily
  | .fullTexts => b.clauses.fullTextFamily
  | .phrases => b.clauses.phraseFamily
  | .nested => nestedFamily b.nested

def familyFailures (b : Builder) : List ValidationError :=
  FamilyKind.all.filterMap fun k => failure? (b.family k)

/-- The contributions of families in order. -/
def families (b : Builder) : List FamilyKind → Except ValidationError (List Family)
  | [] => .ok []
  | k :: ks => do
    let first ← b.family k
    let rest ← b.families ks
    return first :: rest

/-- Compiles all conditions without checking them first. The families are done in the order
`done`, and of several failures the earliest is reported. -/
def compileUnchecked (b : Builder) (done : List FamilyKind) :
    Except ValidationError (BoolQuery Query) :=
  match done.findSome? fun k => failure? (b.family k) with
  | some e => .error e
  | none => (b.families FamilyKind.all).map Family.compose

def compile (b : Builder) (done : List FamilyKind) : Except ValidationError (BoolQuery Query) := do
  b.validateClauses
  b.compileUnchecked done

/-- The sort order. -/
def sortClauses (b : Builder) : List SortClause :=
  b.sorts.map fun s => SortClause.ofKey s.field s.ascending s.nestedPath

/-- The aggregations: buckets for each field to group by inside those of the field before it, and
the statistics innermost. -/
def aggregations (b : Builder) : Named Aggregation :=
  let stats := Named.ofList (b.stats.map fun field => (statsName field, Aggregation.ofStats field))
  (b.groupBy.getD []).foldr (fun field inner => [(field, Aggregation.ofTerms field inner)]) stats

/-- The request for the documents and aggregations that a query asks for. -/
def searchRequest (b : Builder) (done : List FamilyKind) :
    Except ValidationError SearchRequest := do
  b.validateSearch
  let root ← b.compileUnchecked done
  return {
    query := .bool root
    offset := b.offset
    size := b.limit
    sort := b.sortClauses
    aggs := b.aggregations }

end Builder

end DocSearch
