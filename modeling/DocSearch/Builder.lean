import DocSearch.Predicate
import DocSearch.Schema

/-!
A query under construction. Conditions and directives are collected by calls and nothing is checked
on the way; the calls in order are all that the state depends on.
-/

namespace DocSearch

/-- A condition of one of the eleven kinds. -/
inductive Clause where
  | where_ (p : Predicate .scored)
  | whereIn (p : SetPredicate .scored)
  | whereNotIn (p : SetPredicate .scored)
  | filter (p : Predicate .filter)
  | filterIn (p : SetPredicate .filter)
  | match_ (p : Predicate .fullText)
  | matchIn (p : SetPredicate .fullText)
  | matchNotIn (p : SetPredicate .fullText)
  | phrase (p : Predicate .phrase)
  | phraseIn (p : SetPredicate .phrase)
  | phraseNotIn (p : SetPredicate .phrase)
  deriving Repr, DecidableEq

def Clause.field : Clause → String
  | .where_ p => p.field
  | .whereIn p => p.field
  | .whereNotIn p => p.field
  | .filter p => p.field
  | .filterIn p => p.field
  | .match_ p => p.field
  | .matchIn p => p.field
  | .matchNotIn p => p.field
  | .phrase p => p.field
  | .phraseIn p => p.field
  | .phraseNotIn p => p.field

/-- The conditions of one scope, each kind in the order of its calls. -/
structure Clauses where
  wheres : List (Predicate .scored) := []
  whereIns : List (SetPredicate .scored) := []
  whereNotIns : List (SetPredicate .scored) := []
  filters : List (Predicate .filter) := []
  filterIns : List (SetPredicate .filter) := []
  matches_ : List (Predicate .fullText) := []
  matchIns : List (SetPredicate .fullText) := []
  matchNotIns : List (SetPredicate .fullText) := []
  phrases : List (Predicate .phrase) := []
  phraseIns : List (SetPredicate .phrase) := []
  phraseNotIns : List (SetPredicate .phrase) := []
  deriving Repr, DecidableEq

namespace Clauses

def add (cs : Clauses) : Clause → Clauses
  | .where_ p => { cs with wheres := cs.wheres ++ [p] }
  | .whereIn p => { cs with whereIns := cs.whereIns ++ [p] }
  | .whereNotIn p => { cs with whereNotIns := cs.whereNotIns ++ [p] }
  | .filter p => { cs with filters := cs.filters ++ [p] }
  | .filterIn p => { cs with filterIns := cs.filterIns ++ [p] }
  | .match_ p => { cs with matches_ := cs.matches_ ++ [p] }
  | .matchIn p => { cs with matchIns := cs.matchIns ++ [p] }
  | .matchNotIn p => { cs with matchNotIns := cs.matchNotIns ++ [p] }
  | .phrase p => { cs with phrases := cs.phrases ++ [p] }
  | .phraseIn p => { cs with phraseIns := cs.phraseIns ++ [p] }
  | .phraseNotIn p => { cs with phraseNotIns := cs.phraseNotIns ++ [p] }

/-- The fields of all conditions, kind by kind. -/
def fields (cs : Clauses) : List String :=
  cs.wheres.map (·.field) ++ cs.whereIns.map (·.field) ++ cs.whereNotIns.map (·.field) ++
    cs.filters.map (·.field) ++ cs.filterIns.map (·.field) ++ cs.matches_.map (·.field) ++
    cs.matchIns.map (·.field) ++ cs.matchNotIns.map (·.field) ++ cs.phrases.map (·.field) ++
    cs.phraseIns.map (·.field) ++ cs.phraseNotIns.map (·.field)

def isEmpty (cs : Clauses) : Bool :=
  cs.wheres.isEmpty && cs.whereIns.isEmpty && cs.whereNotIns.isEmpty && cs.filters.isEmpty &&
    cs.filterIns.isEmpty && cs.matches_.isEmpty && cs.matchIns.isEmpty && cs.matchNotIns.isEmpty &&
    cs.phrases.isEmpty && cs.phraseIns.isEmpty && cs.phraseNotIns.isEmpty

end Clauses

/-- The conditions on nested objects under one path. -/
structure NestedGroup where
  path : String
  clauses : Clauses
  deriving Repr, DecidableEq

/-- A query under construction. -/
structure Builder where
  clauses : Clauses := {}
  nested : List NestedGroup := []
  sorts : List SortKey := []
  limit : Option Int64 := none
  offset : Option Int64 := none
  groupBy : Option (List String) := none
  stats : List String := []
  schema : Option Schema := none
  deriving Repr, DecidableEq

/-- A call that changes a query under construction. -/
inductive Call where
  | clause (c : Clause)
  | nestedClause (c : Clause)
  | orderBy (s : SortKey)
  | limit (n : Int64)
  | offset (n : Int64)
  | groupBy (fields : List String)
  | stats (fields : List String)
  | clear
  deriving Repr, DecidableEq

/-- Adds a condition to the group with a path, which is opened at the end if there is none. -/
def addToGroup (path : String) (c : Clause) : List NestedGroup → List NestedGroup
  | [] => [⟨path, Clauses.add {} c⟩]
  | g :: gs =>
    if g.path = path then { g with clauses := g.clauses.add c } :: gs
    else g :: addToGroup path c gs

namespace Builder

/-- Makes a call. A nested condition goes to the group of the path of its field, the empty path if
it has none; clearing keeps the schema only. -/
def apply (b : Builder) : Call → Builder
  | .clause c => { b with clauses := b.clauses.add c }
  | .nestedClause c =>
    { b with nested := addToGroup ((nestedPath c.field).getD "") c b.nested }
  | .orderBy s => { b with sorts := b.sorts ++ [s] }
  | .limit n => { b with limit := some n }
  | .offset n => { b with offset := some n }
  | .groupBy fields => { b with groupBy := some fields }
  | .stats fields => { b with stats := b.stats ++ fields }
  | .clear => { schema := b.schema }

/-- Makes calls in order. -/
def applyAll (b : Builder) (calls : List Call) : Builder := calls.foldl apply b

/-- Whether there is a directive to group or to compute statistics. -/
def hasAggregations (b : Builder) : Bool := b.groupBy.isSome || !b.stats.isEmpty

end Builder

end DocSearch
