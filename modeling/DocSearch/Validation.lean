import DocSearch.Builder

/-!
The checks that a query has to pass before it is compiled. They stop at the first failure.
-/

namespace DocSearch

/-- Checks that a schema, if there is one, knows a field. -/
def checkField (schema : Option Schema) (field : String) : Except ValidationError Unit :=
  match schema with
  | some s => if s.contains field then .ok () else .error (.unknownField field)
  | none => .ok ()

def checkNestedName (nested : Bool) (field : String) : Except ValidationError Unit :=
  if nested && !field.toList.contains '.' then .error (.malformedNestedPath field) else .ok ()

/-- Checks one condition: its name if it is nested, then itself, then its name in the schema. -/
def checkClause (schema : Option Schema) (nested : Bool) (field : String)
    (own : Except ValidationError Unit) : Except ValidationError Unit := do
  checkNestedName nested field
  own
  checkField schema field

/-- Checks the items of a list in order. -/
def checkAll {α : Type} (check : α → Except ValidationError Unit) :
    List α → Except ValidationError Unit
  | [] => .ok ()
  | a :: as => do
    check a
    checkAll check as

/-- Checks all conditions of one kind. -/
def checkPredicates {context : Context} (schema : Option Schema) (nested : Bool)
    (ps : List (Predicate context)) : Except ValidationError Unit :=
  checkAll (fun p => checkClause schema nested p.field p.validate) ps

@[inherit_doc checkPredicates]
def checkSets {context : Context} (schema : Option Schema) (nested : Bool)
    (ps : List (SetPredicate context)) : Except ValidationError Unit :=
  checkAll (fun p => checkClause schema nested p.field p.validate) ps

/-- Checks the conditions of a scope, lists of values before single values in each family. -/
def Clauses.validate (cs : Clauses) (schema : Option Schema) (nested : Bool) :
    Except ValidationError Unit := do
  checkSets schema nested cs.whereIns
  checkSets schema nested cs.whereNotIns
  checkPredicates schema nested cs.wheres
  checkSets schema nested cs.filterIns
  checkPredicates schema nested cs.filters
  checkSets schema nested cs.matchIns
  checkSets schema nested cs.matchNotIns
  checkPredicates schema nested cs.matches_
  checkSets schema nested cs.phraseIns
  checkSets schema nested cs.phraseNotIns
  checkPredicates schema nested cs.phrases

/-- The failure of a group whose path is empty, which names its first field. -/
def NestedGroup.malformed (g : NestedGroup) : ValidationError :=
  .malformedNestedPath (g.clauses.fields.head?.getD "")

def NestedGroup.validate (g : NestedGroup) (schema : Option Schema) :
    Except ValidationError Unit :=
  if g.path.isEmpty then .error g.malformed else g.clauses.validate schema true

namespace Builder

/-- Checks all conditions, those outside nested objects first. -/
def validateClauses (b : Builder) : Except ValidationError Unit := do
  b.clauses.validate b.schema false
  checkAll (fun g => NestedGroup.validate g b.schema) b.nested

def validateGroupBy (b : Builder) : Except ValidationError Unit :=
  match b.groupBy with
  | some fields =>
    if fields.isEmpty || fields.any Text.blank then .error .emptyGroupBy
    else checkAll (checkField b.schema) fields
  | none => .ok ()

def checkSort (schema : Option Schema) (s : SortKey) : Except ValidationError Unit := do
  s.validate
  checkField schema s.field

/-- Checks the directives to sort, to group and to compute statistics. -/
def validateDirectives (b : Builder) : Except ValidationError Unit := do
  checkAll (checkSort b.schema) b.sorts
  b.validateGroupBy
  checkAll (checkField b.schema) b.stats

def validateLimit (b : Builder) : Except ValidationError Unit :=
  match b.limit with
  | some n => if n ≤ 0 then .error (.invalidLimit n) else .ok ()
  | none => .ok ()

def validateOffset (b : Builder) : Except ValidationError Unit :=
  match b.offset with
  | some n => if n < 0 then .error (.invalidOffset n) else .ok ()
  | none => .ok ()

def validateSearch (b : Builder) : Except ValidationError Unit := do
  b.validateClauses
  b.validateDirectives
  b.validateLimit
  b.validateOffset

end Builder

end DocSearch
