import DocSearch.Failure
import DocSearch.Scalar

/-!
Conditions on a field, lists of values for a field, and sort directives. A condition keeps its
operator as it is written; only its validation reads it.
-/

namespace DocSearch

/-- A field compared with a value, in a context. -/
structure Predicate (context : Context) where
  field : String
  operator : String
  value : Scalar
  deriving Repr, DecidableEq

namespace Predicate

variable {context : Context}

/-- The operator, if the written one is one. -/
def operator? (p : Predicate context) : Option Operator := Operator.parse p.operator

/-- The operator, if the context allows it. -/
def allowed (p : Predicate context) : Except ValidationError Operator :=
  match p.operator? with
  | some op =>
    if op ∈ context.operators then .ok op
    else .error (.invalidOperator context p.field p.operator)
  | none => .error (.invalidOperator context p.field p.operator)

/-- Checks that the context allows the operator, and with this kind of value. -/
def validate (p : Predicate context) : Except ValidationError Unit := do
  let op ← p.allowed
  if p.value.isRangeable then .ok ()
  else
    match p.value with
    | .text s =>
      if op ∈ context.textOperators then .ok () else .error (.incompatibleValue p.field op s)
    | _ => .error (.unsupportedValue p.field)

end Predicate

/-- A field and the values that it is to have, or not to have, in a context. -/
structure SetPredicate (context : Context) where
  field : String
  values : List Scalar
  deriving Repr, DecidableEq

namespace SetPredicate

variable {context : Context}

def jsonValues (p : SetPredicate context) : List Json := p.values.map Scalar.toJson

def validate (p : SetPredicate context) : Except ValidationError Unit :=
  if p.values.all fun v => v.isNumeric || v.isText then .ok ()
  else .error (.unsupportedValue p.field)

end SetPredicate

/-- A field to sort by, with the path of the nested objects that hold it, if it is in such. -/
structure SortKey where
  field : String
  ascending : Bool
  nestedPath : Option String
  deriving Repr, DecidableEq

/-- Checks that the field, and the path if there is one, are not blank. -/
def SortKey.validate (s : SortKey) : Except ValidationError Unit :=
  match s.nestedPath with
  | some path =>
    if Text.blank path || Text.blank s.field then .error (.incompleteNestedSort s.field) else .ok ()
  | none => if Text.blank s.field then .error .emptySortField else .ok ()

/-- What stands before the last point of a field name, if anything does. -/
def nestedPath (field : String) : Option String :=
  match field.toList.reverse.dropWhile (· != '.') with
  | [] => none
  | _ :: before => if before.isEmpty then none else some (String.ofList before.reverse)

end DocSearch
