import DocSearch.Failure
import DocSearch.Query.Basic

/-!
The script that gives fields of a document the values of parameters.
-/

namespace DocSearch.Script

/-- Whether a name can stand in a script: a letter or an underscore, then letters, digits and
underscores. -/
def isName (name : String) : Bool :=
  match name.toList with
  | [] => false
  | c :: cs => !c.isDigit && (c :: cs).all fun c => c.isAlphanum || c == '_'

/-- The statement that gives a field the value of the parameter of the same name. -/
def assignment (name : String) : String :=
  "ctx._source." ++ name ++ " = params." ++ name ++ "; "

/-- The statements for names in order, up to the first that is no name. -/
def assignments : List String → Except ValidationError String
  | [] => .ok ""
  | name :: names =>
    if isName name then (assignments names).map (assignment name ++ ·)
    else .error (.invalidScriptParam name)

def ofParams (params : Named Json) : Except ValidationError Script :=
  if params.isEmpty then .error .emptyScriptParams
  else (assignments params.names).map fun source => ⟨source, "painless", params⟩

end DocSearch.Script
