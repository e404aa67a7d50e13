import DocSearch.Failure

/-!
The names of the fields that a query may refer to. They can be collected from the mapping of an
index, where a property of an object has the path of the object before its name.
-/

namespace DocSearch

/-- The known fields: distinct names in ascending order. -/
structure Schema where
  names : List String
  deriving Repr, DecidableEq

namespace Schema

def ofNames (names : List String) : Schema := ⟨sortNames names⟩

def contains (s : Schema) (field : String) : Bool := s.names.contains field

/-- The path of a property inside an object with a path. -/
def join (path name : String) : String := if path.isEmpty then name else path ++ "." ++ name

mutual

def fields (path : String) (properties : List (String × Json)) : List String :=
  match properties with
  | [] => []
  | (name, definition) :: rest =>
    definedFields (join path name) definition ++ fields path rest
termination_by structural properties

/-- The fields that a definition gives to a path: those of its properties, its other spellings, and
itself. -/
def definedFields (path : String) (definition : Json) : List String :=
  match definition with
  | .object ms => propertyFields path ms ++ spellings path ms ++ [path]
  | _ => [path]
termination_by structural definition

def propertyFields (path : String) (members : List (String × Json)) : List String :=
  match members with
  | [] => []
  | (name, j) :: rest =>
    if name = "properties" then
      match j with
      | .object ps => fields path ps
      | _ => []
    else propertyFields path rest
termination_by structural members

def spellings (path : String) (members : List (String × Json)) : List String :=
  match members with
  | [] => []
  | (name, j) :: rest =>
    if name = "fields" then j.members.map fun m => path ++ "." ++ m.1
    else spellings path rest
termination_by structural members

end

def onlyMember : Json → Option Json
  | .object [(_, j)] => some j
  | _ => none

/-- The properties of a mapping, directly or under the name of a type. The definition of a field is
told from a type by the member that names its kind. -/
def typeProperties (mappings : Json) : Option (List (String × Json)) := do
  let ms ← mappings.object?
  match List.lookup "properties" ms with
  | some properties => properties.object?
  | none =>
    let typed ← onlyMember mappings
    if (typed.get? "type").isSome then none
    else (← typed.get? "properties").object?

/-- The properties in a description of an index: the mapping itself, a document that holds it, or
such a document under the name of the index. -/
def properties (mapping : Json) : Option (List (String × Json)) := do
  let ms ← mapping.object?
  match List.lookup "mappings" ms with
  | some mappings => typeProperties mappings
  | none =>
    typeProperties mapping <|> do
      let index ← onlyMember mapping
      typeProperties (← index.get? "mappings")

def ofMapping (mapping : Json) : Except ExtractionError Schema :=
  match properties mapping with
  | some ps => .ok (ofNames (fields "" ps))
  | none => .error .noProperties

end Schema

end DocSearch
