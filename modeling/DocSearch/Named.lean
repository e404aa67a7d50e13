/-!
Values by name. The names are kept in ascending order, which for text is the order of the code
points, so that equal collections are equal lists.
-/

namespace DocSearch

/-- Values by name, listed in ascending order of the names. -/
abbrev Named (α : Type) := List (String × α)

namespace Named

variable {α : Type}

/-- Adds a value, in place of the one that had the name before. -/
def insert (name : String) (a : α) : Named α → Named α
  | [] => [(name, a)]
  | (key, b) :: rest =>
    if name < key then (name, a) :: (key, b) :: rest
    else if name = key then (name, a) :: rest
    else (key, b) :: insert name a rest

/-- The collection that a list of named values describes; of several values with one name the last
one stays. -/
def ofList (entries : List (String × α)) : Named α :=
  entries.foldl (fun named entry => named.insert entry.1 entry.2) []

def get? (named : Named α) (name : String) : Option α := List.lookup name named

/-- All names, in ascending order. -/
def names (named : Named α) : List String := List.map Prod.fst named

end Named

/-- Adds a name to names in ascending order, unless it is there. -/
def insertName (name : String) : List String → List String
  | [] => [name]
  | key :: rest =>
    if name < key then name :: key :: rest
    else if name = key then key :: rest
    else key :: insertName name rest

/-- The distinct names of a list in ascending order. -/
def sortNames (names : List String) : List String :=
  names.foldl (fun sorted name => insertName name sorted) []

end DocSearch
