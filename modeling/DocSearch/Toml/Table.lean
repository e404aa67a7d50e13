import DocSearch.Json.Basic

/-!
Tables of a configuration text as they are filled. A table is opened by a header, implied by the
header of one inside it, or made by a dotted key. A header opens a table once, and a dotted key
reaches only what dotted keys have made.
-/

namespace DocSearch.Toml

/-- How a table came to be. -/
inductive Origin where
  | header | implied | dotted
  deriving Repr, DecidableEq

/-- What a key stands for. Of several tables under one key the last one is still filled. -/
inductive Node where
  | value (v : Json)
  | table (origin : Origin) (entries : List (String × Node))
  | tables (before : List (List (String × Node))) (last : List (String × Node))

/-- The keys of a table with what they stand for. -/
abbrev Table := List (String × Node)

/-- Changes what a key stands for, which may refuse to be changed. -/
def alter (key : String) (change : Option Node → Option Node) : Table → Option Table
  | [] => (change none).map fun n => [(key, n)]
  | (k, n) :: rest =>
    if k = key then (change (some n)).map fun m => (k, m) :: rest
    else (alter key change rest).map ((k, n) :: ·)

/-- Changes the table at the end of a path. Tables on the path that are not there are implied. -/
def within (change : Table → Option Table) : List String → Table → Option Table
  | [], t => change t
  | key :: path, t =>
    alter key (fun
      | none => (within change path []).map (.table .implied)
      | some (.value _) => none
      | some (.table origin inner) => (within change path inner).map (.table origin)
      | some (.tables before last) => (within change path last).map (.tables before)) t

def openTable (key : String) : Table → Option Table :=
  alter key fun
    | none => some (.table .header [])
    | some (.table .implied inner) => some (.table .header inner)
    | some _ => none

def openNext (key : String) : Table → Option Table :=
  alter key fun
    | none => some (.tables [] [])
    | some (.tables before last) => some (.tables (before ++ [last]) [])
    | some _ => none

/-- Gives a dotted key a value. The table that holds it is the one in hand, or one that dotted keys
have made. -/
def assign (v : Json) (direct : Bool) : List String → Table → Option Table
  | [], _ => none
  | [key], t =>
    if direct then
      alter key (fun
        | none => some (.value v)
        | some _ => none) t
    else none
  | key :: path, t =>
    alter key (fun
      | none => (assign v true path []).map (.table .dotted)
      | some (.table .header _) => none
      | some (.table .implied inner) => (assign v false path inner).map (.table .implied)
      | some (.table .dotted inner) => (assign v true path inner).map (.table .dotted)
      | some (.tables before last) => (assign v false path last).map (.tables before)
      | some (.value _) => none) t

mutual

def Node.toJson (n : Node) : Json :=
  match n with
  | .value v => v
  | .table _ entries => .object (members entries)
  | .tables before last => .array (elements before ++ [.object (members last)])
termination_by structural n

def members (t : List (String × Node)) : List (String × Json) :=
  match t with
  | [] => []
  | (key, n) :: rest => (key, n.toJson) :: members rest
termination_by structural t

def elements (ts : List (List (String × Node))) : List Json :=
  match ts with
  | [] => []
  | t :: rest => .object (members t) :: elements rest
termination_by structural ts

end

end DocSearch.Toml
