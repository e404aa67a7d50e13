import DocSearch.Floating.Format
import DocSearch.Named

/-!
Structured data values. Integers and floats are different values, whatever their size.
-/

namespace DocSearch

/-- A data value. The members of an object are listed in the order in which they are written. -/
inductive Json where
  | null
  | bool (b : Bool)
  | int (n : Int)
  | float (x : Float)
  | string (s : String)
  | array (items : List Json)
  | object (members : List (String × Json))
  deriving Repr, Inhabited

namespace Json

/-- The members of an object, none of any other value. -/
def members : Json → List (String × Json)
  | .object ms => ms
  | _ => []

/-- The member with a name, if the value is an object that has one. -/
def get? (j : Json) (name : String) : Option Json := List.lookup name j.members

def string? : Json → Option String
  | .string s => some s
  | _ => none

def array? : Json → Option (List Json)
  | .array items => some items
  | _ => none

def object? : Json → Option (List (String × Json))
  | .object ms => some ms
  | _ => none

/-- Whether a value stands for nothing. -/
def isNull : Json → Bool
  | .null => true
  | _ => false

/-- A float as a value; one that is not finite has none. -/
def ofFloat (x : Float) : Json := if Floating.finite x then .float x else .null

mutual

/-- Whether two values are the same: numbers of one kind with equal values, arrays item by item,
objects member by member. -/
def same (a b : Json) : Bool :=
  match a, b with
  | .null, .null => true
  | .bool x, .bool y => x == y
  | .int x, .int y => x == y
  | .float x, .float y => x == y
  | .string x, .string y => x == y
  | .array xs, .array ys => sameItems xs ys
  | .object xs, .object ys => sameMembers xs ys
  | _, _ => false
termination_by structural a

def sameItems (as bs : List Json) : Bool :=
  match as, bs with
  | [], [] => true
  | a :: as, b :: bs => same a b && sameItems as bs
  | _, _ => false
termination_by structural as

def sameMembers (as bs : List (String × Json)) : Bool :=
  match as, bs with
  | [], [] => true
  | (k, a) :: as, (l, b) :: bs => k == l && same a b && sameMembers as bs
  | _, _ => false
termination_by structural as

end

mutual

/-- The value with the members of all its objects in ascending order and without repetitions; of
several members with one name the last one stays. -/
def normalize (a : Json) : Json :=
  match a with
  | .array items => .array (normalizeItems items)
  | .object ms => .object (Named.ofList (normalizeMembers ms))
  | other => other
termination_by structural a

def normalizeItems (as : List Json) : List Json :=
  match as with
  | [] => []
  | a :: as => normalize a :: normalizeItems as
termination_by structural as

def normalizeMembers (as : List (String × Json)) : List (String × Json) :=
  match as with
  | [] => []
  | (k, a) :: as => (k, normalize a) :: normalizeMembers as
termination_by structural as

end

mutual

def depth (a : Json) : Nat :=
  match a with
  | .array items => depthItems items + 1
  | .object ms => depthMembers ms + 1
  | _ => 0
termination_by structural a

/-- The greatest depth of a list of values. -/
def depthItems (as : List Json) : Nat :=
  match as with
  | [] => 0
  | a :: as => max (depth a) (depthItems as)
termination_by structural as

/-- The greatest depth of the values of a list of members. -/
def depthMembers (as : List (String × Json)) : Nat :=
  match as with
  | [] => 0
  | (_, a) :: as => max (depth a) (depthMembers as)
termination_by structural as

end

end Json

end DocSearch
