import DocSearch.Json.Printer
import DocSearch.Query.Basic
import DocSearch.Text.Letter
import DocSearch.Text.Lowercase

/-!
Which documents a query selects. A field of a document has any number of values: a path leads
through objects, and through arrays to each of their items. Values are compared as text, except
that numbers are compared by size where a range asks for it.
-/

namespace DocSearch

namespace Json

/-- The text of a value: that of a string as it is, anything else as it is written. -/
def asText : Json → String
  | .string s => s
  | other => other.compact

def asFloat? : Json → Option Float
  | .int n => some (Floating.ofInt n)
  | .float x => some x
  | _ => none

/-- The items of an array, any other value alone. -/
def spread : Json → List Json
  | .array items => items
  | other => [other]

/-- The values of a member of an object, or of the objects in an array. -/
def step (name : String) : Json → List Json
  | .object ms => (List.lookup name ms).toList
  | .array items => items.filterMap (·.get? name)
  | _ => []

end Json

def pathParts (path : String) : List String :=
  let rec parts : List Char → List Char → List String
    | read, [] => [String.ofList read.reverse]
    | read, c :: rest =>
      if c = '.' then String.ofList read.reverse :: parts [] rest else parts (c :: read) rest
  parts [] path.toList

def valuesAt (doc : Json) (path : String) : List Json :=
  ((pathParts path).foldl (fun found name => found.flatMap (Json.step name)) [doc]).flatMap
    Json.spread

/-- The words of a text, in lower case. -/
def words (text : String) : List String :=
  let rec split : List Char → List Char → List (List Char)
    | [], [] => []
    | read, [] => [read.reverse]
    | read, c :: rest =>
      if Text.isAlphanumeric c then split (c :: read) rest
      else if read.isEmpty then split [] rest
      else read.reverse :: split [] rest
  (split [] text.toList).map fun w => Text.lowercase (String.ofList w)

/-- The order of two numbers; those that have none count as equal. -/
def compareFloats (x y : Float) : Ordering := if x < y then .lt else if y < x then .gt else .eq

/-- The order of two values: numbers by size, other values by their text, and nothing comes
last. -/
def compareValues (a b : Json) : Ordering :=
  match a.asFloat?, b.asFloat? with
  | some x, some y => compareFloats x y
  | _, _ =>
    match a, b with
    | .null, .null => .eq
    | .null, _ => .gt
    | _, .null => .lt
    | a, b => compare a.asText b.asText

def RangeBounds.holds (r : RangeBounds) (value : Json) : Bool :=
  (r.gt.all fun b => compareValues value b == .gt) &&
    (r.gte.all fun b => compareValues value b != .lt) &&
    (r.lt.all fun b => compareValues value b == .lt) &&
    (r.lte.all fun b => compareValues value b != .gt)

def sameText (a b : Json) : Bool := a.asText == b.asText

def sharesWord (wanted value : Json) : Bool :=
  let have_ := words value.asText
  (words wanted.asText).any have_.contains

def occursIn (part : List String) : List String → Bool
  | [] => part.isEmpty
  | w :: ws => part.isPrefixOf (w :: ws) || occursIn part ws

/-- Whether a text contains the words of another one in a row, of which there must be some. -/
def containsPhrase (wanted value : Json) : Bool :=
  let phrase := words wanted.asText
  !phrase.isEmpty && occursIn phrase (words value.asText)

def placeAt (value : Json) : List String → Json
  | [] => value
  | name :: names => .object [(name, placeAt value names)]

/-- How many of the optional queries must hold, if it is not given: one if they stand alone. -/
def requiredCount (q : BoolQuery Query) : Nat :=
  match q.minimumShouldMatch with
  | some n => n.toNat
  | none => if q.must.isEmpty && q.filter.isEmpty then 1 else 0

namespace Query

mutual

/-- Whether a query selects a document. A nested query looks at each object under its path as if it
were the only one. -/
def selects (q : Query) (doc : Json) : Bool :=
  match q with
  | .matchAll _ => true
  | .term fields => fields.all fun f => (valuesAt doc f.1).any (sameText f.2)
  | .terms fields => fields.all fun f => (valuesAt doc f.1).any fun v => f.2.any (sameText v)
  | .range fields => fields.all fun f => (valuesAt doc f.1).any f.2.holds
  | .fullText fields => fields.all fun f => (valuesAt doc f.1).any (sharesWord f.2)
  | .phrase fields => fields.all fun f => (valuesAt doc f.1).any (containsPhrase f.2)
  | .bool ⟨must, should, mustNot, filter, minimum⟩ =>
    allSelect must doc && allSelect filter doc && !anySelects mustNot doc &&
      (should.isEmpty ||
        decide (requiredCount ⟨must, should, mustNot, filter, minimum⟩ ≤ countSelecting should doc))
  | .nested path query =>
    (valuesAt doc path).any fun item => selects query (placeAt item (pathParts path))
termination_by structural q

def allSelect (qs : List Query) (doc : Json) : Bool :=
  match qs with
  | [] => true
  | q :: qs => selects q doc && allSelect qs doc
termination_by structural qs

def anySelects (qs : List Query) (doc : Json) : Bool :=
  match qs with
  | [] => false
  | q :: qs => selects q doc || anySelects qs doc
termination_by structural qs

def countSelecting (qs : List Query) (doc : Json) : Nat :=
  match qs with
  | [] => 0
  | q :: qs => (if selects q doc then 1 else 0) + countSelecting qs doc
termination_by structural qs

end

end Query

end DocSearch
