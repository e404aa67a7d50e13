import DocSearch.Text.Blank

/-!
Comparison operators, and the contexts in which a condition can stand.
-/

namespace DocSearch

/-- A comparison of a field with a value. -/
inductive Operator where
  | eq | ne | gt | lt | gte | lte
  deriving Repr, DecidableEq

namespace Operator

def text : Operator → String
  | .eq => "="
  | .ne => "<>"
  | .gt => ">"
  | .lt => "<"
  | .gte => ">="
  | .lte => "<="

def all : List Operator := [.eq, .ne, .gt, .lt, .gte, .lte]

/-- Reads an operator; blanks around it do not count. -/
def parse (s : String) : Option Operator := all.find? fun op => op.text == Text.trim s

def isRange : Operator → Bool
  | .gt | .lt | .gte | .lte => true
  | _ => false

end Operator

/-- What a condition takes part in: the score, the filter, or the search in full text, for any of
the words or for all of them in a row. -/
inductive Context where
  | scored | filter | fullText | phrase
  deriving Repr, DecidableEq

namespace Context

def name : Context → String
  | .scored => "where"
  | .filter => "filter"
  | .fullText => "match"
  | .phrase => "match phrase"

def operators : Context → List Operator
  | .scored => Operator.all
  | .filter => [.eq, .gt, .lt, .gte, .lte]
  | .fullText | .phrase => [.eq, .ne]

/-- The operators that the context allows with text that is no date. -/
def textOperators : Context → List Operator
  | .filter => [.eq]
  | .scored | .fullText | .phrase => [.eq, .ne]

end Context

end DocSearch
