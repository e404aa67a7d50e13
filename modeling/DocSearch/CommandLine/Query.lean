import DocSearch.CommandLine.Arguments
import DocSearch.CommandLine.Clause

/-!
A query as the options of a command.
-/

namespace DocSearch.CommandLine

/-- The options that describe a query, each as it is written. -/
structure QueryOptions where
  wheres : List String := []
  whereIns : List String := []
  whereNotIns : List String := []
  filters : List String := []
  filterIns : List String := []
  matches_ : List String := []
  matchIns : List String := []
  phrases : List String := []
  sorts : List String := []
  limit : Option Int64 := none
  offset : Option Int64 := none
  groupBy : List String := []
  stats : List String := []
  deriving Repr, DecidableEq

def integerKind : OptionKind := .single fun s => (Text.readInt64 s).isSome

def helpOption : Opt := ⟨"help", some 'h', .help, "", "Print help"⟩

def clauseOption (name about : String) : Opt := ⟨name, none, .repeated, "FIELD<OP>VALUE", about⟩

def setOption (name about : String) : Opt := ⟨name, none, .repeated, "FIELD=V1,V2", about⟩

def queryOptions : List Opt :=
  [clauseOption "where" "Scored predicate, e.g. \"subject_id>=2\"",
    setOption "where-in" "Scored set membership, e.g. \"id=1,2,3\"",
    setOption "where-not-in" "",
    clauseOption "filter" "Non-scoring predicate",
    setOption "filter-in" "",
    clauseOption "match" "Full-text predicate, \"=\" or \"<>\"",
    setOption "match-in" "",
    clauseOption "match-phrase" "",
    ⟨"sort", none, .repeated, "FIELD[:asc|desc]",
      "Sort key, ascending unless suffixed with \":desc\""⟩,
    ⟨"limit", none, integerKind, "LIMIT", ""⟩,
    ⟨"from", none, integerKind, "FROM", ""⟩,
    ⟨"group-by", none, .listed, "GROUP_BY", ""⟩,
    ⟨"stats", none, .listed, "STATS", ""⟩]

namespace QueryOptions

def ofReading (r : Reading) : QueryOptions where
  wheres := r.values "where"
  whereIns := r.values "where-in"
  whereNotIns := r.values "where-not-in"
  filters := r.values "filter"
  filterIns := r.values "filter-in"
  matches_ := r.values "match"
  matchIns := r.values "match-in"
  phrases := r.values "match-phrase"
  sorts := r.values "sort"
  limit := (r.value? "limit").bind Text.readInt64
  offset := (r.value? "from").bind Text.readInt64
  groupBy := r.values "group-by"
  stats := r.values "stats"

/-- Reads the options of a query alone. -/
def read (args : List String) : Except Halt QueryOptions :=
  (Grammar.read { options := queryOptions ++ [helpOption] } args).map ofReading

def clauseCalls (make : String → String → Scalar → Clause) (raws : List String) :
    Except ClientError (List Call) :=
  raws.mapM fun raw => (parseClause raw).map fun (field, op, v) => .clause (make field op.text v)

def setCalls (make : String → List Scalar → Clause) (raws : List String) :
    Except ClientError (List Call) :=
  raws.mapM fun raw => (parseSet raw).map fun (field, vs) => .clause (make field vs)

def sortCalls (raws : List String) : Except ClientError (List Call) :=
  raws.mapM fun raw => (parseSort raw).map fun (field, up) => .orderBy ⟨field, up, none⟩

/-- The call with a list of names, unless it is empty. -/
def namesCall (make : List String → Call) (names : List String) : List Call :=
  if names.isEmpty then [] else [make names]

/-- The calls that the options come to, kind by kind. -/
def calls (q : QueryOptions) : Except ClientError (List Call) := do
  let wheres ← clauseCalls (fun f op v => .where_ ⟨f, op, v⟩) q.wheres
  let whereIns ← setCalls (fun f vs => .whereIn ⟨f, vs⟩) q.whereIns
  let whereNotIns ← setCalls (fun f vs => .whereNotIn ⟨f, vs⟩) q.whereNotIns
  let filters ← clauseCalls (fun f op v => .filter ⟨f, op, v⟩) q.filters
  let filterIns ← setCalls (fun f vs => .filterIn ⟨f, vs⟩) q.filterIns
  let fullTexts ← clauseCalls (fun f op v => .match_ ⟨f, op, v⟩) q.matches_
  let fullTextIns ← setCalls (fun f vs => .matchIn ⟨f, vs⟩) q.matchIns
  let phrases ← clauseCalls (fun f op v => .phrase ⟨f, op, v⟩) q.phrases
  let sorts ← sortCalls q.sorts
  return wheres ++ whereIns ++ whereNotIns ++ filters ++ filterIns ++ fullTexts ++ fullTextIns ++
    phrases ++ sorts ++ (q.limit.map Call.limit).toList ++ (q.offset.map Call.offset).toList ++
    namesCall .groupBy q.groupBy ++ namesCall .stats q.stats

def toBuilder (q : QueryOptions) : Except ClientError Builder :=
  q.calls.map (Builder.applyAll {})

end QueryOptions

end DocSearch.CommandLine
