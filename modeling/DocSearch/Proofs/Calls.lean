import DocSearch.Proofs.Groups
import DocSearch.Proofs.Paths
import Mathlib.Data.List.Induction
import Mathlib.Data.List.Nodup

/-!
# What calls leave in a query

A query under construction is a function of its log, the list of the calls that built it. Only the
calls since the last one that clears count, and of these each list of the query is what remains when
all other calls are left out. Nested conditions are sorted by paths in addition: the groups come in
the order in which their paths were first used, and each holds the conditions of its path.

`Builder.ofLog` reads a query off a log. A call changes what is read off in the same way as it
changes the query, and the run of all calls follows by induction on the log.
-/

namespace DocSearch

/-! ### Conditions by kind -/

inductive ClauseKind where
  | where_ | whereIn | whereNotIn | filter | filterIn | match_ | matchIn | matchNotIn
  | phrase | phraseIn | phraseNotIn
  deriving Repr, DecidableEq

namespace Clause

def kind : Clause → ClauseKind
  | .where_ _ => .where_
  | .whereIn _ => .whereIn
  | .whereNotIn _ => .whereNotIn
  | .filter _ => .filter
  | .filterIn _ => .filterIn
  | .match_ _ => .match_
  | .matchIn _ => .matchIn
  | .matchNotIn _ => .matchNotIn
  | .phrase _ => .phrase
  | .phraseIn _ => .phraseIn
  | .phraseNotIn _ => .phraseNotIn

/-- The path of the field, empty if it has none. -/
def path (c : Clause) : String := (nestedPath c.field).getD ""

end Clause

namespace Clauses

/-- The list that a scope keeps of one kind. -/
def ofKind (cs : Clauses) : ClauseKind → List Clause
  | .where_ => cs.wheres.map .where_
  | .whereIn => cs.whereIns.map .whereIn
  | .whereNotIn => cs.whereNotIns.map .whereNotIn
  | .filter => cs.filters.map .filter
  | .filterIn => cs.filterIns.map .filterIn
  | .match_ => cs.matches_.map .match_
  | .matchIn => cs.matchIns.map .matchIn
  | .matchNotIn => cs.matchNotIns.map .matchNotIn
  | .phrase => cs.phrases.map .phrase
  | .phraseIn => cs.phraseIns.map .phraseIn
  | .phraseNotIn => cs.phraseNotIns.map .phraseNotIn

def ofList (cs : List Clause) : Clauses := cs.foldl add {}

variable {cs cs' : Clauses} {c : Clause} {kind : ClauseKind}

theorem mem_iff_mem_ofKind : c ∈ cs ↔ c ∈ cs.ofKind c.kind := by
  rw [mem_def]
  cases c <;> simp [Clauses.Mem, ofKind, Clause.kind]

theorem eq_of_ofKind_eq (h : ∀ kind, cs.ofKind kind = cs'.ofKind kind) : cs = cs' := by
  have hlist {α : Type} {make : α → Clause} (hmake : ∀ p q, make p = make q → p = q)
      {ps qs : List α} (hps : ps.map make = qs.map make) : ps = qs :=
    List.map_injective_iff.mpr hmake hps
  cases cs with
  | mk =>
    cases cs' with
    | mk =>
      rw [mk.injEq]
      exact ⟨hlist (fun _ _ => Clause.where_.inj) (h .where_),
        hlist (fun _ _ => Clause.whereIn.inj) (h .whereIn),
        hlist (fun _ _ => Clause.whereNotIn.inj) (h .whereNotIn),
        hlist (fun _ _ => Clause.filter.inj) (h .filter),
        hlist (fun _ _ => Clause.filterIn.inj) (h .filterIn),
        hlist (fun _ _ => Clause.match_.inj) (h .match_),
        hlist (fun _ _ => Clause.matchIn.inj) (h .matchIn),
        hlist (fun _ _ => Clause.matchNotIn.inj) (h .matchNotIn),
        hlist (fun _ _ => Clause.phrase.inj) (h .phrase),
        hlist (fun _ _ => Clause.phraseIn.inj) (h .phraseIn),
        hlist (fun _ _ => Clause.phraseNotIn.inj) (h .phraseNotIn)⟩

theorem ofKind_add :
    (cs.add c).ofKind kind = cs.ofKind kind ++ [c].filter (fun d => d.kind = kind) := by
  cases c <;> cases kind <;> simp [add, ofKind, Clause.kind]

theorem ofList_concat (cs : List Clause) (c : Clause) : ofList (cs ++ [c]) = (ofList cs).add c :=
  List.foldl_concat ..

theorem ofKind_ofList (cs : List Clause) (kind : ClauseKind) :
    (ofList cs).ofKind kind = cs.filter fun c => c.kind = kind := by
  induction cs using List.reverseRecOn with
  | nil => cases kind <;> rfl
  | append_singleton cs c ih => rw [ofList_concat, ofKind_add, ih, List.filter_append]

theorem mem_ofList {cs : List Clause} {c : Clause} : c ∈ ofList cs ↔ c ∈ cs := by
  rw [mem_iff_mem_ofKind, ofKind_ofList]
  simp

end Clauses

/-! ### Logs -/

namespace Call

@[simp]
def condition? : Call → Option Clause
  | .clause c => some c
  | _ => none

@[simp]
def nestedCondition? : Call → Option Clause
  | .nestedClause c => some c
  | _ => none

@[simp]
def sortKey? : Call → Option SortKey
  | .orderBy s => some s
  | _ => none

@[simp]
def limit? : Call → Option Int64
  | .limit n => some n
  | _ => none

@[simp]
def offset? : Call → Option Int64
  | .offset n => some n
  | _ => none

@[simp]
def groupBy? : Call → Option (List String)
  | .groupBy fields => some fields
  | _ => none

@[simp]
def statsFields : Call → List String
  | .stats fields => fields
  | _ => []

end Call

theorem eraseDups_concat (names : List String) (name : String) :
    (names ++ [name]).eraseDups =
      if name ∈ names then names.eraseDups else names.eraseDups ++ [name] := by
  rw [List.eraseDups_append, List.cons_removeAll]
  by_cases hmem : name ∈ names
  · simp [hmem]
  · simp [hmem, List.eraseDups_cons]

theorem nodup_eraseDups (names : List String) : names.eraseDups.Nodup := by
  induction names using List.reverseRecOn with
  | nil => exact List.nodup_nil
  | append_singleton names name ih =>
    rw [eraseDups_concat]
    by_cases hmem : name ∈ names
    · rwa [if_pos hmem]
    · rw [if_neg hmem, ← List.concat_eq_append]
      exact ih.concat fun h => hmem (List.mem_eraseDups.mp h)

/-- The calls that built a query, in order. -/
abbrev CallLog := List Call

namespace CallLog

/-- The calls after the last one that clears. -/
def current (log : CallLog) : CallLog := (log.reverse.takeWhile fun call => call ≠ .clear).reverse

def conditions (log : CallLog) : List Clause := log.filterMap Call.condition?

def nestedConditions (log : CallLog) : List Clause := log.filterMap Call.nestedCondition?

def under (log : CallLog) (path : String) : List Clause :=
  log.nestedConditions.filter fun c => c.path = path

/-- The paths of nested conditions, each where it is first used. -/
def paths (log : CallLog) : List String := (log.nestedConditions.map Clause.path).eraseDups

def sorts (log : CallLog) : List SortKey := log.filterMap Call.sortKey?

def limit (log : CallLog) : Option Int64 := (log.filterMap Call.limit?).getLast?

def offset (log : CallLog) : Option Int64 := (log.filterMap Call.offset?).getLast?

def groupBy (log : CallLog) : Option (List String) := (log.filterMap Call.groupBy?).getLast?

def stats (log : CallLog) : List String := log.flatMap Call.statsFields

variable {log : CallLog} {call : Call}

theorem current_concat (log : CallLog) (call : Call) :
    current (log ++ [call]) = if call = .clear then [] else current log ++ [call] := by
  rw [current, List.reverse_concat, List.takeWhile_cons]
  by_cases hclear : call = .clear
  · simp [hclear]
  · simp [hclear, current]

section Concat

theorem filterMap_concat {α : Type} (f : Call → Option α) (log : CallLog) (call : Call) :
    (log ++ [call]).filterMap f = log.filterMap f ++ (f call).toList := by
  rw [List.filterMap_append]
  cases hcall : f call with
  | none => simp [hcall]
  | some a => simp [hcall]

@[simp]
theorem conditions_concat (log : CallLog) (call : Call) :
    conditions (log ++ [call]) = log.conditions ++ call.condition?.toList :=
  filterMap_concat ..

@[simp]
theorem nestedConditions_concat (log : CallLog) (call : Call) :
    nestedConditions (log ++ [call]) = log.nestedConditions ++ call.nestedCondition?.toList :=
  filterMap_concat ..

@[simp]
theorem sorts_concat (log : CallLog) (call : Call) :
    sorts (log ++ [call]) = log.sorts ++ call.sortKey?.toList :=
  filterMap_concat ..

theorem getLast?_filterMap_concat {α : Type} (f : Call → Option α) (log : CallLog) (call : Call) :
    ((log ++ [call]).filterMap f).getLast? = (f call).or (log.filterMap f).getLast? := by
  rw [filterMap_concat, List.getLast?_append]
  cases f call <;> rfl

@[simp]
theorem limit_concat (log : CallLog) (call : Call) :
    limit (log ++ [call]) = call.limit?.or log.limit :=
  getLast?_filterMap_concat ..

@[simp]
theorem offset_concat (log : CallLog) (call : Call) :
    offset (log ++ [call]) = call.offset?.or log.offset :=
  getLast?_filterMap_concat ..

@[simp]
theorem groupBy_concat (log : CallLog) (call : Call) :
    groupBy (log ++ [call]) = call.groupBy?.or log.groupBy :=
  getLast?_filterMap_concat ..

@[simp]
theorem stats_concat (log : CallLog) (call : Call) :
    stats (log ++ [call]) = log.stats ++ call.statsFields := by
  rw [stats, List.flatMap_append, List.flatMap_singleton, ← stats]

end Concat

theorem mem_paths {path : String} : path ∈ log.paths ↔ ∃ c ∈ log.nestedConditions, c.path = path := by
  rw [paths, List.mem_eraseDups, List.mem_map]

theorem paths_concat_nestedClause (log : CallLog) (c : Clause) :
    paths (log ++ [.nestedClause c]) =
      if c.path ∈ log.paths then log.paths else log.paths ++ [c.path] := by
  rw [paths, nestedConditions_concat, Call.nestedCondition?, Option.toList_some, List.map_append,
    List.map_singleton, eraseDups_concat]
  simp only [paths, List.mem_eraseDups]

theorem nodup_paths (log : CallLog) : log.paths.Nodup := nodup_eraseDups _

theorem under_eq_nil_iff {path : String} : log.under path = [] ↔ path ∉ log.paths := by
  simp [under, mem_paths]

theorem under_concat_nestedClause (log : CallLog) (c : Clause) (path : String) :
    under (log ++ [.nestedClause c]) path =
      if c.path = path then log.under path ++ [c] else log.under path := by
  rw [under, nestedConditions_concat, Call.nestedCondition?, Option.toList_some, List.filter_append]
  by_cases hpath : c.path = path
  · simp [hpath, under]
  · simp [hpath, under]

end CallLog

/-! ### Queries read off logs -/

def CallLog.groups (log : CallLog) : List NestedGroup :=
  log.paths.map fun path => ⟨path, .ofList (log.under path)⟩

/-- The query that a log without clearing leads to. -/
def Builder.ofLog (schema : Option Schema) (log : CallLog) : Builder where
  clauses := .ofList log.conditions
  nested := log.groups
  sorts := log.sorts
  limit := log.limit
  offset := log.offset
  groupBy := log.groupBy
  stats := log.stats
  schema := schema

section Groups

variable {path : String} {c : Clause}

theorem addToGroup_of_not_mem {gs : List NestedGroup} (h : path ∉ gs.map (·.path)) :
    addToGroup path c gs = gs ++ [⟨path, Clauses.add {} c⟩] := by
  induction gs with
  | nil => rfl
  | cons g gs ih =>
    obtain ⟨hg, hgs⟩ : path ≠ g.path ∧ path ∉ gs.map (·.path) := by simpa using h
    rw [addToGroup, if_neg hg.symm, ih hgs, List.cons_append]

/-- Where paths do not repeat, a condition is added to the group of its path only. -/
theorem addToGroup_of_mem {gs : List NestedGroup} (hgs : (gs.map (·.path)).Nodup)
    (h : path ∈ gs.map (·.path)) :
    addToGroup path c gs =
      gs.map fun g => if g.path = path then { g with clauses := g.clauses.add c } else g := by
  induction gs with
  | nil => simp at h
  | cons g gs ih =>
    obtain ⟨hnot, hgs⟩ := List.nodup_cons.mp hgs
    rw [addToGroup, List.map_cons]
    by_cases hg : g.path = path
    · have hrest : gs.map (fun g => if g.path = path then { g with clauses := g.clauses.add c }
          else g) = gs := by
        refine (List.map_congr_left fun g' hg' => if_neg fun heq => ?_).trans (List.map_id gs)
        exact hnot (List.mem_map.mpr ⟨g', hg', heq.trans hg.symm⟩)
      rw [if_pos hg, if_pos hg, hrest]
    · have hmem : path ∈ gs.map (·.path) := by simpa [Ne.symm hg] using h
      rw [if_neg hg, if_neg hg, ih hgs hmem]

end Groups

namespace CallLog

theorem map_path_groups (log : CallLog) : log.groups.map (·.path) = log.paths := by
  rw [groups, List.map_map]
  exact List.map_id _

theorem groups_concat_nestedClause (log : CallLog) (c : Clause) :
    groups (log ++ [.nestedClause c]) = addToGroup c.path c log.groups := by
  have hnodup : (log.groups.map (·.path)).Nodup := log.map_path_groups ▸ log.nodup_paths
  rw [groups, paths_concat_nestedClause]
  by_cases hmem : c.path ∈ log.paths
  · -- the group is there already, and it alone changes
    rw [if_pos hmem, addToGroup_of_mem hnodup (log.map_path_groups ▸ hmem), groups, List.map_map]
    refine List.map_congr_left fun path _ => ?_
    by_cases hpath : c.path = path
    · simp [under_concat_nestedClause, hpath, Clauses.ofList_concat]
    · simp [under_concat_nestedClause, hpath, Ne.symm hpath]
  · -- no condition before this one has its path, so the new group holds nothing else
    rw [if_neg hmem, addToGroup_of_not_mem (log.map_path_groups ▸ hmem), groups, List.map_append]
    refine congrArg₂ _ (List.map_congr_left fun path hpath => ?_) ?_
    · have hne : c.path ≠ path := fun heq => hmem (heq ▸ hpath)
      rw [under_concat_nestedClause, if_neg hne]
    · have hempty : log.under c.path = [] := under_eq_nil_iff.mpr hmem
      simp [under_concat_nestedClause, hempty, Clauses.ofList]

theorem groups_concat_of_none (log : CallLog) {call : Call} (h : call.nestedCondition? = none) :
    groups (log ++ [call]) = log.groups := by
  have hsame : nestedConditions (log ++ [call]) = log.nestedConditions := by
    rw [nestedConditions_concat, h, Option.toList_none, List.append_nil]
  simp only [groups, paths, under, hsame]

end CallLog

namespace Builder

theorem applyAll_append (b : Builder) (log log' : CallLog) :
    b.applyAll (log ++ log') = (b.applyAll log).applyAll log' :=
  List.foldl_append

theorem applyAll_concat (b : Builder) (log : CallLog) (call : Call) :
    b.applyAll (log ++ [call]) = (b.applyAll log).apply call :=
  b.applyAll_append log [call]

/-- One call: the query of a log changes to that of the longer log. -/
theorem apply_ofLog (schema : Option Schema) (log : CallLog) {call : Call} (h : call ≠ .clear) :
    (ofLog schema log).apply call = ofLog schema (log ++ [call]) := by
  have hgroups : CallLog.groups (log ++ [call]) = ((ofLog schema log).apply call).nested := by
    cases call with
    | nestedClause c => exact log.groups_concat_nestedClause c
    | clear => exact absurd rfl h
    | _ => exact log.groups_concat_of_none rfl
  cases call with
  | clear => exact absurd rfl h
  | clause c => simp [ofLog, apply, hgroups, Clauses.ofList_concat]
  | _ => simp [ofLog, apply, hgroups]

theorem apply_clear_ofLog (schema : Option Schema) (log : CallLog) :
    (ofLog schema log).apply .clear = ofLog schema [] := rfl

/-- A run of calls: what is left of it is the query of the calls since the last that clears. -/
theorem applyAll_eq_ofLog (schema : Option Schema) (log : CallLog) :
    ({ schema := schema } : Builder).applyAll log = ofLog schema log.current := by
  induction log using List.reverseRecOn with
  | nil => rfl
  | append_singleton log call ih =>
    rw [applyAll_concat, ih, CallLog.current_concat]
    by_cases hclear : call = .clear
    · rw [if_pos hclear, hclear, apply_clear_ofLog]
    · rw [if_neg hclear, apply_ofLog schema _ hclear]

end Builder

/-! ### The projections of a log -/

/-- Two logs have the same conditions of each kind, outside groups and under each path, the same
order of paths and the same directives. -/
structure CallLog.Alike (log log' : CallLog) : Prop where
  conditions : ∀ kind, log.conditions.filter (fun c => c.kind = kind) =
    log'.conditions.filter fun c => c.kind = kind
  under : ∀ path kind, (log.under path).filter (fun c => c.kind = kind) =
    (log'.under path).filter fun c => c.kind = kind
  paths : log.paths = log'.paths
  sorts : log.sorts = log'.sorts
  limit : log.limit = log'.limit
  offset : log.offset = log'.offset
  groupBy : log.groupBy = log'.groupBy
  stats : log.stats = log'.stats

theorem Clauses.ofList_eq_ofList_iff {cs cs' : List Clause} :
    ofList cs = ofList cs' ↔
      ∀ kind, cs.filter (fun c => c.kind = kind) = cs'.filter fun c => c.kind = kind := by
  constructor
  · intro h kind
    rw [← ofKind_ofList, ← ofKind_ofList, h]
  · intro h
    refine eq_of_ofKind_eq fun kind => ?_
    rw [ofKind_ofList, ofKind_ofList, h]

theorem CallLog.groups_eq_groups_iff {log log' : CallLog} :
    log.groups = log'.groups ↔ log.paths = log'.paths ∧
      ∀ path, Clauses.ofList (log.under path) = Clauses.ofList (log'.under path) := by
  constructor
  · intro h
    have hpaths : log.paths = log'.paths := by
      rw [← map_path_groups, h, map_path_groups]
    refine ⟨hpaths, fun path => ?_⟩
    by_cases hpath : path ∈ log.paths
    · rw [groups, groups, ← hpaths, List.map_inj_left] at h
      exact congrArg NestedGroup.clauses (h path hpath)
    · rw [under_eq_nil_iff.mpr hpath, under_eq_nil_iff.mpr (hpaths ▸ hpath)]
  · rintro ⟨hpaths, hunder⟩
    rw [groups, groups, ← hpaths]
    exact List.map_congr_left fun path _ => by rw [hunder path]

namespace Builder

theorem ofLog_eq_ofLog_iff {schema : Option Schema} {log log' : CallLog} :
    ofLog schema log = ofLog schema log' ↔ log.Alike log' := by
  simp only [ofLog, mk.injEq, Clauses.ofList_eq_ofList_iff, CallLog.groups_eq_groups_iff]
  constructor
  · rintro ⟨hconditions, ⟨hpaths, hunder⟩, hsorts, hlimit, hoffset, hgroupBy, hstats, -⟩
    exact ⟨hconditions, hunder, hpaths, hsorts, hlimit, hoffset, hgroupBy, hstats⟩
  · intro h
    exact ⟨h.conditions, ⟨h.paths, h.under⟩, h.sorts, h.limit, h.offset, h.groupBy, h.stats,
      trivial⟩

/-- **A query is the projection of its calls.** After any calls on a new query, with or without a
schema, only those since the last that clears count. Each kind of conditions outside groups is the
list of those that were added, in order. The groups have distinct paths in the order of their first
use, none is empty, and each kind of conditions in a group is the list of those that were added and
whose field has its path before the last point. Sort keys and fields for statistics are put
together, the limit, the offset and the fields to group by are the last ones, and the schema stays.
So two sequences of calls lead to the same query exactly if these projections agree. -/
theorem applyAll_projects_log (schema : Option Schema) (log : CallLog) :
    let b := ({ schema := schema } : Builder).applyAll log
    (∀ kind, b.clauses.ofKind kind = log.current.conditions.filter fun c => c.kind = kind) ∧
    (b.nested.map (·.path)).Nodup ∧
    b.nested.map (·.path) = (log.current.nestedConditions.map Clause.path).eraseDups ∧
    (∀ g ∈ b.nested, (∃ c, c ∈ g.clauses) ∧ ∀ kind, g.clauses.ofKind kind =
      log.current.nestedConditions.filter fun c => c.path = g.path ∧ c.kind = kind) ∧
    (∀ (c : Clause) (path : String), c.path = path ↔
      (∃ leaf : String, '.' ∉ leaf.toList ∧ c.field = path ++ "." ++ leaf) ∨
        '.' ∉ c.field.toList ∧ path = "") ∧
    b.sorts = log.current.sorts ∧ b.stats = log.current.stats ∧ b.limit = log.current.limit ∧
    b.offset = log.current.offset ∧ b.groupBy = log.current.groupBy ∧ b.schema = schema ∧
    ∀ log' : CallLog, b = ({ schema := schema } : Builder).applyAll log' ↔
      log.current.Alike log'.current := by
  intro b
  have hb : b = ofLog schema log.current := applyAll_eq_ofLog schema log
  have hpaths : b.nested.map (·.path) = log.current.paths := by
    rw [hb]
    exact log.current.map_path_groups
  refine ⟨fun kind => ?_, hpaths ▸ log.current.nodup_paths, hpaths, fun g hg => ?_,
    fun c path => nestedPath_getD_eq_iff, by rw [hb, ofLog], by rw [hb, ofLog], by rw [hb, ofLog],
    by rw [hb, ofLog], by rw [hb, ofLog], by rw [hb, ofLog], fun log' => ?_⟩
  · rw [hb]
    exact Clauses.ofKind_ofList _ kind
  · rw [hb] at hg
    obtain ⟨path, hpath, rfl⟩ := List.mem_map.mp hg
    constructor
    · obtain ⟨c, hc, rfl⟩ := CallLog.mem_paths.mp hpath
      exact ⟨c, Clauses.mem_ofList.mpr (List.mem_filter.mpr ⟨hc, by simp⟩)⟩
    · intro kind
      rw [Clauses.ofKind_ofList, CallLog.under, List.filter_filter]
      simp [Bool.and_comm]
  · rw [hb, applyAll_eq_ofLog, ofLog_eq_ofLog_iff]

end Builder

end DocSearch
