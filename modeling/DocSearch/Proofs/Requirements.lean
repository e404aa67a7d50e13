import DocSearch.Proofs.Calls
import DocSearch.Proofs.Families

/-!
# What a search requires

The checks of a search look at the conditions, at the directives and at the schema, each by code of
its own, and stop at the first failure. Here the same is said by one list: the requirements of a
query in a fixed order, each of which is met or not, whatever the others are. The checks pass
exactly when all are met, and otherwise report what the first one says that is not met.

The list is read off the calls that built the query. A condition in a group needs a path before its
field's name, but that is no requirement of its own: groups are opened under the paths of their
fields, so only a group with an empty path can hold a field without one.
-/

namespace DocSearch

/-! ### Single conditions -/

theorem Operator.parse_eq_some_iff {s : String} {op : Operator} :
    Operator.parse s = some op ↔ Text.trim s = op.text := by
  constructor
  · intro h
    obtain ⟨hfound, -⟩ := List.find?_eq_some_iff_append.mp h
    exact (beq_iff_eq.mp hfound).symm
  · intro h
    rw [Operator.parse, h]
    cases op <;> decide

theorem Context.mem_textOperators_iff {context : Context} {op : Operator} :
    op ∈ context.textOperators ↔ op = .eq ∨ op = .ne ∧ context ≠ .filter := by
  cases context <;> simp [textOperators]

namespace Predicate

variable {context : Context}

/-- The written operator is one of the context, and the value goes with it: a finite number, a date
or text that is read as one go with all, other text with equality and, outside filters, with
inequality. -/
def Sound (p : Predicate context) : Prop :=
  ∃ op ∈ context.operators, Text.trim p.operator = op.text ∧
    (p.value.isNumeric = true ∨ p.value.isDate = true ∨
      p.value.isText = true ∧ (op = .eq ∨ op = .ne ∧ context ≠ .filter))

instance (p : Predicate context) : Decidable p.Sound :=
  inferInstanceAs (Decidable (∃ op ∈ context.operators, _))

/-- What is wrong with a condition that is not sound: its operator, or else its value. -/
def violation (p : Predicate context) : ValidationError :=
  if ∃ op ∈ context.operators, Text.trim p.operator = op.text then
    match p.operator?, p.value with
    | some op, .text s => .incompatibleValue p.field op s
    | _, _ => .unsupportedValue p.field
  else .invalidOperator context p.field p.operator

theorem sound_iff_validate {p : Predicate context} : p.Sound ↔ p.validate = .ok () := by
  rw [validate_eq_ok_iff]
  refine exists_congr fun op => ?_
  rw [allowed_eq_ok_iff, operator?, Operator.parse_eq_some_iff, Scalar.isRangeable, Bool.or_eq_true,
    Context.mem_textOperators_iff, or_assoc]
  tauto

theorem validate_of_not_sound {p : Predicate context} (h : ¬ p.Sound) :
    p.validate = .error p.violation := by
  unfold violation
  split
  · next hop =>
    obtain ⟨op, hmem, htrim⟩ := hop
    have hparse : p.operator? = some op := Operator.parse_eq_some_iff.mpr htrim
    have hallowed : p.allowed = .ok op := allowed_eq_ok_iff.mpr ⟨hparse, hmem⟩
    have hvalue : ¬ (p.value.isRangeable = true ∨
        p.value.isText = true ∧ op ∈ context.textOperators) := fun hvalue =>
      h (sound_iff_validate.mpr (validate_eq_ok_iff.mpr ⟨op, hallowed, hvalue⟩))
    obtain ⟨hrange, htext⟩ := not_or.mp hvalue
    rw [validate, hallowed, ok_bind, if_neg hrange, hparse]
    cases hkind : p.value with
    | text s =>
      have hnot : op ∉ context.textOperators := fun hmem => htext ⟨by rw [hkind]; rfl, hmem⟩
      exact if_neg hnot
    | _ => rfl
  · next hop =>
    have hallowed : p.allowed = .error (.invalidOperator context p.field p.operator) := by
      unfold allowed
      cases hparse : p.operator? with
      | none => rfl
      | some op =>
        exact if_neg fun hmem => hop ⟨op, hmem, Operator.parse_eq_some_iff.mp hparse⟩
    rw [validate, hallowed, error_bind]

end Predicate

namespace SetPredicate

variable {context : Context}

/-- Every listed value is text or a finite number. -/
def Sound (p : SetPredicate context) : Prop :=
  ∀ v ∈ p.values, v.isText = true ∨ v.isNumeric = true

instance (p : SetPredicate context) : Decidable p.Sound :=
  inferInstanceAs (Decidable (∀ v ∈ p.values, _))

theorem validate_eq (p : SetPredicate context) :
    p.validate = if p.Sound then .ok () else .error (.unsupportedValue p.field) := by
  have hall : (p.values.all fun v => v.isNumeric || v.isText) = true ↔ p.Sound := by
    simp [Sound, or_comm]
  simp only [validate, hall]

end SetPredicate

namespace Clause

/-- A condition has an operator of its context and a value that goes with it, or a list of values
that can be listed. -/
def Sound : Clause → Prop
  | .where_ p => p.Sound
  | .whereIn p => p.Sound
  | .whereNotIn p => p.Sound
  | .filter p => p.Sound
  | .filterIn p => p.Sound
  | .match_ p => p.Sound
  | .matchIn p => p.Sound
  | .matchNotIn p => p.Sound
  | .phrase p => p.Sound
  | .phraseIn p => p.Sound
  | .phraseNotIn p => p.Sound

instance : (c : Clause) → Decidable c.Sound
  | .where_ p => inferInstanceAs (Decidable p.Sound)
  | .whereIn p => inferInstanceAs (Decidable p.Sound)
  | .whereNotIn p => inferInstanceAs (Decidable p.Sound)
  | .filter p => inferInstanceAs (Decidable p.Sound)
  | .filterIn p => inferInstanceAs (Decidable p.Sound)
  | .match_ p => inferInstanceAs (Decidable p.Sound)
  | .matchIn p => inferInstanceAs (Decidable p.Sound)
  | .matchNotIn p => inferInstanceAs (Decidable p.Sound)
  | .phrase p => inferInstanceAs (Decidable p.Sound)
  | .phraseIn p => inferInstanceAs (Decidable p.Sound)
  | .phraseNotIn p => inferInstanceAs (Decidable p.Sound)

/-- What is wrong with a condition that is not sound. -/
def violation : Clause → ValidationError
  | .where_ p => p.violation
  | .filter p => p.violation
  | .match_ p => p.violation
  | .phrase p => p.violation
  | c => .unsupportedValue c.field

theorem validate_eq (c : Clause) :
    c.validate = if c.Sound then .ok () else .error c.violation := by
  have hsingle {context : Context} (p : Predicate context) :
      p.validate = if p.Sound then .ok () else .error p.violation := by
    split
    · next h => exact Predicate.sound_iff_validate.mp h
    · next h => exact Predicate.validate_of_not_sound h
  cases c with
  | where_ p => exact hsingle p
  | filter p => exact hsingle p
  | match_ p => exact hsingle p
  | phrase p => exact hsingle p
  | whereIn p => exact p.validate_eq
  | whereNotIn p => exact p.validate_eq
  | filterIn p => exact p.validate_eq
  | matchIn p => exact p.validate_eq
  | matchNotIn p => exact p.validate_eq
  | phraseIn p => exact p.validate_eq
  | phraseNotIn p => exact p.validate_eq

end Clause

/-! ### Requirements -/

/-- Something that a query has to meet before it is sent. -/
inductive Requirement where
  | path (g : NestedGroup)
  | condition (c : Clause)
  | known (field : String)
  | sortKey (s : SortKey)
  | groupBy (fields : List String)
  | limit (n : Int64)
  | offset (n : Int64)
  deriving Repr, DecidableEq

namespace Requirement

/-- Whether a requirement is met, given the schema if there is one. -/
def Met (schema : Option Schema) : Requirement → Prop
  | .path g => g.path ≠ ""
  | .condition c => c.Sound
  | .known field => ∀ s ∈ schema, s.contains field = true
  | .sortKey s => Text.blank s.field = false ∧ ∀ path ∈ s.nestedPath, Text.blank path = false
  | .groupBy fields => fields ≠ [] ∧ ∀ field ∈ fields, Text.blank field = false
  | .limit n => 0 < n
  | .offset n => 0 ≤ n

instance (schema : Option Schema) : (r : Requirement) → Decidable (r.Met schema)
  | .path g => inferInstanceAs (Decidable (g.path ≠ ""))
  | .condition c => inferInstanceAs (Decidable c.Sound)
  | .known field => inferInstanceAs (Decidable (∀ s ∈ schema, s.contains field = true))
  | .sortKey s => inferInstanceAs (Decidable (_ ∧ ∀ path ∈ s.nestedPath, _))
  | .groupBy fields => inferInstanceAs (Decidable (_ ∧ ∀ field ∈ fields, _))
  | .limit n => inferInstanceAs (Decidable (0 < n))
  | .offset n => inferInstanceAs (Decidable (0 ≤ n))

/-- What is reported of a requirement that is not met. -/
def violation : Requirement → ValidationError
  | .path g => .malformedNestedPath (g.clauses.fields.head?.getD "")
  | .condition c => c.violation
  | .known field => .unknownField field
  | .sortKey s => if s.nestedPath.isSome then .incompleteNestedSort s.field else .emptySortField
  | .groupBy _ => .emptyGroupBy
  | .limit n => .invalidLimit n
  | .offset n => .invalidOffset n

/-- What the first requirement says that is not met, if there is one. -/
def verdict (schema : Option Schema) (rs : List Requirement) : Except ValidationError Unit :=
  match rs.find? fun r => ¬ r.Met schema with
  | none => .ok ()
  | some r => .error r.violation

end Requirement

/-- The kinds in the order in which their conditions are checked. -/
def ClauseKind.checked : List ClauseKind :=
  [.whereIn, .whereNotIn, .where_, .filterIn, .filter, .matchIn, .matchNotIn, .match_, .phraseIn,
    .phraseNotIn, .phrase]

/-- The requirements of the conditions of a scope: kind by kind, those of a kind in order, and of
each first that it is sound and then that its field is known. -/
def Requirement.ofScope (cs : List Clause) : List Requirement :=
  ClauseKind.checked.flatMap fun kind =>
    (cs.filter fun c => c.kind = kind).flatMap fun c => [.condition c, .known c.field]

namespace CallLog

/-- The requirements of the groups in the order in which their paths are first used. -/
def groupRequirements (log : CallLog) : List Requirement :=
  log.paths.flatMap fun path =>
    .path ⟨path, .ofList (log.under path)⟩ :: Requirement.ofScope (log.under path)

/-- The requirements of the directives to sort, to group and to compute statistics. -/
def directiveRequirements (log : CallLog) : List Requirement :=
  log.sorts.flatMap (fun s => [.sortKey s, .known s.field]) ++
    log.groupBy.toList.flatMap (fun fields => .groupBy fields :: fields.map .known) ++
    log.stats.map .known

/-- All requirements of the query that a log without clearing leads to. -/
def requirements (log : CallLog) : List Requirement :=
  Requirement.ofScope log.conditions ++ log.groupRequirements ++ log.directiveRequirements ++
    log.limit.toList.map .limit ++ log.offset.toList.map .offset

end CallLog

/-! ### Checks by their requirements -/

namespace Requirement

variable {schema : Option Schema}

theorem verdict_eq_ok_iff {rs : List Requirement} :
    verdict schema rs = .ok () ↔ ∀ r ∈ rs, r.Met schema := by
  unfold verdict
  cases hfind : rs.find? fun r => ¬ r.Met schema with
  | none =>
    have hall : ∀ r ∈ rs, r.Met schema := by simpa using List.find?_eq_none.mp hfind
    exact iff_of_true rfl hall
  | some r =>
    have hunmet : ¬ r.Met schema := by simpa using List.find?_some hfind
    exact iff_of_false (by simp) fun h => hunmet (h r (List.mem_of_find?_eq_some hfind))

theorem verdict_eq_error_iff {rs : List Requirement} {e : ValidationError} :
    verdict schema rs = .error e ↔ ∃ before r after, rs = before ++ r :: after ∧
      (∀ earlier ∈ before, earlier.Met schema) ∧ ¬ r.Met schema ∧ r.violation = e := by
  constructor
  · intro h
    unfold verdict at h
    split at h
    · cases h
    · next r hfind =>
      obtain ⟨hunmet, before, after, heq, hbefore⟩ := List.find?_eq_some_iff_append.mp hfind
      exact ⟨before, r, after, heq, by simpa using hbefore, by simpa using hunmet,
        Except.error.inj h⟩
  · rintro ⟨before, r, after, heq, hbefore, hunmet, rfl⟩
    have hfind : (rs.find? fun r => ¬ r.Met schema) = some r :=
      List.find?_eq_some_iff_append.mpr
        ⟨by simpa using hunmet, before, after, heq, by simpa using hbefore⟩
    rw [verdict, hfind]

theorem verdict_append (rs rs' : List Requirement) :
    verdict schema (rs ++ rs') = verdict schema rs >>= fun _ => verdict schema rs' := by
  unfold verdict
  rw [List.find?_append]
  cases rs.find? fun r => ¬ r.Met schema <;> rfl

theorem eq_verdict_singleton {r : Requirement} {x : Except ValidationError Unit}
    (hmet : r.Met schema → x = .ok ()) (hunmet : ¬ r.Met schema → x = .error r.violation) :
    x = verdict schema [r] := by
  by_cases h : r.Met schema
  · simp [verdict, h, hmet h]
  · simp [verdict, h, hunmet h]

theorem verdict_cons (r : Requirement) (rs : List Requirement) :
    verdict schema (r :: rs) = verdict schema [r] >>= fun _ => verdict schema rs :=
  verdict_append [r] rs

/-- Items that are checked one after the other have the requirements of each in order. -/
theorem checkAll_eq_verdict {α : Type} {check : α → Except ValidationError Unit}
    {rs : α → List Requirement} {as : List α} (h : ∀ a ∈ as, check a = verdict schema (rs a)) :
    checkAll check as = verdict schema (as.flatMap rs) := by
  induction as with
  | nil => rfl
  | cons a as ih =>
    obtain ⟨ha, has⟩ := List.forall_mem_cons.mp h
    rw [checkAll, ha, ih has, List.flatMap_cons, verdict_append]

theorem checkField_eq_verdict (field : String) :
    checkField schema field = verdict schema [.known field] := by
  cases schema with
  | none => rfl
  | some s =>
    refine eq_verdict_singleton (fun h => if_pos (h s rfl)) fun h => if_neg fun hknown => h ?_
    exact fun s' hs' => Option.some.inj hs' ▸ hknown

theorem checkAll_checkField_eq_verdict (fields : List String) :
    checkAll (checkField schema) fields = verdict schema (fields.map .known) := by
  rw [checkAll_eq_verdict fun field _ => checkField_eq_verdict field]
  exact congrArg _ (List.map_eq_flatMap ..).symm

end Requirement

open Requirement

variable {schema : Option Schema}

theorem Clause.check_eq_verdict {c : Clause} {nested : Bool}
    (hname : checkNestedName nested c.field = .ok ()) :
    c.check schema nested = verdict schema [.condition c, .known c.field] := by
  have hown : c.validate = verdict schema [.condition c] :=
    eq_verdict_singleton (fun h => c.validate_eq.trans (if_pos h))
      fun h => c.validate_eq.trans (if_neg h)
  rw [check, checkClause, hname, ok_bind, verdict_cons, hown, checkField_eq_verdict]

theorem checkAll_map {α β : Type} (f : α → β) (check : β → Except ValidationError Unit)
    (as : List α) : checkAll check (as.map f) = checkAll (fun a => check (f a)) as := by
  induction as with
  | nil => rfl
  | cons a as ih => rw [List.map_cons, checkAll, ih, checkAll]

/-- The checks of a scope go through its conditions kind by kind. -/
theorem Clauses.validate_eq_checkAll (cs : Clauses) (nested : Bool) :
    cs.validate schema nested =
      checkAll (fun kind => checkAll (Clause.check schema nested) (cs.ofKind kind))
        ClauseKind.checked := by
  have hlast (x : Except ValidationError Unit) : (x >>= fun _ => .ok ()) = x := by
    cases x <;> rfl
  simp only [ClauseKind.checked, checkAll, Clauses.ofKind, checkAll_map, hlast]
  rfl

theorem Clauses.validate_ofList_eq_verdict {cs : List Clause} {nested : Bool}
    (hname : ∀ c ∈ cs, checkNestedName nested c.field = .ok ()) :
    (Clauses.ofList cs).validate schema nested = verdict schema (ofScope cs) := by
  rw [validate_eq_checkAll]
  refine checkAll_eq_verdict fun kind _ => ?_
  rw [ofKind_ofList]
  exact checkAll_eq_verdict fun c hc => Clause.check_eq_verdict (hname c (List.mem_filter.mp hc).1)

/-- A condition whose field has a path passes the check of nested names. -/
theorem Clause.checkNestedName_of_path {c : Clause} (h : c.path ≠ "") :
    checkNestedName true c.field = .ok () := by
  have hpoint : '.' ∈ c.field.toList := by
    have hown : (nestedPath c.field).getD "" = c.path := rfl
    rcases nestedPath_getD_eq_iff.mp hown with ⟨leaf, -, hfield⟩ | ⟨-, hempty⟩
    · rw [hfield]
      simp
    · exact absurd hempty h
  simp [checkNestedName, hpoint]

theorem NestedGroup.validate_ofList_eq_verdict {path : String} {cs : List Clause}
    (hcs : ∀ c ∈ cs, c.path = path) :
    NestedGroup.validate ⟨path, .ofList cs⟩ schema =
      verdict schema (.path ⟨path, .ofList cs⟩ :: ofScope cs) := by
  by_cases hpath : path = ""
  · subst hpath
    rfl
  · have hname : ∀ c ∈ cs, checkNestedName true c.field = .ok () :=
      fun c hc => Clause.checkNestedName_of_path ((hcs c hc).symm ▸ hpath)
    have hmet : Met schema (.path ⟨path, .ofList cs⟩) := hpath
    have hown : .ok () = verdict schema [.path ⟨path, .ofList cs⟩] :=
      eq_verdict_singleton (fun _ => rfl) fun hunmet => absurd hmet hunmet
    have hempty : path.isEmpty = false := by simpa using hpath
    rw [verdict_cons, ← hown, ok_bind, ← Clauses.validate_ofList_eq_verdict hname,
      NestedGroup.validate, hempty]
    rfl

theorem SortKey.validate_eq_verdict (schema : Option Schema) (s : SortKey) :
    s.validate = verdict schema [.sortKey s] := by
  refine eq_verdict_singleton (fun h => ?_) fun h => ?_
  · obtain ⟨hfield, hpath⟩ := h
    rw [validate]
    cases hnested : s.nestedPath with
    | none => simp [hfield]
    | some path => simp [hfield, hpath path hnested]
  · have hblank : (∀ path ∈ s.nestedPath, Text.blank path = false) → Text.blank s.field = true :=
      fun hpath => by simpa using fun hfield => h ⟨hfield, hpath⟩
    rw [validate, violation]
    cases hnested : s.nestedPath with
    | none => simp [hblank (by simp [hnested])]
    | some path =>
      cases hpath : Text.blank path with
      | true => simp [hpath]
      | false => simp [hblank (by simpa [hnested] using hpath)]

theorem Builder.checkSort_eq_verdict (s : SortKey) :
    Builder.checkSort schema s = verdict schema [.sortKey s, .known s.field] := by
  rw [checkSort, SortKey.validate_eq_verdict schema, checkField_eq_verdict,
    ← verdict_cons]

namespace Builder

variable {b : Builder}

theorem validateGroupBy_eq_verdict (hs : b.schema = schema) :
    b.validateGroupBy = verdict schema
      (b.groupBy.toList.flatMap fun fields => .groupBy fields :: fields.map .known) := by
  rw [validateGroupBy, hs]
  cases b.groupBy with
  | none => rfl
  | some fields =>
    have hmet : Met schema (.groupBy fields) ↔
        ¬ (fields.isEmpty || fields.any Text.blank) = true := by
      simp [Met]
    have hown : (if fields.isEmpty || fields.any Text.blank then .error .emptyGroupBy
        else .ok () : Except ValidationError Unit) = verdict schema [.groupBy fields] :=
      eq_verdict_singleton (fun h => if_neg (hmet.mp h))
        fun h => if_pos (not_not.mp (mt hmet.mpr h))
    simp only [Option.toList_some, List.flatMap_cons, List.flatMap_nil, List.append_nil]
    rw [verdict_cons, ← hown, ← checkAll_checkField_eq_verdict]
    split <;> rfl

theorem validateLimit_eq_verdict (schema : Option Schema) (b : Builder) :
    b.validateLimit = verdict schema (b.limit.toList.map .limit) := by
  rw [validateLimit]
  cases b.limit with
  | none => rfl
  | some n =>
    exact eq_verdict_singleton (fun h => if_neg (Int64.not_le.mpr h))
      fun h => if_pos (Int64.not_lt.mp h)

theorem validateOffset_eq_verdict (schema : Option Schema) (b : Builder) :
    b.validateOffset = verdict schema (b.offset.toList.map .offset) := by
  rw [validateOffset]
  cases b.offset with
  | none => rfl
  | some n =>
    exact eq_verdict_singleton (fun h => if_neg (Int64.not_lt.mpr h))
      fun h => if_pos (Int64.not_le.mp h)

theorem validateClauses_ofLog (schema : Option Schema) (log : CallLog) :
    (ofLog schema log).validateClauses =
      verdict schema (ofScope log.conditions ++ log.groupRequirements) := by
  have hgroups : checkAll (fun g => NestedGroup.validate g schema) log.groups =
      verdict schema log.groupRequirements := by
    rw [CallLog.groups, checkAll_map]
    refine checkAll_eq_verdict fun path _ => NestedGroup.validate_ofList_eq_verdict fun c hc => ?_
    simpa using (List.mem_filter.mp hc).2
  have hown : (Clauses.ofList log.conditions).validate schema false =
      verdict schema (ofScope log.conditions) :=
    Clauses.validate_ofList_eq_verdict fun _ _ => rfl
  rw [verdict_append, ← hown, ← hgroups]
  rfl

theorem validateDirectives_ofLog (schema : Option Schema) (log : CallLog) :
    (ofLog schema log).validateDirectives = verdict schema log.directiveRequirements := by
  have hsorts : checkAll (checkSort schema) log.sorts =
      verdict schema (log.sorts.flatMap fun s => [.sortKey s, .known s.field]) :=
    checkAll_eq_verdict fun s _ => checkSort_eq_verdict s
  have hgroupBy : (ofLog schema log).validateGroupBy = verdict schema
      (log.groupBy.toList.flatMap fun fields => .groupBy fields :: fields.map .known) :=
    validateGroupBy_eq_verdict rfl
  rw [CallLog.directiveRequirements, verdict_append, verdict_append, ← hsorts, ← hgroupBy,
    ← checkAll_checkField_eq_verdict, bind_assoc]
  rfl

theorem validateSearch_ofLog (schema : Option Schema) (log : CallLog) :
    (ofLog schema log).validateSearch = verdict schema log.requirements := by
  rw [validateSearch, validateClauses_ofLog, validateDirectives_ofLog,
    validateLimit_eq_verdict schema, validateOffset_eq_verdict schema]
  simp only [CallLog.requirements, verdict_append, bind_assoc]
  rfl

/-- **The checks report the first requirement that is not met.** A query that is built by calls,
with or without a schema, has a list of requirements: of the conditions outside groups, kind by kind
and in the order of their calls, that each is sound and then that its field is known; of each group,
in the order in which their paths are first used, that its path is not empty and then the same of
its conditions; then of each sort key that its names are not blank and that its field is known, of
the fields to group by that there are some, none blank, and that each is known, of the fields for
statistics that they are known, and of the limit and the offset that they are in range. The query
passes if and only if all are met, and otherwise fails with what the first one says that is not. -/
theorem validateSearch_reports_first_unmet (schema : Option Schema) (log : CallLog) :
    let b := ({ schema := schema } : Builder).applyAll log
    let requirements := log.current.requirements
    (b.validateSearch = .ok () ↔ ∀ r ∈ requirements, r.Met schema) ∧
    ∀ e, b.validateSearch = .error e ↔ ∃ before r after, requirements = before ++ r :: after ∧
      (∀ earlier ∈ before, earlier.Met schema) ∧ ¬ r.Met schema ∧ r.violation = e := by
  intro b requirements
  have hb : b.validateSearch = verdict schema requirements := by
    rw [← validateSearch_ofLog, ← applyAll_eq_ofLog]
  rw [hb]
  exact ⟨verdict_eq_ok_iff, fun e => verdict_eq_error_iff⟩

end Builder

end DocSearch
