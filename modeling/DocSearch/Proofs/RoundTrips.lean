import DocSearch.Proofs.Requests

/-!
# One call for each operation

Every operation has a check of its own, which needs no engine. A plan keeps to its check if it is
rejected exactly where the check fails, with the failure of the check, and if what it makes of an
answer is never a failure of the check or of the engine. All eleven operations do so, each for its
own reason, and a run of any plan that does makes one call or, if it is rejected or the token has
fired, none.
-/

namespace DocSearch

/-- An operation with its arguments, for documents that are read as `α`. -/
inductive Task (α : Type) where
  | find (item : Json → Except DecodeError α) (id : String)
  | insert (fresh : Nat → String) (docs : List Json)
  | update (docs : List Json)
  | delete (ids : List String)
  | get (item : Json → Except DecodeError α) (b : Builder)
  | count (b : Builder)
  | aggregate (b : Builder)
  | cursor (item : Json → Except DecodeError α) (b : Builder) (size : UInt64)
      (after : Option (List Json))
  | execute (b : Builder) (params : Named Json)
  | destroy (b : Builder)
  | minMax (b : Builder) (field : String) (isDate : Bool)

namespace Task

variable {α : Type}

def operation : Task α → Operation
  | .find _ _ => .find
  | .insert _ _ => .insert
  | .update _ => .update
  | .delete _ => .delete
  | .get _ _ => .get
  | .count _ => .count
  | .aggregate _ => .aggregate
  | .cursor _ _ _ _ => .cursor
  | .execute _ _ => .execute
  | .destroy _ => .destroy
  | .minMax _ _ _ => .minMax

def Result : Task α → Type
  | .find _ _ => α
  | .insert _ _ | .update _ | .delete _ => WriteResponse
  | .get _ _ => List α
  | .count _ => UInt64
  | .aggregate _ => AggregateOutput
  | .cursor _ _ _ _ => CursorPage α
  | .execute _ _ | .destroy _ => WriteByQueryResponse
  | .minMax _ _ _ => Bounds

def plan (ix : Index) : (t : Task α) → Plan t.Result
  | .find item id => Index.find item id
  | .insert fresh docs => ix.insert fresh docs
  | .update docs => ix.update docs
  | .delete ids => ix.delete ids
  | .get item b => ix.get item b
  | .count b => Index.count b
  | .aggregate b => Index.aggregate b
  | .cursor item b size after => ix.cursor item b size after
  | .execute b params => ix.execute b params
  | .destroy b => ix.destroy b
  | .minMax b field isDate => Index.minMax b field isDate

def checkDirectives (b : Builder) : Except ValidationError Unit :=
  if b.hasAggregations then .ok () else .error .missingAggregation

/-- What an operation checks by itself: the arguments that are its own first, then the query. -/
def check (ix : Index) : Task α → Except ValidationError Unit
  | .find _ _ | .insert _ _ | .update _ | .delete _ => .ok ()
  | .get _ b => b.validateSearch
  | .count b | .destroy b | .minMax b _ _ => b.validateClauses
  | .aggregate b => do
    checkDirectives b
    b.validateSearch
  | .cursor _ b size _ => do
    ix.checkPage b size
    b.validateSearch
  | .execute b params => do
    let _ ← Script.ofParams params
    b.validateClauses

end Task

/-! ### Plans that keep to their checks -/

/-- A failure that is neither one of a check nor one of the engine. -/
def Error.OfAnswer (e : Error) : Prop :=
  (∀ cause, e ≠ .validation cause) ∧ ∀ operation cause, e ≠ .engine operation cause

/-- What is made of answers fails only because of them. -/
def Exchange.Reads {α : Type} (exchange : Exchange α) : Prop :=
  ∀ course reply e, exchange.finish course reply = .error e → e.OfAnswer

/-- A check has come before a call: if it fails there is no call, but its failure. -/
def Follows {α : Type} (check : Except ValidationError Unit)
    (prepared : Except Error (Exchange α)) : Prop :=
  match check with
  | .error e => prepared = .error (.validation e)
  | .ok () => ∃ exchange, prepared = .ok exchange ∧ exchange.Reads

/-- In every course a plan makes its call only after a check. -/
def Plan.KeepsTo {α : Type} (plan : Plan α) (check : Except ValidationError Unit) : Prop :=
  ∀ course, Follows check (plan.prepare course)

section Answers

variable {α : Type}

theorem ofAnswer_of_extractSources {course : Course} {look batch : Nat}
    {item : Json → Except DecodeError α} {hits : List Hit} {e : Error}
    (h : extractSources course look batch item hits = .error e) : e.OfAnswer := by
  obtain ⟨failure, -, rfl⟩ := mapError_eq_error_iff.mp h
  cases failure <;> simp [Error.ofChunks, Error.OfAnswer]

theorem ofAnswer_of_fromAggregations {read : Named Json → Except ExtractionError α}
    {reply : SearchResponse} {e : Error} (h : Index.fromAggregations read reply = .error e) :
    e.OfAnswer := by
  unfold Index.fromAggregations at h
  split at h
  · obtain rfl := Except.error.inj h
    simp [Error.OfAnswer]
  · obtain ⟨cause, -, rfl⟩ := mapError_eq_error_iff.mp h
    simp [Error.OfAnswer]

end Answers

section Steps

variable {α : Type} {b : Builder} {course : Course}

theorem follows_onCompiled {exchange : Query → Exchange α}
    (hreads : ∀ query, (exchange query).Reads) :
    Follows b.validateClauses (onCompiled b course exchange) := by
  cases hvalidate : b.validateClauses with
  | error e => rw [Follows, onCompiled, Builder.compile_of_validate_eq_error hvalidate]
  | ok u =>
    obtain ⟨contribution, -, hcompiled⟩ := Builder.compile_isOk hvalidate
    rw [onCompiled, (hcompiled course.families).2]
    exact ⟨_, rfl, hreads _⟩

theorem follows_searchRequest {exchange : SearchRequest → Exchange α}
    (hreads : ∀ request, (exchange request).Reads) :
    Follows b.validateSearch (
      match b.searchRequest course.families with
      | .error e => .error (.validation e)
      | .ok request => .ok (exchange request)) := by
  cases hvalidate : b.validateSearch with
  | error e => rw [Follows, Builder.searchRequest_of_validate_eq_error hvalidate]
  | ok u =>
    obtain ⟨root, -, hrequest⟩ := Builder.searchRequest_isOk hvalidate
    rw [hrequest]
    exact ⟨_, rfl, hreads _⟩

end Steps

/-! ### The eleven operations -/

namespace Index

variable {α : Type} (ix : Index) (b : Builder)

theorem keepsTo_find (item : Json → Except DecodeError α) (id : String) :
    (find item id).KeepsTo (.ok ()) := by
  intro course
  refine ⟨_, rfl, fun course reply e h => ?_⟩
  dsimp only at h
  split at h
  · obtain ⟨cause, -, rfl⟩ := mapError_eq_error_iff.mp h
    simp [Error.OfAnswer]
  · obtain rfl := Except.error.inj h
    simp [Error.OfAnswer]

theorem keepsTo_sendBulk (operation : Operation) (actions : List BulkAction) :
    (ix.sendBulk operation actions).KeepsTo (.ok ()) := by
  intro course
  refine ⟨_, rfl, fun course reply e h => ?_⟩
  dsimp only at h
  split at h
  · cases h
  · obtain rfl := Except.error.inj h
    simp [Error.OfAnswer]

theorem keepsTo_get (item : Json → Except DecodeError α) :
    (ix.get item b).KeepsTo b.validateSearch := by
  intro course
  refine follows_searchRequest fun request course reply e h => ?_
  exact ofAnswer_of_extractSources h

theorem keepsTo_count : (count b).KeepsTo b.validateClauses := by
  intro course
  dsimp only [count]
  exact follows_onCompiled fun query course reply e h => by cases h

theorem keepsTo_aggregate :
    (aggregate b).KeepsTo (Task.checkDirectives b >>= fun _ => b.validateSearch) := by
  intro course
  dsimp only [aggregate, Task.checkDirectives]
  cases b.hasAggregations with
  | false => rfl
  | true =>
    refine follows_searchRequest fun request course reply e h => ?_
    exact ofAnswer_of_fromAggregations h

theorem keepsTo_cursor (item : Json → Except DecodeError α) (size : UInt64)
    (after : Option (List Json)) :
    (ix.cursor item b size after).KeepsTo (ix.checkPage b size >>= fun _ => b.validateSearch) := by
  intro course
  dsimp only [cursor, pageRequest]
  cases ix.checkPage b size with
  | error e => rfl
  | ok u =>
    cases hvalidate : b.validateSearch with
    | error e =>
      rw [Builder.searchRequest_of_validate_eq_error hvalidate]
      rfl
    | ok u =>
      obtain ⟨root, -, hrequest⟩ := Builder.searchRequest_isOk hvalidate
      rw [hrequest]
      refine ⟨_, rfl, fun course reply e h => ?_⟩
      exact ofAnswer_of_extractSources (map_eq_error_iff.mp h)

theorem keepsTo_execute (params : Named Json) :
    (ix.execute b params).KeepsTo (Script.ofParams params >>= fun _ => b.validateClauses) := by
  intro course
  dsimp only [execute]
  cases Script.ofParams params with
  | error e => rfl
  | ok script => exact follows_onCompiled fun query course reply e h => by cases h

theorem keepsTo_destroy : (ix.destroy b).KeepsTo b.validateClauses := by
  intro course
  dsimp only [destroy]
  exact follows_onCompiled fun query course reply e h => by cases h

theorem keepsTo_minMax (field : String) (isDate : Bool) :
    (minMax b field isDate).KeepsTo b.validateClauses := by
  intro course
  dsimp only [minMax]
  refine follows_onCompiled fun query course reply e h => ?_
  exact ofAnswer_of_fromAggregations h

end Index

namespace Task

variable {α : Type} (ix : Index)

theorem operation_plan (t : Task α) : (t.plan ix).operation = t.operation := by
  cases t <;> rfl

theorem keepsTo_check (t : Task α) : (t.plan ix).KeepsTo (t.check ix) := by
  cases t with
  | find item id => exact Index.keepsTo_find item id
  | insert fresh docs => exact ix.keepsTo_sendBulk _ _
  | update docs => exact ix.keepsTo_sendBulk _ _
  | delete ids => exact ix.keepsTo_sendBulk _ _
  | get item b => exact ix.keepsTo_get b item
  | count b => exact Index.keepsTo_count b
  | aggregate b => exact Index.keepsTo_aggregate b
  | cursor item b size after => exact ix.keepsTo_cursor b item size after
  | execute b params => exact ix.keepsTo_execute b params
  | destroy b => exact ix.keepsTo_destroy b
  | minMax b field isDate => exact Index.keepsTo_minMax b field isDate

end Task

/-! ### Runs and their calls -/

/-- An engine that also keeps a record of the calls that it is sent. -/
def Engine.recorded {σ : Type} (engine : Engine σ) : Engine (σ × List (String × Request)) :=
  fun (state, calls) index request =>
    let (state, answer) := engine state index request
    ((state, calls ++ [(index, request)]), answer)

/-- How a run that keeps to a check ends, with the calls that it makes: rejected by the check,
stopped before the call or during it, failed by the engine, or with what is made of the answer. -/
inductive Ends {σ α : Type} (engine : Engine σ) (index : String) (course : Course) (state : σ)
    (operation : Operation) :
    Except ValidationError Unit → List (String × Request) → σ → Except Error α → Prop where
  | rejected (e : ValidationError) :
      Ends engine index course state operation (.error e) [] state (.error (.validation e))
  | stopped : Ends engine index course state operation (.ok ()) [] state (.error .cancelled)
  | interrupted (request : Request) {state' : σ} : course.interrupted = true →
      Ends engine index course state operation (.ok ()) [(index, request)] state'
        (.error .cancelled)
  | failed {request : Request} {state' : σ} {e : EngineError} :
      engine state index request = (state', .error e) →
      Ends engine index course state operation (.ok ()) [(index, request)] state'
        (.error (.engine operation e))
  | answered {request : Request} {state' : σ} {reply : request.Reply} {outcome : Except Error α} :
      engine state index request = (state', .ok reply) →
      (∀ e, outcome = .error e → e.OfAnswer) →
      Ends engine index course state operation (.ok ()) [(index, request)] state' outcome

theorem Plan.KeepsTo.ends {σ α : Type} {plan : Plan α} {check : Except ValidationError Unit}
    (h : plan.KeepsTo check) (engine : Engine σ) (index : String) (course : Course) (state : σ) :
    ∃ calls state' outcome,
      plan.run engine index course state = (state', outcome) ∧
      plan.run engine.recorded index course (state, []) = ((state', calls), outcome) ∧
      Ends engine index course state plan.operation check calls state' outcome := by
  have hfollows := h course
  -- the recorded run takes the same way as the other, through the same `run_of_` lemma
  cases check with
  | error e =>
    have hprepare : plan.prepare course = .error (.validation e) := hfollows
    exact ⟨[], state, _, run_of_rejected hprepare, run_of_rejected hprepare, .rejected e⟩
  | ok u =>
    obtain ⟨exchange, hprepare, hreads⟩ := hfollows
    cases hfired : course.fired 0 with
    | true =>
      exact ⟨[], state, _, run_of_fired hprepare hfired, run_of_fired hprepare hfired, .stopped⟩
    | false =>
      cases hanswer : engine state index exchange.request with
      | mk state' answer =>
        have hrecorded : engine.recorded (state, []) index exchange.request =
            ((state', [(index, exchange.request)]), answer) := by
          simp only [Engine.recorded, hanswer, List.nil_append]
        refine ⟨[(index, exchange.request)], state', ?_⟩
        cases hinterrupted : course.interrupted with
        | true =>
          exact ⟨_, run_of_interrupted hprepare hfired hinterrupted hanswer,
            run_of_interrupted hprepare hfired hinterrupted hrecorded,
            .interrupted exchange.request hinterrupted⟩
        | false =>
          cases answer with
          | error e =>
            exact ⟨_, run_of_failed hprepare hfired hinterrupted hanswer,
              run_of_failed hprepare hfired hinterrupted hrecorded, .failed hanswer⟩
          | ok reply =>
            exact ⟨_, run_of_answered hprepare hfired hinterrupted hanswer,
              run_of_answered hprepare hfired hinterrupted hrecorded,
              .answered hanswer fun e => hreads course reply e⟩

namespace Index

/-- **What is rejected is never sent, and what is sent is sent once.** For every operation with any
arguments, index, engine and course of the run: the engine is called at most once. Where the check
of the operation fails, the outcome is its failure, the engine is not called and its state stays as
it is; and a failure of a check is the outcome only there. An outcome other than that and than
being cancelled comes after exactly one call. A failure of the engine comes back as it is with the
name of the operation, unless the token fires before it is there, and nothing else comes back as a
failure of the engine. -/
theorem run_calls_once {σ α : Type} (ix : Index) (t : Task α) (engine : Engine σ) (course : Course)
    (state : σ) :
    ∃ calls state' outcome,
      (t.plan ix).run engine ix.name course state = (state', outcome) ∧
      (t.plan ix).run engine.recorded ix.name course (state, []) = ((state', calls), outcome) ∧
      calls.length ≤ 1 ∧
      (∀ e, t.check ix = .error e →
        outcome = .error (.validation e) ∧ calls = [] ∧ state' = state) ∧
      (∀ e, outcome = .error (.validation e) → calls = [] ∧ t.check ix = .error e) ∧
      ((∀ e, outcome ≠ .error (.validation e)) → outcome ≠ .error .cancelled →
        calls.length = 1) ∧
      (∀ request e, calls = [(ix.name, request)] → course.interrupted = false →
        (engine state ix.name request).2 = .error e →
          outcome = .error (.engine t.operation e)) ∧
      ∀ operation e, outcome = .error (.engine operation e) →
        operation = t.operation ∧ ∃ request, calls = [(ix.name, request)] ∧
          (engine state ix.name request).2 = .error e := by
  obtain ⟨calls, state', outcome, hrun, hrecorded, hends⟩ :=
    (t.keepsTo_check ix).ends engine ix.name course state
  refine ⟨calls, state', outcome, hrun, hrecorded, ?_⟩
  rw [t.operation_plan ix] at hends
  generalize t.check ix = check at hends ⊢
  cases hends with
  | rejected e =>
    refine ⟨by simp, ?_, ?_, ?_, by simp, by simp⟩
    · intro e' h
      obtain rfl := Except.error.inj h
      exact ⟨rfl, rfl, rfl⟩
    · intro e' h
      obtain rfl := Error.validation.inj (Except.error.inj h)
      exact ⟨rfl, rfl⟩
    · intro hnot
      exact absurd rfl (hnot e)
  | stopped => simp
  | interrupted request h => simp [h]
  | @failed request _ e h =>
    refine ⟨by simp, by simp, by simp, by simp, ?_, ?_⟩
    · intro request' e' hcalls _ hanswer
      obtain rfl : request = request' := by simpa using hcalls
      rw [h] at hanswer
      obtain rfl := Except.error.inj hanswer
      rfl
    · intro operation e' houtcome
      obtain ⟨rfl, rfl⟩ := Error.engine.inj (Except.error.inj houtcome)
      exact ⟨rfl, request, rfl, by rw [h]⟩
  | @answered request _ reply _ h hreads =>
    refine ⟨by simp, by simp, ?_, by simp, ?_, ?_⟩
    · intro e houtcome
      exact absurd rfl ((hreads _ houtcome).1 e)
    · intro request' e hcalls _ hanswer
      obtain rfl : request = request' := by simpa using hcalls
      rw [h] at hanswer
      cases hanswer
    · intro operation e houtcome
      exact absurd rfl ((hreads _ houtcome).2 operation e)

end Index

end DocSearch
