import DocSearch.Proofs.Chunks
import DocSearch.Proofs.RoundTrips

/-!
# Cancellation

A token fires at a moment of a run of operations and stays fired. An operation that looks at it for
the first time after that makes no call. One that is in its call then has its answer if the call
does not wait again, and whether the token counts for it depends on what is made of the answer:
documents of hits are waited for under a look at the token, and nothing else is.
-/

namespace DocSearch

/-! ### What is made of an answer -/

section Exchanges

variable {α : Type}

/-- What is made of an answer does not depend on the course of the run. -/
def Exchange.Steady (exchange : Exchange α) : Prop :=
  ∀ course course' reply, exchange.finish course reply = exchange.finish course' reply

/-- Every answer comes to nothing if the token has fired at the first look after the call. -/
def Exchange.Watchful (exchange : Exchange α) : Prop :=
  ∀ course reply, course.fired (course.waits + 1) = true →
    exchange.finish course reply = .error .cancelled

theorem extractSources_of_fired_at_first {course : Course} {look batch : Nat}
    {item : Json → Except DecodeError α} {hits : List Hit} (h : course.fired look = true) :
    extractSources course look batch item hits = .error .cancelled := by
  have hlook : ∃ i ≤ (course.chunks (chunkRanges hits.length batch).length).length,
      course.fired (look + (0 + i)) = true := ⟨0, Nat.zero_le _, h⟩
  rw [extractSources, process, coordinate_of_fired 0 _ _ hlook]
  rfl

theorem steady_of_onCompiled {b : Builder} {course : Course} {exchange : Query → Exchange α}
    (hsteady : ∀ query, (exchange query).Steady) {compiled : Exchange α}
    (h : onCompiled b course exchange = .ok compiled) : compiled.Steady := by
  unfold onCompiled at h
  split at h
  · cases h
  · obtain rfl := Except.ok.inj h
    exact hsteady _

end Exchanges

/-- In every course what is made of an answer does not depend on the course. -/
def Plan.Steady {α : Type} (plan : Plan α) : Prop :=
  ∀ course exchange, plan.prepare course = .ok exchange → exchange.Steady

/-- In every course the token is looked at once more after the call. -/
def Plan.Watchful {α : Type} (plan : Plan α) : Prop :=
  ∀ course exchange, plan.prepare course = .ok exchange → exchange.Watchful

namespace Index

variable {α : Type} (ix : Index) (b : Builder)

theorem steady_find (item : Json → Except DecodeError α) (id : String) : (find item id).Steady := by
  intro course exchange h
  obtain rfl := Except.ok.inj h
  exact fun _ _ _ => rfl

theorem steady_sendBulk (operation : Operation) (actions : List BulkAction) :
    (ix.sendBulk operation actions).Steady := by
  intro course exchange h
  obtain rfl := Except.ok.inj h
  exact fun _ _ _ => rfl

theorem watchful_get (item : Json → Except DecodeError α) : (ix.get item b).Watchful := by
  intro course exchange h
  dsimp only [get] at h
  split at h
  · cases h
  · obtain rfl := Except.ok.inj h
    exact fun _ _ => extractSources_of_fired_at_first

theorem steady_count : (count b).Steady := by
  intro course exchange h
  dsimp only [count] at h
  exact steady_of_onCompiled (fun _ _ _ _ => rfl) h

theorem steady_aggregate : (aggregate b).Steady := by
  intro course exchange h
  dsimp only [aggregate] at h
  split at h
  · cases h
  · split at h
    · cases h
    · obtain rfl := Except.ok.inj h
      exact fun _ _ _ => rfl

theorem watchful_cursor (item : Json → Except DecodeError α) (size : UInt64)
    (after : Option (List Json)) : (ix.cursor item b size after).Watchful := by
  intro course exchange h
  dsimp only [cursor] at h
  split at h
  · cases h
  · split at h
    · cases h
    · obtain rfl := Except.ok.inj h
      intro course reply hfired
      dsimp only
      rw [extractSources_of_fired_at_first hfired]
      rfl

theorem steady_execute (params : Named Json) : (ix.execute b params).Steady := by
  intro course exchange h
  dsimp only [execute] at h
  split at h
  · cases h
  · exact steady_of_onCompiled (fun _ _ _ _ => rfl) h

theorem steady_destroy : (ix.destroy b).Steady := by
  intro course exchange h
  dsimp only [destroy] at h
  exact steady_of_onCompiled (fun _ _ _ _ => rfl) h

theorem steady_minMax (field : String) (isDate : Bool) : (minMax b field isDate).Steady := by
  intro course exchange h
  dsimp only [minMax] at h
  exact steady_of_onCompiled (fun _ _ _ _ => rfl) h

end Index

namespace Task

variable {α : Type} (ix : Index)

/-- Whether an operation decodes the documents of hits. -/
def readsHits : Task α → Bool
  | .get _ _ | .cursor _ _ _ _ => true
  | _ => false

theorem steady_of_readsHits_eq_false {t : Task α} (h : t.readsHits = false) :
    (t.plan ix).Steady := by
  cases t with
  | find item id => exact Index.steady_find item id
  | insert fresh docs => exact ix.steady_sendBulk _ _
  | update docs => exact ix.steady_sendBulk _ _
  | delete ids => exact ix.steady_sendBulk _ _
  | get item b => cases h
  | count b => exact Index.steady_count b
  | aggregate b => exact Index.steady_aggregate b
  | cursor item b size after => cases h
  | execute b params => exact ix.steady_execute b params
  | destroy b => exact ix.steady_destroy b
  | minMax b field isDate => exact Index.steady_minMax b field isDate

theorem watchful_of_readsHits {t : Task α} (h : t.readsHits = true) : (t.plan ix).Watchful := by
  cases t with
  | get item b => exact ix.watchful_get b item
  | cursor item b size after => exact ix.watchful_cursor b item size after
  | _ => cases h

/-- Of the course the request depends on the order of the families alone. -/
theorem prepare_congr {t : Task α} {course course' : Course}
    (h : course.families = course'.families) :
    (t.plan ix).prepare course = (t.plan ix).prepare course' := by
  obtain ⟨families, _, _, _⟩ := course
  obtain ⟨families', _, _, _⟩ := course'
  obtain rfl : families = families' := h
  cases t <;> rfl

end Task

/-! ### Runs of plans -/

namespace Plan

variable {σ α : Type} {plan : Plan α} {engine : Engine σ} {index : String} {course : Course}
  {state : σ}

/-- What a plan makes of the answer of the engine. -/
def settle (plan : Plan α) (exchange : Exchange α) (course : Course) :
    Except EngineError exchange.request.Reply → Except Error α
  | .error e => .error (.engine plan.operation e)
  | .ok reply => exchange.finish course reply

theorem run_of_called {exchange : Exchange α} (h : plan.prepare course = .ok exchange)
    (hfired : course.fired 0 = false) (hinterrupted : course.interrupted = false) :
    plan.run engine index course state = ((engine state index exchange.request).1,
      plan.settle exchange course (engine state index exchange.request).2) := by
  cases hanswer : engine state index exchange.request with
  | mk state' answer =>
    cases answer with
    | error e => exact run_of_failed h hfired hinterrupted hanswer
    | ok reply => exact run_of_answered h hfired hinterrupted hanswer

theorem settle_eq_of_steady {exchange : Exchange α} (h : exchange.Steady) (course course' : Course)
    (answer : Except EngineError exchange.request.Reply) :
    plan.settle exchange course answer = plan.settle exchange course' answer := by
  cases answer with
  | error e => rfl
  | ok reply => exact h course course' reply

theorem KeepsTo.run_of_rejected {e : ValidationError} (h : plan.KeepsTo (.error e)) :
    plan.run engine index course state = (state, .error (.validation e)) :=
  Plan.run_of_rejected (h course)

theorem KeepsTo.run_ne_validation (h : plan.KeepsTo (.ok ())) (e : ValidationError) :
    (plan.run engine index course state).2 ≠ .error (.validation e) := by
  obtain ⟨calls, state', outcome, hrun, -, hends⟩ := h.ends engine index course state
  rw [hrun]
  cases hends with
  | stopped => simp
  | interrupted request h => simp
  | failed h => simp
  | answered h hreads => exact fun houtcome => (hreads _ houtcome).1 e rfl

end Plan

/-! ### Operations under a token -/

/-- An operation in a run, with the moments at which it starts and looks at the token. -/
structure Turn where
  Doc : Type
  task : Task Doc
  families : List FamilyKind := FamilyKind.all
  chunks : Nat → List Nat := List.range
  waits : Nat := 0
  start : Nat
  looks : Nat → Nat
  start_le : start ≤ looks 0
  looks_le : ∀ {i j : Nat}, i ≤ j → looks i ≤ looks j

namespace Turn

/-- The course of an operation under a token that fires at a moment, or never. -/
def course (turn : Turn) (token : Option Nat) : Course where
  families := turn.families
  chunks := turn.chunks
  waits := turn.waits
  fired look := token.any fun moment => decide (moment ≤ turn.looks look)

section Runs

variable {σ : Type} (turn : Turn) (ix : Index) (engine : Engine σ) (token : Option Nat) (state : σ)

def run : σ × Except Error turn.task.Result :=
  (turn.task.plan ix).run engine ix.name (turn.course token) state

/-- The calls of the engine that an operation makes. -/
def calls : List (String × Request) :=
  ((turn.task.plan ix).run engine.recorded ix.name (turn.course token) (state, [])).1.2

/-- An operation calls nothing, changes nothing and fails: as a check of its own fails it without
the token, or else because it is cancelled. -/
structure Refused (moment : Nat) : Prop where
  uncalled : turn.calls ix engine (some moment) state = []
  unchanged : (turn.run ix engine (some moment) state).1 = state
  fails : ∀ result, (turn.run ix engine (some moment) state).2 ≠ .ok result
  rejected : ∀ e, (turn.run ix engine none state).2 = .error (.validation e) →
    (turn.run ix engine (some moment) state).2 = .error (.validation e)
  cancelled : (∀ e, (turn.run ix engine none state).2 ≠ .error (.validation e)) →
    (turn.run ix engine (some moment) state).2 = .error .cancelled

/-- The token fires after the last look during the call, and before the next one. -/
def FiresInCall (moment : Nat) : Prop :=
  turn.looks turn.waits < moment ∧ moment ≤ turn.looks (turn.waits + 1)

/-- An operation makes its call as without the token. A failure of the engine comes back; of an
answer documents of hits are not decoded, and all else is made of it as without the token. -/
structure CutShort (moment : Nat) : Prop where
  calls_eq : turn.calls ix engine (some moment) state = turn.calls ix engine none state
  state_eq : (turn.run ix engine (some moment) state).1 = (turn.run ix engine none state).1
  rejected : ∀ e, turn.task.check ix = .error e →
    (turn.run ix engine (some moment) state).2 = .error (.validation e)
  called : turn.task.check ix = .ok () → ∃ request,
    turn.calls ix engine (some moment) state = [(ix.name, request)] ∧
    (∀ e, (engine state ix.name request).2 = .error e →
      (turn.run ix engine (some moment) state).2 = .error (.engine turn.task.operation e)) ∧
    ∀ reply, (engine state ix.name request).2 = .ok reply → turn.task.readsHits = true →
      (turn.run ix engine (some moment) state).2 = .error .cancelled
  others : turn.task.readsHits = false →
    (turn.run ix engine (some moment) state).2 = (turn.run ix engine none state).2

end Runs

section Steps

variable {σ : Type} {turn : Turn} {ix : Index} {moment : Nat} (engine : Engine σ)
  (token : Option Nat) (state : σ)

theorem run_of_check_error {e : ValidationError} (h : turn.task.check ix = .error e) :
    turn.run ix engine token state = (state, .error (.validation e)) ∧
      turn.calls ix engine token state = [] := by
  have hkeeps := turn.task.keepsTo_check ix
  rw [h] at hkeeps
  refine ⟨hkeeps.run_of_rejected, ?_⟩
  rw [calls, hkeeps.run_of_rejected]

theorem run_of_fired (h : turn.task.check ix = .ok ())
    (hfired : (turn.course token).fired 0 = true) :
    turn.run ix engine token state = (state, .error .cancelled) ∧
      turn.calls ix engine token state = [] := by
  have hkeeps := turn.task.keepsTo_check ix
  rw [h] at hkeeps
  obtain ⟨exchange, hprepare, -⟩ := hkeeps (turn.course token)
  refine ⟨Plan.run_of_fired hprepare hfired, ?_⟩
  rw [calls, Plan.run_of_fired hprepare hfired]

/-- What passes its check has one call to make, whatever the token does. -/
theorem exists_call (h : turn.task.check ix = .ok ()) : ∃ exchange,
    (turn.task.plan ix).prepare (turn.course none) = .ok exchange ∧
    ∀ token, (turn.course token).fired 0 = false → (turn.course token).interrupted = false →
      turn.run ix engine token state = ((engine state ix.name exchange.request).1,
        (turn.task.plan ix).settle exchange (turn.course token)
          (engine state ix.name exchange.request).2) ∧
      turn.calls ix engine token state = [(ix.name, exchange.request)] := by
  have hkeeps := turn.task.keepsTo_check ix
  rw [h] at hkeeps
  obtain ⟨exchange, hprepare, -⟩ := hkeeps (turn.course none)
  refine ⟨exchange, hprepare, fun token hfired hinterrupted => ?_⟩
  have hsame : (turn.task.plan ix).prepare (turn.course token) = .ok exchange := by
    rw [← hprepare]
    exact Task.prepare_congr ix rfl
  refine ⟨Plan.run_of_called hsame hfired hinterrupted, ?_⟩
  rw [calls, Plan.run_of_called hsame hfired hinterrupted]
  rfl

theorem refused_of_le (h : moment ≤ turn.start) : turn.Refused ix engine state moment := by
  cases hcheck : turn.task.check ix with
  | error e =>
    obtain ⟨hrun, hcalls⟩ := run_of_check_error engine (some moment) state hcheck
    obtain ⟨hfree, -⟩ := run_of_check_error engine none state hcheck
    exact {
      uncalled := hcalls
      unchanged := by rw [hrun]
      fails := by simp [hrun]
      rejected := by simp [hrun, hfree]
      cancelled := fun hnot => absurd (congrArg Prod.snd hfree) (hnot e) }
  | ok u =>
    have hfired : (turn.course (some moment)).fired 0 = true :=
      decide_eq_true (Nat.le_trans h turn.start_le)
    obtain ⟨hrun, hcalls⟩ := run_of_fired engine (some moment) state hcheck hfired
    have hkeeps := turn.task.keepsTo_check ix
    rw [hcheck] at hkeeps
    exact {
      uncalled := hcalls
      unchanged := by rw [hrun]
      fails := by simp [hrun]
      rejected := fun e he => absurd he (hkeeps.run_ne_validation e)
      cancelled := fun _ => by rw [hrun] }

theorem fired_eq_false_of_lt (h : turn.looks turn.waits < moment) {look : Nat}
    (hlook : look ≤ turn.waits) : (turn.course (some moment)).fired look = false := by
  have hle := turn.looks_le hlook
  have hlater : ¬ moment ≤ turn.looks look := by omega
  exact decide_eq_false hlater

theorem interrupted_eq_false_of_lt (h : turn.looks turn.waits < moment) :
    (turn.course (some moment)).interrupted = false := by
  rw [Course.interrupted, List.any_eq_false]
  intro wait hwait
  rw [fired_eq_false_of_lt h (List.mem_range.mp hwait)]
  exact Bool.false_ne_true

theorem cutShort_of_firesInCall (h : turn.FiresInCall moment) :
    turn.CutShort ix engine state moment := by
  -- every look during the call is too early, and the first one after it is late enough
  obtain ⟨hduring, hafter⟩ := h
  cases hcheck : turn.task.check ix with
  | error e =>
    obtain ⟨hrun, hcalls⟩ := run_of_check_error engine (some moment) state hcheck
    obtain ⟨hfree, hfreeCalls⟩ := run_of_check_error engine none state hcheck
    exact {
      calls_eq := hcalls.trans hfreeCalls.symm
      state_eq := by rw [hrun, hfree]
      rejected := fun e' he => by rw [(run_of_check_error engine (some moment) state he).1]
      called := by simp [hcheck]
      others := by simp [hrun, hfree] }
  | ok u =>
    obtain ⟨exchange, hprepare, hcall⟩ := exists_call engine state hcheck
    obtain ⟨hrun, hcalls⟩ := hcall (some moment) (fired_eq_false_of_lt hduring (Nat.zero_le _))
      (interrupted_eq_false_of_lt hduring)
    obtain ⟨hfree, hfreeCalls⟩ := hcall none rfl (Course.interrupted_eq_false fun _ => rfl)
    exact {
      calls_eq := hcalls.trans hfreeCalls.symm
      state_eq := by rw [hrun, hfree]
      rejected := by simp [hcheck]
      called := fun _ => by
        refine ⟨exchange.request, hcalls, ?_, ?_⟩
        · intro e he
          rw [hrun, he, ← Task.operation_plan ix turn.task]
          rfl
        · intro reply hreply hreads
          have hwatchful := Task.watchful_of_readsHits ix hreads _ _ hprepare
          rw [hrun, hreply]
          exact hwatchful _ reply (decide_eq_true hafter)
      others := fun hreads => by
        have hsteady := Task.steady_of_readsHits_eq_false ix hreads _ _ hprepare
        rw [hrun, hfree]
        exact Plan.settle_eq_of_steady hsteady _ _ _ }

end Steps

end Turn

/-! ### Runs of operations -/

namespace Index

section Runs

variable {σ : Type} (ix : Index) (engine : Engine σ) (token : Option Nat)

/-- The operations of a run, each with the state in which it finds the engine. -/
def visits : List Turn → σ → List (Turn × σ)
  | [], _ => []
  | turn :: turns, state => (turn, state) :: visits turns (turn.run ix engine token state).1

def stateAfter : List Turn → σ → σ
  | [], state => state
  | turn :: turns, state => stateAfter turns (turn.run ix engine token state).1

def callsOf (visits : List (Turn × σ)) : List (String × Request) :=
  visits.flatMap fun visit => visit.1.calls ix engine token visit.2

variable {ix engine token} {turns earlier later : List Turn} {state : σ}

theorem visits_append : ix.visits engine token (earlier ++ later) state =
    ix.visits engine token earlier state ++
      ix.visits engine token later (ix.stateAfter engine token earlier state) := by
  induction earlier generalizing state with
  | nil => rfl
  | cons turn earlier ih => rw [List.cons_append, visits, ih]; rfl

theorem stateAfter_append : ix.stateAfter engine token (earlier ++ later) state =
    ix.stateAfter engine token later (ix.stateAfter engine token earlier state) := by
  induction earlier generalizing state with
  | nil => rfl
  | cons turn earlier ih => exact ih

theorem callsOf_append (front back : List (Turn × σ)) : ix.callsOf engine token (front ++ back) =
    ix.callsOf engine token front ++ ix.callsOf engine token back :=
  List.flatMap_append

theorem stateAfter_of_refused {moment : Nat} (h : ∀ turn ∈ turns, moment ≤ turn.start) :
    ix.stateAfter engine (some moment) turns state = state ∧
      ix.callsOf engine (some moment) (ix.visits engine (some moment) turns state) = [] := by
  induction turns with
  | nil => exact ⟨rfl, rfl⟩
  | cons turn turns ih =>
    obtain ⟨hturn, hturns⟩ := List.forall_mem_cons.mp h
    have hrefused : turn.Refused ix engine state moment := Turn.refused_of_le engine state hturn
    obtain ⟨hstate, hcalls⟩ := ih hturns
    rw [stateAfter, visits, callsOf, List.flatMap_cons, hrefused.unchanged, hrefused.uncalled]
    exact ⟨hstate, hcalls⟩

end Runs

/-- **Cancellation is final.** For every run of operations on an index with any engine and every
moment at which the token fires: an operation that starts after the moment makes no call and has no
result, but the failure of its check that it has without the token, or else it is cancelled; so
whatever starts after the moment leaves no trace in the engine. If the token fires during a call
that does not wait again, the call is made as without the token. Then an operation that reads the
documents of hits is cancelled after every answer, also one without hits, every other operation ends
as without the token, and a failure of the engine comes back as it is. -/
theorem cancellation_is_final {σ : Type} (ix : Index) (engine : Engine σ) (moment : Nat)
    (turns : List Turn) (state : σ) :
    (∀ visit ∈ ix.visits engine (some moment) turns state,
      (moment ≤ visit.1.start → visit.1.Refused ix engine visit.2 moment) ∧
      (visit.1.FiresInCall moment → visit.1.CutShort ix engine visit.2 moment)) ∧
    ∀ earlier later, turns = earlier ++ later → (∀ turn ∈ later, moment ≤ turn.start) →
      ix.stateAfter engine (some moment) turns state =
        ix.stateAfter engine (some moment) earlier state ∧
      ix.callsOf engine (some moment) (ix.visits engine (some moment) turns state) =
        ix.callsOf engine (some moment) (ix.visits engine (some moment) earlier state) := by
  constructor
  · intro visit _
    exact ⟨Turn.refused_of_le engine visit.2, Turn.cutShort_of_firesInCall engine visit.2⟩
  · rintro earlier later rfl hlater
    obtain ⟨hstate, hcalls⟩ := stateAfter_of_refused hlater
    rw [stateAfter_append, visits_append, callsOf_append, hcalls, List.append_nil]
    exact ⟨hstate, rfl⟩

/-- A fetch that starts at once and looks at the token at every moment. -/
def fetching : Turn where
  Doc := Json
  task := .get (fun j => .ok j) {}
  start := 0
  looks look := look
  start_le := Nat.le_refl 0
  looks_le := id

/-- A count that starts at the second moment. -/
def counting : Turn where
  Doc := Json
  task := .count {}
  start := 2
  looks look := look + 2
  start_le := Nat.le_refl 2
  looks_le h := Nat.add_le_add_right h 2

/-- The token fires in the call of the fetch. It is cancelled although there are no hits, and the
count after it is never sent. -/
theorem cancellation_is_final_in_fetch :
    (fetching.run { name := "i" } Corpus.engine (some 1) {}).2 = .error .cancelled ∧
      fetching.calls { name := "i" } Corpus.engine (some 1) {} =
        [("i", .search { query := .bool {} })] ∧
      (counting.run { name := "i" } Corpus.engine (some 1) { calls := 1 }).2 = .error .cancelled ∧
      counting.calls { name := "i" } Corpus.engine (some 1) { calls := 1 } = [] := by
  obtain ⟨hvisits, -⟩ :=
    cancellation_is_final { name := "i" } Corpus.engine 1 [fetching, counting] {}
  have hfetching := (hvisits (fetching, {}) List.mem_cons_self).2 ⟨Nat.zero_lt_one, Nat.le_refl 1⟩
  have hcounting := (hvisits (counting, { calls := 1 })
    (List.mem_cons_of_mem _ List.mem_cons_self)).1 (Nat.le_succ 1)
  obtain ⟨request, hcalls, -, hanswered⟩ := hfetching.called rfl
  have hsent : fetching.calls { name := "i" } Corpus.engine (some 1) {} =
      [("i", .search { query := .bool {} })] := rfl
  obtain rfl : request = .search { query := .bool {} } := by simpa [hsent, eq_comm] using hcalls
  have hcounted : (counting.run { name := "i" } Corpus.engine none { calls := 1 }).2 =
      Except.ok (0 : UInt64) := rfl
  have hpasses : ∀ e, (counting.run { name := "i" } Corpus.engine none { calls := 1 }).2 ≠
      .error (.validation e) := by
    intro e he
    cases hcounted.symm.trans he
  exact ⟨hanswered _ rfl rfl, hsent, hcounting.cancelled hpasses, hcounting.uncalled⟩

end Index

end DocSearch
