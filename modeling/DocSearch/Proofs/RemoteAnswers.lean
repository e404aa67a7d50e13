import DocSearch.Proofs.Addresses
import DocSearch.Proofs.Answers
import DocSearch.Proofs.Cancellation
import DocSearch.Proofs.Outlines
import DocSearch.Proofs.Scan

/-!
# Answers over a network

An answer is a status and a text. On its way to the result of an operation it passes the client,
which reads the text, the engine, which names the failures of the client, and the operation, which
takes what it needs out of what was read. A text that holds a data value is read as that value is,
although the client looks only at the part of it that is asked for. Each operation waits for one
kind of answer; what it needs of one and which failure it is to lack that is said for each, and
holds of what its plan makes of an answer, whatever call the plan has come to.
-/

namespace DocSearch

namespace Task

variable {α : Type}

/-! ### What an operation needs of an answer -/

/-- What an operation waits for. -/
def Reply : Task α → Type
  | .find _ _ => GetResponse
  | .insert _ _ | .update _ | .delete _ => WriteResponse
  | .count _ => UInt64
  | .get _ _ | .aggregate _ | .cursor _ _ _ _ | .minMax _ _ _ => SearchResponse
  | .execute _ _ | .destroy _ => WriteByQueryResponse

def decodeReply : (t : Task α) → Json → Except DecodeError t.Reply
  | .find _ _ => GetResponse.decode
  | .insert _ _ | .update _ | .delete _ => WriteResponse.decode
  | .count _ => decodeCount
  | .get _ _ | .aggregate _ | .cursor _ _ _ _ | .minMax _ _ _ => SearchResponse.decode
  | .execute _ _ | .destroy _ => WriteByQueryResponse.decode

def asked : Task α → Json.Asked
  | .find _ _ => GetResponse.asked
  | .insert _ _ | .update _ | .delete _ => WriteResponse.asked
  | .count _ => countAsked
  | .get _ _ | .aggregate _ | .cursor _ _ _ _ | .minMax _ _ _ => SearchResponse.asked
  | .execute _ _ | .destroy _ => WriteByQueryResponse.asked

/-- What an operation waits for, if a body can be read as that. -/
def readReply (t : Task α) : String → Option t.Reply := Http.readBody t.asked t.decodeReply

/-- Documents are taken as they are. -/
def Raw : Task Json → Prop
  | .find item _ | .get item _ | .cursor item _ _ _ => item = Decode.any
  | _ => True

end Task

/-- A bound stands in an answer under its name: a number, or the text of a date. -/
def BoundAt (isDate : Bool) (raw : Named Json) (name : String) (value : Json) : Prop :=
  ∃ a, List.lookup name raw = some a ∧
    a.get? (if isDate then "value_as_string" else "value") = some value ∧ value ≠ .null

namespace Task

/-- An answer has all that an operation needs of it: a document, an outcome for every write, or the
aggregations or bounds that were asked for. -/
def Sufficient : (t : Task Json) → t.Reply → Prop
  | .find _ _, (g : GetResponse) => g.found = true ∧ g.source ≠ none
  | .insert _ docs, (w : WriteResponse) | .update docs, (w : WriteResponse) =>
    w.items.length = docs.length
  | .delete ids, (w : WriteResponse) => w.items.length = ids.length
  | .aggregate b, (s : SearchResponse) =>
    ∃ raw, s.aggregations = some raw ∧ Aggregation.AllConform b.aggregations raw
  | .minMax _ _ isDate, (s : SearchResponse) =>
    ∃ raw, s.aggregations = some raw ∧
      (∃ least, BoundAt isDate raw "min" least) ∧ ∃ greatest, BoundAt isDate raw "max" greatest
  | .get _ _, _ | .count _, _ | .cursor _ _ _ _, _ | .execute _ _, _ | .destroy _, _ => True

/-- The result that an answer with all that is needed stands for. -/
def Gives : (t : Task Json) → t.Reply → t.Result → Prop
  | .find _ _, (g : GetResponse), doc => g.source = some doc
  | .insert _ _, w, result | .update _, w, result | .delete _, w, result => result = w
  | .get _ _, (s : SearchResponse), docs => docs = s.hits.hits.map (·.source)
  | .count _, n, result => result = n
  | .aggregate b, (s : SearchResponse), out =>
    ∃ raw, s.aggregations = some raw ∧
      AggregateOutput.Mirrors out b.stats raw (b.groupBy.getD [])
  | .cursor _ _ _ _, (s : SearchResponse), page =>
    page = (⟨s.hits.hits.map (·.source), Index.lastPlace s.hits.hits⟩ : CursorPage Json)
  | .execute _ _, w, result | .destroy _, w, result => result = w
  | .minMax _ _ isDate, (s : SearchResponse), (bounds : Bounds) =>
    ∃ raw, s.aggregations = some raw ∧ BoundAt isDate raw "min" bounds.min ∧
      BoundAt isDate raw "max" bounds.max

/-- The failure of an operation whose answer lacks something. -/
def Lacking : (t : Task Json) → t.Reply → Error → Prop
  | .find _ id, _, e => e = .notFound id
  | .insert _ docs, (w : WriteResponse), e | .update docs, (w : WriteResponse), e =>
    e = .countMismatch docs.length w.items.length
  | .delete ids, (w : WriteResponse), e => e = .countMismatch ids.length w.items.length
  | .aggregate _, _, e | .minMax _ _ _, _, e => ∃ cause, e = .extraction cause
  | .get _ _, _, _ | .count _, _, _ | .cursor _ _ _ _, _, _ | .execute _ _, _, _
  | .destroy _, _, _ => False

/-- An outcome is what an operation makes of an answer. -/
structure MadeOf (t : Task Json) (reply : t.Reply) (outcome : Except Error t.Result) : Prop where
  succeeds : t.Sufficient reply → ∃ result, outcome = .ok result ∧ t.Gives reply result
  fails : ¬ t.Sufficient reply → ∃ e, outcome = .error e ∧ t.Lacking reply e

end Task

/-! ### What is made of an answer -/

section Extraction

variable {α : Type} {read : Named Json → Except ExtractionError α} {reply : SearchResponse}
  {isDate : Bool} {raw : Named Json} {name : String}

theorem fromAggregations_of_ok {a : α} (haggs : reply.aggregations = some raw)
    (hread : read raw = .ok a) : Index.fromAggregations read reply = .ok a := by
  rw [Index.fromAggregations, haggs]
  exact mapError_eq_ok_iff.mpr hread

/-- Where nothing can be read out of an answer, that is a failure to extract something from it. -/
theorem fromAggregations_of_not_ok
    (hnot : ¬ ∃ raw, reply.aggregations = some raw ∧ ∃ a, read raw = .ok a) :
    ∃ cause, Index.fromAggregations read reply = .error (.extraction cause) := by
  rw [Index.fromAggregations]
  cases haggs : reply.aggregations with
  | none => exact ⟨.noAggregations, rfl⟩
  | some raw =>
    cases hread : read raw with
    | error cause => exact ⟨cause, mapError_eq_error_iff.mpr ⟨cause, hread, rfl⟩⟩
    | ok a => exact absurd ⟨raw, haggs, a, hread⟩ hnot

namespace Flatten

theorem bound_eq_ok_iff {value : Json} :
    bound isDate raw name = .ok value ↔ BoundAt isDate raw name value := by
  unfold bound BoundAt
  cases List.lookup name raw with
  | none => simp
  | some a =>
    cases hvalue : a.get? (if isDate then "value_as_string" else "value") with
    | none => simp [hvalue]
    | some found =>
      cases found <;> simp +contextual [hvalue, eq_comm]

theorem bounds_eq_ok_iff {b : Bounds} : bounds isDate raw = .ok b ↔
    BoundAt isDate raw "min" b.min ∧ BoundAt isDate raw "max" b.max := by
  rw [bounds, bind_eq_ok_iff, ← bound_eq_ok_iff, ← bound_eq_ok_iff]
  constructor
  · rintro ⟨least, hmin, h⟩
    obtain ⟨greatest, hmax, h⟩ := bind_eq_ok_iff.mp h
    obtain rfl := pure_eq_ok_iff.mp h
    exact ⟨hmin, hmax⟩
  · rintro ⟨hmin, hmax⟩
    exact ⟨_, hmin, bind_eq_ok_iff.mpr ⟨_, hmax, rfl⟩⟩

end Flatten

end Extraction

namespace Task

theorem madeOf_find (id : String) (g : GetResponse) :
    (find Decode.any id).MadeOf g (
      match g.found, g.source with
      | true, some source => (Decode.any source).mapError .json
      | _, _ => .error (.notFound id)) := by
  obtain ⟨index, own, found, source⟩ := g
  cases found with
  | false => exact ⟨fun h => (by cases h.1), fun _ => ⟨_, rfl, rfl⟩⟩
  | true =>
    cases source with
    | none => exact ⟨fun h => absurd rfl h.2, fun _ => ⟨_, rfl, rfl⟩⟩
    | some doc => exact ⟨fun _ => ⟨doc, rfl, rfl⟩, fun h => absurd ⟨rfl, by simp⟩ h⟩

theorem madeOf_aggregate (b : Builder) (s : SearchResponse) :
    (aggregate b).MadeOf s (
      Index.fromAggregations (Flatten.output (b.groupBy.getD []) b.stats) s) := by
  refine ⟨fun ⟨raw, haggs, hconforms⟩ => ?_, fun hnot => ?_⟩
  · rw [b.aggregations_eq_chain] at hconforms
    obtain ⟨out, hout⟩ := Flatten.output_isOk_iff.mpr hconforms
    exact ⟨out, fromAggregations_of_ok haggs hout, raw, haggs, Flatten.mirrors_of_output hout⟩
  · obtain ⟨cause, hfailed⟩ := fromAggregations_of_not_ok fun ⟨raw, haggs, hread⟩ =>
      hnot ⟨raw, haggs, b.aggregations_eq_chain ▸ Flatten.output_isOk_iff.mp hread⟩
    exact ⟨_, hfailed, cause, rfl⟩

theorem madeOf_minMax (b : Builder) (field : String) (isDate : Bool) (s : SearchResponse) :
    (minMax b field isDate).MadeOf s (Index.fromAggregations (Flatten.bounds isDate) s) := by
  refine ⟨fun ⟨raw, haggs, ⟨least, hmin⟩, ⟨greatest, hmax⟩⟩ => ?_, fun hnot => ?_⟩
  · have hbounds : Flatten.bounds isDate raw = .ok ⟨least, greatest⟩ :=
      Flatten.bounds_eq_ok_iff.mpr ⟨hmin, hmax⟩
    exact ⟨_, fromAggregations_of_ok haggs hbounds, raw, haggs, hmin, hmax⟩
  · obtain ⟨cause, hfailed⟩ := fromAggregations_of_not_ok fun ⟨raw, haggs, found, hread⟩ =>
      hnot ⟨raw, haggs, ⟨_, (Flatten.bounds_eq_ok_iff.mp hread).1⟩,
        ⟨_, (Flatten.bounds_eq_ok_iff.mp hread).2⟩⟩
    exact ⟨_, hfailed, cause, rfl⟩

end Task

/-- What writes sent together come to, where `n` is the number of documents or ids. -/
theorem Index.exists_of_sendBulk {ix : Index} {operation : Operation} {actions : List BulkAction}
    {course : Course} {exchange : Exchange WriteResponse} {n : Nat} (hn : actions.length = n)
    (h : (ix.sendBulk operation actions).prepare course = .ok exchange) :
    ∃ finish : Course → WriteResponse → Except Error WriteResponse,
      exchange = ⟨.bulk actions ix.refresh, finish⟩ ∧
      ∀ course w, (w.items.length = n → ∃ result, finish course w = .ok result ∧ result = w) ∧
        (w.items.length ≠ n →
          ∃ e, finish course w = .error e ∧ e = .countMismatch n w.items.length) := by
  obtain rfl := Except.ok.inj h
  subst hn
  exact ⟨_, rfl, fun course w =>
    ⟨fun hlength => ⟨w, if_pos hlength, rfl⟩, fun hlength => ⟨_, if_neg hlength, rfl⟩⟩⟩

/-! ### Calls that serve an operation -/

/-- A call is answered by what an operation waits for, and what is made of that is right unless the
run is hindered. Only a search for one document can be told that it is absent. -/
structure Exchange.Serves (t : Task Json) (exchange : Exchange t.Result) : Prop where
  absence : ∀ status, Http.tellsAbsence exchange.request status = true ↔
    t.operation = .find ∧ status = 404 := by simp [Http.tellsAbsence, Task.operation]
  unread : ∀ body, t.readReply body = none →
    Http.readReply exchange.request body = none := by exact fun _ h => h
  read : ∀ body reply, t.readReply body = some reply → ∃ reply',
    Http.readReply exchange.request body = some reply' ∧
      ∀ course : Course, course.Unhindered → t.MadeOf reply (exchange.finish course reply')

namespace Task

theorem serves (ix : Index) {t : Task Json} (hraw : t.Raw) {course : Course}
    {exchange : Exchange t.Result} (h : (t.plan ix).prepare course = .ok exchange) :
    Exchange.Serves t exchange := by
  -- once the call is known, what it is answered by is what `t` waits for by computation
  cases t with
  | find item id =>
    obtain rfl : item = Decode.any := hraw
    obtain rfl := Except.ok.inj h
    exact { read := fun _ g hread => ⟨g, hread, fun _ _ => madeOf_find id g⟩ }
  | insert fresh given | update given | delete given =>
    obtain ⟨finish, rfl, hfinish⟩ := Index.exists_of_sendBulk (n := given.length) (by simp) h
    exact { read := fun _ w hread => ⟨w, hread, fun course _ => .mk (hfinish course w).1
      (hfinish course w).2⟩ }
  | get item b =>
    obtain rfl : item = Decode.any := hraw
    obtain ⟨r, -, rfl⟩ := exists_of_searchRequest h
    exact { read := fun _ s hread => ⟨s, hread, fun course hcourse => .mk
      (fun _ => ⟨_, extractSources_raw hcourse _ _ _, rfl⟩) fun hnot => absurd trivial hnot⟩ }
  | count b | destroy b =>
    dsimp only [plan, Index.count, Index.destroy] at h
    obtain ⟨root, -, rfl⟩ := exists_of_onCompiled h
    exact { read := fun _ reply hread => ⟨reply, hread, fun _ _ => .mk
      (fun _ => ⟨reply, rfl, rfl⟩) fun hnot => absurd trivial hnot⟩ }
  | aggregate b =>
    dsimp only [plan, Index.aggregate] at h
    split at h
    · cases h
    · obtain ⟨r, -, rfl⟩ := exists_of_searchRequest h
      exact { read := fun _ s hread => ⟨s, hread, fun _ _ => madeOf_aggregate b s⟩ }
  | cursor item b size after =>
    obtain rfl : item = Decode.any := hraw
    dsimp only [plan, Index.cursor] at h
    split at h
    · cases h
    · split at h
      · cases h
      · obtain rfl := Except.ok.inj h
        exact { read := fun _ s hread => ⟨s, hread, fun course hcourse => .mk
          (fun _ => ⟨_, map_eq_ok_iff.mpr ⟨_, extractSources_raw hcourse _ _ _, rfl⟩, rfl⟩)
          fun hnot => absurd trivial hnot⟩ }
  | execute b params =>
    dsimp only [plan, Index.execute] at h
    split at h
    · cases h
    · obtain ⟨root, -, rfl⟩ := exists_of_onCompiled h
      exact { read := fun _ w hread => ⟨w, hread, fun _ _ => .mk (fun _ => ⟨w, rfl, rfl⟩)
        fun hnot => absurd trivial hnot⟩ }
  | minMax b field isDate =>
    dsimp only [plan, Index.minMax] at h
    obtain ⟨root, -, rfl⟩ := exists_of_onCompiled h
    exact { read := fun _ s hread => ⟨s, hread, fun _ _ => madeOf_minMax b field isDate s⟩ }

end Task

/-! ### Readings of a body -/

/-- What no field asks for has no part in what is read from a text that holds a data value. -/
theorem Http.readBody_of_parse {α : Type} {asked : Json.Asked}
    {decode : Json → Except DecodeError α} (h : Decode.Suffices asked decode) {body : String}
    {j : Json} (hbody : Json.parse body = .ok j) :
    readBody asked decode body = readValue decode j := by
  rw [readBody, Json.parseAsked_of_parse hbody, Option.bind_some, readValue, readValue,
    Json.Asked.normalize_part, h, h]

/-- It may even be something that is no data value. -/
example : (Json.parse "\x7b\"count\":7,\"extra\":[1e400]\x7d").isOk = false ∧
    Http.readBody countAsked decodeCount "\x7b\"count\":7,\"extra\":[1e400]\x7d" = some 7 := by
  decide +kernel

theorem Task.readReply_of_parse (t : Task Json) {body : String} {j : Json}
    (hbody : Json.parse body = .ok j) : t.readReply body = Http.readValue t.decodeReply j := by
  cases t with
  | find item id => exact Http.readBody_of_parse Decode.suffices_getResponse hbody
  | insert fresh given | update given | delete given =>
    exact Http.readBody_of_parse Decode.suffices_writeResponse hbody
  | count b => exact Http.readBody_of_parse Decode.suffices_count hbody
  | get item b | aggregate b | cursor item b size after | minMax b field isDate =>
    exact Http.readBody_of_parse Decode.suffices_searchResponse hbody
  | execute b params | destroy b =>
    exact Http.readBody_of_parse Decode.suffices_writeByQueryResponse hbody

namespace Http

/-! ### Readings of an answer -/

section Readings

variable {r : Request} {answer : Answer}

theorem succeeded_iff {status : UInt16} :
    succeeded status = true ↔ 200 ≤ status.toNat ∧ status.toNat < 300 := by
  simp [succeeded]

/-- A status of failure is kept with its body, unless it tells readably that a document is absent.
Whether the body of any other failure can be read has no part in it. -/
theorem readAnswer_of_failed (hstatus : succeeded answer.status = false)
    (habsence : tellsAbsence r answer.status = true → readReply r answer.body = none) :
    readAnswer r answer = .error (.status answer.status answer.body) := by
  unfold readAnswer
  cases hbody : readReply r answer.body with
  | none => simp [hstatus]
  | some reply =>
    have hpresent : tellsAbsence r answer.status = false := by
      refine Bool.eq_false_iff.mpr fun htells => ?_
      rw [habsence htells] at hbody
      cases hbody
    simp [hstatus, hpresent]

theorem readAnswer_of_unread (hstatus : succeeded answer.status = true)
    (hbody : readReply r answer.body = none) :
    readAnswer r answer = .error (.http .unreadable) := by
  simp [readAnswer, hbody, hstatus]

theorem readAnswer_of_read {reply : r.Reply}
    (hstatus : succeeded answer.status = true ∨ tellsAbsence r answer.status = true)
    (hbody : readReply r answer.body = some reply) :
    readAnswer r answer = .ok reply := by
  simp [readAnswer, hbody, hstatus]

theorem engine_of_send {σ : Type} {connection : Connection σ} {base : Base} {index : String}
    {state state' : σ}
    (h : send connection state (message base index r) = (state', .ok answer)) :
    engine connection base state index r =
      (state', (readAnswer r answer).mapError ClientError.toEngineError) := by
  simp only [engine, h]

end Readings

/-! ### Operations over a network -/

/-- **No failure is lost, and none becomes another.** Take any operation that is accepted, with
documents taken as they are, over an engine at any address, in a run that nothing hinders, and any
answer to its message. A body that holds a data value is read as the value is. A status of 400 or
more is a failure of the engine during the operation, with the status and the body as they are,
unless it is a 404 to a search for one document and its body can be read: then it counts as an
answer. With a status of success a body that is no answer to the call is a malformed one, and any
other is used. The operation then has the result that the answer gives if that has all that is
needed; else it has found no document, has not an outcome for each write, or could not extract
something. -/
theorem run_keeps_failures {σ : Type} (connection : Connection σ) (base : Base) (ix : Index)
    {t : Task Json} (hraw : t.Raw) (haccepted : t.check ix = .ok ()) {course : Course}
    (hcourse : course.Unhindered) (state : σ) :
    (∀ body j, Json.parse body = .ok j → t.readReply body = readValue t.decodeReply j) ∧
    ∃ exchange, (t.plan ix).prepare course = .ok exchange ∧ ∀ state' answer,
      send connection state (message base ix.name exchange.request) = (state', .ok answer) →
      ∃ outcome,
        (t.plan ix).run (engine connection base) ix.name course state = (state', outcome) ∧
        (400 ≤ answer.status.toNat →
          (t.operation = .find → answer.status = 404 → t.readReply answer.body = none) →
          outcome = .error (.engine t.operation (.status answer.status answer.body))) ∧
        (200 ≤ answer.status.toNat → answer.status.toNat < 300 →
          t.readReply answer.body = none →
          outcome = .error (.engine t.operation (.malformed "error decoding response body"))) ∧
        ∀ reply, t.readReply answer.body = some reply →
          (200 ≤ answer.status.toNat ∧ answer.status.toNat < 300) ∨
            (t.operation = .find ∧ answer.status = 404) →
          t.MadeOf reply outcome := by
  obtain ⟨exchange, hprepared, -⟩ :
      ∃ exchange, (t.plan ix).prepare course = .ok exchange ∧ exchange.Reads := by
    have hfollows := t.keepsTo_check ix course
    rwa [haccepted] at hfollows
  have hserves := t.serves ix hraw hprepared
  refine ⟨fun _ _ => t.readReply_of_parse, exchange, hprepared, fun state' answer hanswer => ?_⟩
  have hrun : (t.plan ix).run (engine connection base) ix.name course state = _ :=
    Plan.run_of_called hprepared (hcourse.2 0) (Course.interrupted_eq_false hcourse.2)
  rw [engine_of_send hanswer] at hrun
  refine ⟨_, hrun, fun hstatus habsence => ?_, fun hleast hbelow hbody => ?_,
    fun reply hbody hstatus => ?_⟩
  · have hfailed : succeeded answer.status = false := by
      rw [Bool.eq_false_iff, Ne, succeeded_iff]
      omega
    have hunread : tellsAbsence exchange.request answer.status = true →
        readReply exchange.request answer.body = none := fun htells =>
      have habsent := (hserves.absence answer.status).mp htells
      hserves.unread answer.body (habsence habsent.1 habsent.2)
    rw [readAnswer_of_failed hfailed hunread, ← t.operation_plan ix]
    rfl
  · rw [readAnswer_of_unread (succeeded_iff.mpr ⟨hleast, hbelow⟩) (hserves.unread _ hbody),
      ← t.operation_plan ix]
    rfl
  · obtain ⟨reply', hread, hmade⟩ := hserves.read answer.body reply hbody
    have hused := hstatus.imp succeeded_iff.mpr (hserves.absence answer.status).mpr
    rw [readAnswer_of_read hused hread]
    exact hmade course hcourse

/-- A network that brings the same answer to every message. -/
def echo : Connection Answer := fun answer _ => (answer, some answer)

/-- A body that says that a document is not there counts with the status that says so, and with
another status of failure it is passed on like any other text. What else it says does not matter. -/
theorem find_keeps_failures :
    let find answer := ((Task.find Decode.any "7").plan { name := "models" }).run
      (engine echo localBase) "models" {} answer
    find ⟨503, "\x7b\"_id\":\"7\"\x7d"⟩ = (⟨503, "\x7b\"_id\":\"7\"\x7d"⟩,
      .error (.engine .find (.status 503 "\x7b\"_id\":\"7\"\x7d"))) ∧
    find ⟨200, "ready"⟩ = (⟨200, "ready"⟩,
      .error (.engine .find (.malformed "error decoding response body"))) ∧
    find ⟨404, "\x7b\"_id\":\"7\",\"x\":1e400\x7d"⟩ =
      (⟨404, "\x7b\"_id\":\"7\",\"x\":1e400\x7d"⟩, .error (.notFound "7")) := by
  have hcourse : ({} : Course).Unhindered := ⟨fun n => List.Perm.refl _, fun _ => rfl⟩
  have hsendable : sendable (message localBase "models" (.get "7")).addressed.url = true := by
    decide +kernel
  have hsend (answer : Answer) :
      send echo answer (message localBase "models" (.get "7")) = (answer, .ok answer) := by
    simp only [send, hsendable, if_true, echo]
  refine ⟨?_, ?_, ?_⟩
  · obtain ⟨-, exchange, hprepared, h⟩ := run_keeps_failures echo localBase { name := "models" }
      (t := .find Decode.any "7") rfl rfl hcourse ⟨503, "\x7b\"_id\":\"7\"\x7d"⟩
    obtain rfl := Except.ok.inj hprepared
    obtain ⟨outcome, hrun, hkept, -⟩ := h _ _ (hsend _)
    obtain rfl := hkept (by decide) fun _ hstatus => absurd hstatus (by decide)
    exact hrun
  · obtain ⟨-, exchange, hprepared, h⟩ := run_keeps_failures echo localBase { name := "models" }
      (t := .find Decode.any "7") rfl rfl hcourse ⟨200, "ready"⟩
    obtain rfl := Except.ok.inj hprepared
    obtain ⟨outcome, hrun, -, hmalformed, -⟩ := h _ _ (hsend _)
    have hunread : readBody GetResponse.asked GetResponse.decode "ready" = none :=
      Option.isNone_iff_eq_none.mp (by decide +kernel)
    obtain rfl := hmalformed (by decide) (by decide) hunread
    exact hrun
  · obtain ⟨-, exchange, hprepared, h⟩ := run_keeps_failures echo localBase { name := "models" }
      (t := .find Decode.any "7") rfl rfl hcourse ⟨404, "\x7b\"_id\":\"7\",\"x\":1e400\x7d"⟩
    obtain rfl := Except.ok.inj hprepared
    obtain ⟨outcome, hrun, -, -, hused⟩ := h _ _ (hsend _)
    have hread : (readBody GetResponse.asked GetResponse.decode
        "\x7b\"_id\":\"7\",\"x\":1e400\x7d").map (·.found) = some false := by decide +kernel
    obtain ⟨g, hg, hfound⟩ := Option.map_eq_some_iff.mp hread
    obtain ⟨e, rfl, he⟩ := (hused g hg (Or.inr ⟨rfl, rfl⟩)).fails fun h =>
      Bool.false_ne_true (hfound.symm.trans h.1)
    obtain rfl : e = .notFound "7" := he
    exact hrun

end Http

end DocSearch
