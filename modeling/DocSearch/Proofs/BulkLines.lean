import DocSearch.Http.Message
import DocSearch.Proofs.DataTexts

/-!
# The lines of a bulk write

Each action takes one line for what is done to which document, and a second one for the document, if
there is one. A document can look like an action, so a line alone does not tell what it is; but the
first line is an action, and the kind of an action tells whether a document follows. Read in order,
the lines give back all actions, since no line end stands in any of them.
-/

namespace DocSearch

open Json (OneLine readExact)

namespace BulkAction

/-- The document that is sent with an action. -/
def doc? : BulkAction → Option Json
  | .create _ doc => some doc
  | .update _ doc => some doc
  | .delete _ => none

/-- The lines of an action, without their ends. -/
def lines (a : BulkAction) : List String :=
  ("\x7b\"" ++ a.name ++ "\":\x7b\"_id\":" ++ Json.quote a.id ++ "\x7d\x7d") ::
    match a with
    | .create _ doc => [doc.compact]
    | .update _ doc => ["\x7b\"doc\":" ++ doc.compact ++ "\x7d"]
    | .delete _ => []

/-- The values whose texts are the lines. -/
def values (a : BulkAction) : List Json :=
  .object [(a.name, .object [("_id", .string a.id)])] ::
    match a with
    | .create _ doc => [doc]
    | .update _ doc => [.object [("doc", doc)]]
    | .delete _ => []

/-- The document of an action has no float that could not be written. -/
def FiniteFloats (a : BulkAction) : Prop :=
  ∀ doc ∈ a.doc?, ∀ x, .float x ∈ doc.numbers → Floating.finite x = true

/-- The document of an action is nested within the limit, together with the object that an update
puts around it, and its numbers are integers of 64 bits. -/
def Limited (a : BulkAction) : Prop :=
  ∀ doc ∈ a.doc?, doc.depth + 1 < Json.levelLimit ∧
    ∀ n ∈ doc.numbers, ∃ k : Int, n = .int k ∧ -2 ^ 63 ≤ k ∧ k < 2 ^ 64

end BulkAction

namespace Http

/-! ### Reading -/

/-- The lines of a text, if each of them has an end; `line` is what was read of the first one, last
character first. -/
def linesOf : (line : List Char) → List Char → Option (List String)
  | [], [] => some []
  | _ :: _, [] => none
  | line, c :: s =>
    if c = '\n' then (linesOf [] s).map (String.ofList line.reverse :: ·) else linesOf (c :: line) s

/-- Reads what is done, and the id of the document to which it is done. -/
def readAction (line : String) : Option (String × String) :=
  match readExact line with
  | some (.object [(name, .object [(key, .string id)])]) =>
    if key = "_id" then some (name, id) else none
  | _ => none

/-- Reads a part of a document. -/
def readPart (line : String) : Option Json :=
  match readExact line with
  | some (.object [(key, doc)]) => if key = "doc" then some doc else none
  | _ => none

/-- Reads actions from lines in order. A document is read where the action before it has one. -/
def readActions : List String → Option (List BulkAction)
  | [] => some []
  | line :: more => do
    let (name, id) ← readAction line
    if name = "delete" then (readActions more).map (.delete id :: ·)
    else
      match more with
      | [] => none
      | next :: more =>
        if name = "create" then do
          let doc ← readExact next
          (readActions more).map (.create id doc :: ·)
        else if name = "update" then do
          let doc ← readPart next
          (readActions more).map (.update id doc :: ·)
        else none

section Lines

variable {line s rest : List Char} {ls : List String} {a : BulkAction} {doc : Json}

theorem linesOf_append (line : List Char) (hs : '\n' ∉ s) (rest : List Char) :
    linesOf line (s ++ '\n' :: rest) =
      (linesOf [] rest).map (String.ofList (line.reverse ++ s) :: ·) := by
  induction s generalizing line with
  | nil =>
    rw [List.nil_append, List.append_nil, linesOf, if_pos rfl]
  | cons c s ih =>
    have hc : c ≠ '\n' := fun heq => hs (heq ▸ List.mem_cons_self)
    rw [List.cons_append, linesOf, if_neg hc, ih (c :: line) fun h => hs (List.mem_cons_of_mem c h)]
    simp

/-- Lines with their ends after them are found again. -/
theorem linesOf_join (h : ∀ l ∈ ls, OneLine l.toList) :
    linesOf [] (String.join (ls.map (· ++ "\n"))).toList = some ls := by
  induction ls with
  | nil => simp [linesOf]
  | cons l ls ih =>
    obtain ⟨hl, hls⟩ := List.forall_mem_cons.mp h
    have hend : '\n' ∉ l.toList := fun hmem => absurd (hl _ hmem) (by decide)
    have htext : (String.join ((l :: ls).map (· ++ "\n"))).toList =
        l.toList ++ '\n' :: (String.join (ls.map (· ++ "\n"))).toList := by
      simp [String.join_cons]
    rw [htext, linesOf_append [] hend, ih hls]
    simp

theorem compact_single (key : String) (a : Json) :
    (Json.object [(key, a)]).compact = "\x7b" ++ Json.quote key ++ ":" ++ a.compact ++ "\x7d" := by
  simp [Json.compact, Json.compactMembers, String.append_assoc]

theorem compact_action (a : BulkAction) :
    (Json.object [(a.name, .object [("_id", .string a.id)])]).compact =
      "\x7b\"" ++ a.name ++ "\":\x7b\"_id\":" ++ Json.quote a.id ++ "\x7d\x7d" := by
  have hname : (Json.quote a.name).toList = '"' :: (a.name.toList ++ ['"']) := by
    cases a <;> simp [BulkAction.name, Json.quote, Json.escapeChar]
  have hkey : (Json.quote "_id").toList = ['"', '_', 'i', 'd', '"'] := by
    simp [Json.quote, Json.escapeChar]
  rw [compact_single, compact_single, Json.compact_leaf rfl, Json.leafText, ← String.toList_inj]
  simp [hname, hkey]

theorem compact_part (doc : Json) :
    (Json.object [("doc", doc)]).compact = "\x7b\"doc\":" ++ doc.compact ++ "\x7d" := by
  have hkey : (Json.quote "doc").toList = ['"', 'd', 'o', 'c', '"'] := by
    simp [Json.quote, Json.escapeChar]
  rw [compact_single, ← String.toList_inj]
  simp [hkey]

theorem lines_eq (a : BulkAction) : a.lines = a.values.map Json.compact := by
  cases a <;> simp only [BulkAction.lines, BulkAction.values, ← compact_action, ← compact_part,
    List.map_cons, List.map_nil]

/-- What is written for an action is its lines. -/
theorem join_lines (a : BulkAction) :
    String.join (a.lines.map (· ++ "\n")) = actionLine a ++ documentLine a := by
  cases a <;> simp [lines_eq, BulkAction.values, actionLine, documentLine]

/-- Besides those of the document the lines have no numbers. -/
theorem mem_numbers {value n : Json} (hvalue : value ∈ a.values) (hn : n ∈ value.numbers) :
    ∃ doc ∈ a.doc?, n ∈ doc.numbers := by
  rcases List.mem_cons.mp hvalue with rfl | hvalue
  · simp [Json.numbers, Json.numbersOfMembers] at hn
  · cases a with
    | create id doc =>
      obtain rfl := List.mem_singleton.mp hvalue
      exact ⟨value, rfl, hn⟩
    | update id doc =>
      obtain rfl := List.mem_singleton.mp hvalue
      exact ⟨doc, rfl, by simpa [Json.numbers, Json.numbersOfMembers] using hn⟩
    | delete id => cases hvalue

theorem depth_lt {value : Json} (h : a.Limited) (hvalue : value ∈ a.values) :
    value.depth < Json.levelLimit := by
  rcases List.mem_cons.mp hvalue with rfl | hvalue
  · simp [Json.depth, Json.depthMembers, Json.levelLimit]
  · cases a with
    | create id doc =>
      obtain rfl := List.mem_singleton.mp hvalue
      exact Nat.lt_of_succ_lt (h value rfl).1
    | update id doc =>
      obtain rfl := List.mem_singleton.mp hvalue
      have hdepth := (h doc rfl).1
      simpa [Json.depth, Json.depthMembers] using hdepth
    | delete id => cases hvalue

theorem bulkBody_eq_join (actions : List BulkAction) :
    bulkBody actions = String.join ((actions.flatMap BulkAction.lines).map (· ++ "\n")) := by
  induction actions with
  | nil => rfl
  | cons a actions ih =>
    have htext : String.join ((a.lines ++ actions.flatMap BulkAction.lines).map (· ++ "\n")) =
        String.join (a.lines.map (· ++ "\n")) ++
          String.join ((actions.flatMap BulkAction.lines).map (· ++ "\n")) := by
      rw [← String.toList_inj]
      simp
    rw [List.flatMap_cons, htext, join_lines, ← ih, bulkBody, List.map_cons, String.join_cons]
    rfl

theorem oneLine_lines {line : String} (h : line ∈ a.lines) : OneLine line.toList := by
  rw [lines_eq] at h
  obtain ⟨value, -, rfl⟩ := List.mem_map.mp h
  exact Json.oneLine_compact value

/-- Within the limits of the library's own reader a line is read by it too. -/
theorem parse_line {line : String} (hlimited : a.Limited) (h : line ∈ a.lines) :
    ∃ value, Json.parse line = .ok value ∧ readExact line = some value := by
  rw [lines_eq] at h
  obtain ⟨value, hvalue, rfl⟩ := List.mem_map.mp h
  have hint (n : Json) (hn : n ∈ value.numbers) :
      ∃ k : Int, n = .int k ∧ -2 ^ 63 ≤ k ∧ k < 2 ^ 64 := by
    obtain ⟨doc, hdoc, hmem⟩ := mem_numbers hvalue hn
    exact (hlimited doc hdoc).2 n hmem
  refine ⟨value, Json.parse_compact (depth_lt hlimited hvalue) fun n hn => ?_,
    Json.readExact_compact fun x hx => ?_⟩
  · obtain ⟨k, rfl, hlow, hhigh⟩ := hint n hn
    exact Json.number_int hlow hhigh
  · obtain ⟨k, heq, -, -⟩ := hint _ hx
    cases heq

theorem readAction_line (a : BulkAction) :
    readAction (Json.object [(a.name, .object [("_id", .string a.id)])]).compact =
      some (a.name, a.id) := by
  have hread : readExact (Json.object [(a.name, .object [("_id", .string a.id)])]).compact =
      some (Json.object [(a.name, .object [("_id", .string a.id)])]) :=
    Json.readExact_compact (by simp [Json.numbers, Json.numbersOfMembers])
  rw [readAction, hread]
  exact if_pos rfl

theorem readPart_line (h : ∀ x, .float x ∈ doc.numbers → Floating.finite x = true) :
    readPart (Json.object [("doc", doc)]).compact = some doc := by
  have hread : readExact (Json.object [("doc", doc)]).compact = some (Json.object [("doc", doc)]) :=
    Json.readExact_compact (by simpa [Json.numbers, Json.numbersOfMembers] using h)
  rw [readPart, hread]
  exact if_pos rfl

/-- One action is read from its lines, and what follows is left to be read. -/
theorem readActions_lines (h : a.FiniteFloats) (more : List String) :
    readActions (a.lines ++ more) = (readActions more).map (a :: ·) := by
  have haction := readAction_line a
  rw [lines_eq]
  cases a with
  | create id doc =>
    have hdoc : readExact doc.compact = some doc := Json.readExact_compact (h doc rfl)
    simp only [BulkAction.values, List.map_cons, List.map_nil, List.cons_append, List.nil_append,
      readActions, haction, hdoc]
    rfl
  | update id doc =>
    have hdoc := readPart_line (h doc rfl)
    simp only [BulkAction.values, List.map_cons, List.map_nil, List.cons_append, List.nil_append,
      readActions, haction, hdoc]
    rfl
  | delete id =>
    simp only [BulkAction.values, List.map_cons, List.map_nil, List.cons_append, List.nil_append,
      readActions, haction]
    rfl

theorem readActions_flatMap {actions : List BulkAction} (h : ∀ a ∈ actions, a.FiniteFloats) :
    readActions (actions.flatMap BulkAction.lines) = some actions := by
  induction actions with
  | nil => rfl
  | cons a actions ih =>
    obtain ⟨ha, hactions⟩ := List.forall_mem_cons.mp h
    rw [List.flatMap_cons, readActions_lines ha, ih hactions]
    rfl

/-- The body of a bulk write can be read in one way only. It is the lines of all actions in order,
each with one line feed after it; no line has a line feed, a carriage return or another control
character in it; and from the lines of the body all actions are read again, with their kinds, ids
and documents. A line within the limits of the library's own reader is read by it as the same
value. -/
theorem bulkBody_read_back (actions : List BulkAction) (h : ∀ a ∈ actions, a.FiniteFloats) :
    bulkBody actions = String.join ((actions.flatMap BulkAction.lines).map (· ++ "\n")) ∧
    (∀ line ∈ actions.flatMap BulkAction.lines, ∀ c ∈ line.toList, ' ' ≤ c) ∧
    (linesOf [] (bulkBody actions).toList).bind readActions = some actions ∧
    ∀ a ∈ actions, a.Limited → ∀ line ∈ a.lines,
      ∃ value, Json.parse line = .ok value ∧ readExact line = some value := by
  have hlines : ∀ line ∈ actions.flatMap BulkAction.lines, OneLine line.toList := by
    intro line hline
    obtain ⟨a, -, ha⟩ := List.mem_flatMap.mp hline
    exact oneLine_lines ha
  refine ⟨bulkBody_eq_join actions, hlines, ?_, fun a _ hlimited line => parse_line hlimited⟩
  rw [bulkBody_eq_join, linesOf_join hlines, Option.bind_some, readActions_flatMap h]

/-- A document that looks like an action, between two actions, and an id with a line end. -/
theorem lookalike_read_back :
    let half := Floating.ofMagnitude false (1022 * 2 ^ 52)
    let actions : List BulkAction :=
      [.create "1" (.object [("delete", .object [("_id", .string "a\nb")])]), .delete "a\nb",
        .update "2" (.array [.float half, .int (-7)])]
    (∀ a ∈ actions, a.FiniteFloats) ∧
      (linesOf [] (bulkBody actions).toList).bind readActions = some actions ∧
      BulkAction.Limited (.delete "a\nb") ∧ ∃ value,
        Json.parse "\x7b\"delete\":\x7b\"_id\":\"a\\nb\"\x7d\x7d" = .ok value ∧
          readExact "\x7b\"delete\":\x7b\"_id\":\"a\\nb\"\x7d\x7d" = some value := by
  intro half actions
  have hhalf : Floating.finite half = true := Floating.finite_ofMagnitude (by decide)
  have hfinite : ∀ a ∈ actions, a.FiniteFloats := by
    refine List.forall_mem_cons.mpr ⟨?_, List.forall_mem_cons.mpr ⟨?_, List.forall_mem_cons.mpr ⟨?_,
      fun a ha => nomatch ha⟩⟩⟩
    · intro doc hdoc x hx
      obtain rfl := Option.some.inj hdoc
      simp [Json.numbers, Json.numbersOfMembers] at hx
    · intro doc hdoc
      cases hdoc
    · intro doc hdoc x hx
      obtain rfl := Option.some.inj hdoc
      have hx : x = half := by simpa [Json.numbers, Json.numbersOfItems] using hx
      rw [hx]
      exact hhalf
  have hlimited : BulkAction.Limited (.delete "a\nb") := by
    intro doc hdoc
    cases hdoc
  have hread := bulkBody_read_back actions hfinite
  refine ⟨hfinite, hread.2.2.1, hlimited,
    hread.2.2.2 (.delete "a\nb") (by simp [actions]) hlimited _ ?_⟩
  have hquote : Json.quote "a\nb" = "\"a\\nb\"" := by decide
  simp [BulkAction.lines, BulkAction.name, BulkAction.id, hquote]

end Lines

end Http

end DocSearch
