import DocSearch.Proofs.Blanks
import DocSearch.Proofs.ByteOrder
import DocSearch.Proofs.Chunks
import DocSearch.Proofs.Requests
import DocSearch.Script

/-!
# Statements of a script

The names of parameters become part of a script's source. What may stand in a name has no semicolon
and no blank, so the source falls apart into one statement for each name, and a name ends in its
statement where the blank stands. Nothing that a name holds can end a statement, begin another or
change one.
-/

namespace DocSearch.Script

/-! ### Names -/

/-- A letter of ASCII or an underscore. -/
def IsInitial (c : Char) : Prop := 'a' ≤ c ∧ c ≤ 'z' ∨ 'A' ≤ c ∧ c ≤ 'Z' ∨ c = '_'

/-- A letter of ASCII or an underscore, and then any number of letters, digits and underscores. -/
def IsIdentifier (name : String) : Prop :=
  ∃ c cs, name.toList = c :: cs ∧ IsInitial c ∧ ∀ d ∈ cs, IsInitial d ∨ '0' ≤ d ∧ d ≤ '9'

section Names

variable {c : Char} {name : String}

theorem isUpper_iff : c.isUpper = true ↔ 'A' ≤ c ∧ c ≤ 'Z' := decide_eq_true_iff

theorem isLower_iff : c.isLower = true ↔ 'a' ≤ c ∧ c ≤ 'z' :=
  Bool.and_eq_true_iff.trans (and_congr decide_eq_true_iff decide_eq_true_iff)

theorem isInitial_iff : IsInitial c ↔ c.isAlpha = true ∨ c = '_' := by
  have halpha : c.isAlpha = true ↔ c.isUpper = true ∨ c.isLower = true := Bool.or_eq_true_iff
  rw [IsInitial, halpha, isUpper_iff, isLower_iff]
  tauto

theorem isDigit_iff : c.isDigit = true ↔ '0' ≤ c ∧ c ≤ '9' := by
  simp only [Char.isDigit, Char.le_def, Bool.and_eq_true, decide_eq_true_eq, ge_iff_le]

theorem isDigit_eq_false_of_isInitial (h : IsInitial c) : c.isDigit = false := by
  apply eq_false_of_ne_true
  intro hdigit
  obtain ⟨hlow, hhigh⟩ := isDigit_iff.mp hdigit
  rcases h with ⟨hafter, -⟩ | ⟨hafter, -⟩ | rfl
  · exact absurd (hafter.trans hhigh) (by decide)
  · exact absurd (hafter.trans hhigh) (by decide)
  · exact absurd hhigh (by decide)

theorem continues_iff : (c.isAlphanum || c == '_') = true ↔ IsInitial c ∨ '0' ≤ c ∧ c ≤ '9' := by
  rw [isInitial_iff, ← isDigit_iff, Char.isAlphanum, Bool.or_eq_true, Bool.or_eq_true, beq_iff_eq]
  tauto

theorem isName_iff : isName name = true ↔ IsIdentifier name := by
  unfold isName IsIdentifier
  cases name.toList with
  | nil => simp
  | cons c cs =>
    rw [Bool.and_eq_true, Bool.not_eq_true', List.all_eq_true, List.forall_mem_cons]
    simp only [continues_iff]
    constructor
    · rintro ⟨hdigit, hfirst, hrest⟩
      have hinitial : IsInitial c := by
        refine hfirst.resolve_right fun h => ?_
        rw [isDigit_iff.mpr h] at hdigit
        cases hdigit
      exact ⟨c, cs, rfl, hinitial, hrest⟩
    · rintro ⟨d, ds, heq, hfirst, hrest⟩
      obtain ⟨rfl, rfl⟩ := List.cons.inj heq
      exact ⟨isDigit_eq_false_of_isInitial hfirst, Or.inl hfirst, hrest⟩

/-- No character of a name lies before the digits, where blanks are. -/
theorem apart_of_isIdentifier (h : IsIdentifier name) (hc : c ∈ name.toList) :
    c ≠ ';' ∧ c ≠ ' ' := by
  obtain ⟨d, ds, hname, hfirst, hrest⟩ := h
  have hchar : IsInitial c ∨ '0' ≤ c ∧ c ≤ '9' := by
    rw [hname] at hc
    rcases List.mem_cons.mp hc with rfl | hc
    · exact Or.inl hfirst
    · exact hrest c hc
  have hapart : ∀ e : Char, e.isAlphanum = false → e ≠ '_' → c ≠ e := by
    rintro e halpha hline rfl
    have := continues_iff.mpr hchar
    simp [halpha, hline] at this
  exact ⟨hapart _ (by decide) (by decide), hapart _ (by decide) (by decide)⟩

end Names

/-! ### Cutting a source -/

/-- Cuts a text after each semicolon that a blank follows. What has been read since the last one
comes in reverse order. -/
def cut (read : List Char) : List Char → List String
  | [] => if read.isEmpty then [] else [String.ofList read.reverse]
  | ';' :: ' ' :: rest => String.ofList (read.reverse ++ [';', ' ']) :: cut [] rest
  | c :: rest => cut (c :: read) rest

/-- The statements of a source. What stands after the last semicolon is one more, unless nothing
does. -/
def statements (source : String) : List String := cut [] source.toList

section Cuts

variable {read s : List Char}

/-- Cutting loses nothing. -/
theorem join_cut (read s : List Char) :
    String.join (cut read s) = String.ofList (read.reverse ++ s) := by
  fun_induction cut read s with
  | case1 read hempty => simp [List.isEmpty_iff.mp hempty]
  | case2 read hempty => simp
  | case3 read rest ih => simp [ih, ← String.ofList_append]
  | case4 read c rest hapart ih => simp [ih]

theorem cut_append (hs : ';' ∉ s) (rest : List Char) :
    cut read (s ++ rest) = cut (s.reverse ++ read) rest := by
  induction s generalizing read with
  | nil => simp
  | cons c s ih =>
    obtain ⟨hc, hs⟩ : ';' ≠ c ∧ ';' ∉ s := by simpa using hs
    rw [List.cons_append, cut, ih hs, List.reverse_cons, List.append_assoc, List.singleton_append]
    exact fun rest' heq _ => hc heq.symm

/-- A text without a semicolon is one statement with the one that ends it. -/
theorem statements_append {body : String} (hbody : ';' ∉ body.toList) (rest : String) :
    statements (body ++ "; " ++ rest) = (body ++ "; ") :: statements rest := by
  have hstatement : String.ofList (body.toList ++ [';', ' ']) = body ++ "; " := by
    rw [← String.toList_inj, String.toList_ofList, String.toList_append]
    rfl
  calc statements (body ++ "; " ++ rest)
      = cut [] (body.toList ++ ';' :: ' ' :: rest.toList) := by
        rw [statements, String.toList_append, String.toList_append, List.append_assoc]
        rfl
    _ = String.ofList (body.toList ++ [';', ' ']) :: statements rest := by
        rw [cut_append hbody, cut, List.append_nil, List.reverse_reverse, statements]
    _ = (body ++ "; ") :: statements rest := by rw [hstatement]

end Cuts

/-! ### Assignments -/

/-- The field that a statement gives a value to: what stands between the name of the document and
the next blank. -/
def assignee (statement : String) : String :=
  String.ofList ((statement.toList.drop "ctx._source.".length).takeWhile (· != ' '))

section Assignments

variable {name source : String} {names : List String} {e : ValidationError}

theorem statements_assignment (h : IsIdentifier name) (rest : String) :
    statements (assignment name ++ rest) = assignment name :: statements rest := by
  apply statements_append
  have hname : ';' ∉ name.toList := fun hmem => (apart_of_isIdentifier h hmem).1 rfl
  simp [String.toList_append, hname]

/-- The source for names falls apart into the statements that it is made of. -/
theorem statements_join (h : ∀ name ∈ names, IsIdentifier name) :
    statements (String.join (names.map assignment)) = names.map assignment := by
  induction names with
  | nil => rfl
  | cons name names ih =>
    obtain ⟨hname, hnames⟩ := List.forall_mem_cons.mp h
    rw [List.map_cons, String.join_cons, statements_assignment hname, ih hnames]

theorem assignee_assignment (h : IsIdentifier name) : assignee (assignment name) = name := by
  have hname : ∀ c ∈ name.toList, (c != ' ') = true := by
    intro c hc
    exact bne_iff_ne.mpr (apart_of_isIdentifier h hc).2
  have hdrop : (assignment name).toList.drop "ctx._source.".length =
      name.toList ++ " = params.".toList ++ (name ++ "; ").toList := by
    rw [assignment, String.toList_append, String.toList_append, String.toList_append,
      String.toList_append, String.toList_append, List.append_assoc, List.append_assoc,
      List.append_assoc, ← String.length_toList, List.drop_left, List.append_assoc]
  rw [assignee, hdrop, List.append_assoc, Text.takeWhile_append_of_stop hname (by simp),
    String.ofList_toList]

theorem assignments_eq_ok_iff : assignments names = .ok source ↔
    (∀ name ∈ names, IsIdentifier name) ∧ source = String.join (names.map assignment) := by
  induction names generalizing source with
  | nil => simp [assignments, eq_comm]
  | cons name names ih =>
    rw [assignments, List.forall_mem_cons]
    by_cases hname : isName name = true
    · rw [if_pos hname, map_eq_ok_iff, List.map_cons, String.join_cons]
      simp only [ih, isName_iff.mp hname, true_and]
      constructor
      · rintro ⟨rest, ⟨hnames, rfl⟩, rfl⟩
        exact ⟨hnames, rfl⟩
      · rintro ⟨hnames, rfl⟩
        exact ⟨_, ⟨hnames, rfl⟩, rfl⟩
    · have hunfit : ¬ IsIdentifier name := fun h => hname (isName_iff.mpr h)
      rw [if_neg hname]
      simp [hunfit]

/-- The statement for a name, if it can have one. -/
def assignment? (name : String) : Except ValidationError String :=
  if isName name then .ok (assignment name) else .error (.invalidScriptParam name)

theorem assignments_eq_mapM (names : List String) :
    assignments names = (names.mapM assignment?).map String.join := by
  induction names with
  | nil => rfl
  | cons name names ih =>
    rw [assignments, List.mapM_cons, assignment?]
    by_cases hname : isName name = true
    · rw [if_pos hname, if_pos hname, ih, ok_bind]
      cases names.mapM assignment? with
      | error e => rfl
      | ok texts => exact congrArg Except.ok String.join_cons.symm
    · rw [if_neg hname, if_neg hname]
      rfl

theorem exists_assignment?_iff : (∃ text, assignment? name = .ok text) ↔ IsIdentifier name := by
  rw [← isName_iff, assignment?]
  by_cases hname : isName name = true
  · simp [hname]
  · simp [hname]

theorem assignment?_eq_error_iff :
    assignment? name = .error e ↔ ¬ IsIdentifier name ∧ e = .invalidScriptParam name := by
  rw [← isName_iff, assignment?]
  by_cases hname : isName name = true
  · simp [hname]
  · simp [hname, eq_comm]

theorem assignments_eq_error_iff : assignments names = .error e ↔
    ∃ before name after, names = before ++ name :: after ∧
      (∀ earlier ∈ before, IsIdentifier earlier) ∧ ¬ IsIdentifier name ∧
      e = .invalidScriptParam name := by
  rw [assignments_eq_mapM, map_eq_error_iff, mapM_eq_error_iff]
  simp only [FirstFailure, exists_assignment?_iff, assignment?_eq_error_iff]
  constructor
  · rintro ⟨name, before, after, h⟩
    exact ⟨before, name, after, h⟩
  · rintro ⟨before, name, after, h⟩
    exact ⟨name, before, after, h⟩

end Assignments

/-! ### Scripts -/

/-- Of the names that are no identifiers, a name comes first in the order of the bytes. -/
def IsFirstUnfit (names : List String) (name : String) : Prop :=
  name ∈ names ∧ ¬ IsIdentifier name ∧
    ∀ other ∈ names, ¬ IsIdentifier other → other = name ∨ storedBytes name < storedBytes other

section Scripts

variable {params : Named Json} {script : Script} {e : ValidationError}

/-- In ascending order, the first unfit name is the one before which all are fit. -/
theorem isFirstUnfit_iff {names : List String} (hnames : names.Pairwise (· < ·)) {name : String} :
    IsFirstUnfit names name ↔
      ∃ before after, names = before ++ name :: after ∧
        (∀ earlier ∈ before, IsIdentifier earlier) ∧ ¬ IsIdentifier name := by
  constructor
  · rintro ⟨hmem, hunfit, hfirst⟩
    obtain ⟨before, after, rfl⟩ := List.append_of_mem hmem
    refine ⟨before, after, rfl, fun earlier hearlier => ?_, hunfit⟩
    have hless : earlier < name :=
      (List.pairwise_append.mp hnames).2.2 earlier hearlier name List.mem_cons_self
    by_contra hearlierUnfit
    rcases hfirst earlier (List.mem_append_left _ hearlier) hearlierUnfit with rfl | hafter
    · exact lt_irrefl _ hless
    · exact List.lt_asymm hafter (storedBytes_lt hless)
  · rintro ⟨before, after, rfl, hbefore, hunfit⟩
    obtain ⟨-, hrest, -⟩ := List.pairwise_append.mp hnames
    refine ⟨List.mem_append_right _ List.mem_cons_self, hunfit, fun other hother hotherUnfit => ?_⟩
    rcases List.mem_append.mp hother with hearlier | hother
    · exact absurd (hbefore other hearlier) hotherUnfit
    · rcases List.mem_cons.mp hother with rfl | hlater
      · exact Or.inl rfl
      · exact Or.inr (storedBytes_lt ((List.pairwise_cons.mp hrest).1 other hlater))

theorem ofParams_eq_error_iff (hnames : params.names.Pairwise (· < ·)) :
    ofParams params = .error e ↔
      params = [] ∧ e = .emptyScriptParams ∨
        ∃ name, IsFirstUnfit params.names name ∧ e = .invalidScriptParam name := by
  rw [ofParams]
  by_cases hempty : params = []
  · subst hempty
    simp [IsFirstUnfit, Named.names, eq_comm]
  · rw [if_neg (by simpa using hempty), map_eq_error_iff, assignments_eq_error_iff]
    simp only [isFirstUnfit_iff hnames, hempty, false_and, false_or]
    constructor
    · rintro ⟨before, name, after, hsplit, hbefore, hunfit, he⟩
      exact ⟨name, ⟨before, after, hsplit, hbefore, hunfit⟩, he⟩
    · rintro ⟨name, ⟨before, after, hsplit, hbefore, hunfit⟩, he⟩
      exact ⟨before, name, after, hsplit, hbefore, hunfit, he⟩

theorem ofParams_eq_ok_iff : ofParams params = .ok script ↔
    params ≠ [] ∧ (∀ name ∈ params.names, IsIdentifier name) ∧
      statements script.source = params.names.map assignment ∧
      script.lang = "painless" ∧ script.params = params := by
  obtain ⟨source, lang, given⟩ := script
  rw [ofParams]
  by_cases hempty : params = []
  · subst hempty
    simp
  · rw [if_neg (by simpa using hempty), map_eq_ok_iff]
    simp only [assignments_eq_ok_iff]
    constructor
    · rintro ⟨text, ⟨hnames, rfl⟩, hscript⟩
      obtain ⟨rfl, rfl, rfl⟩ := Script.mk.inj hscript
      exact ⟨hempty, hnames, statements_join hnames, rfl, rfl⟩
    · rintro ⟨-, hnames, hsource, rfl, rfl⟩
      refine ⟨source, ⟨hnames, ?_⟩, rfl⟩
      rw [← hsource, statements, join_cut, List.reverse_nil, List.nil_append, String.ofList_toList]

theorem exists_error_iff (hnames : params.names.Pairwise (· < ·)) :
    (∃ e, ofParams params = .error e) ↔
      params = [] ∨ ∃ name ∈ params.names, ¬ IsIdentifier name := by
  constructor
  · rintro ⟨e, he⟩
    rcases (ofParams_eq_error_iff hnames).mp he with ⟨hempty, -⟩ | ⟨name, hfirst, -⟩
    · exact Or.inl hempty
    · exact Or.inr ⟨name, hfirst.1, hfirst.2.1⟩
  · intro hunfit
    cases hscript : ofParams params with
    | error e => exact ⟨e, rfl⟩
    | ok script =>
      obtain ⟨hnonempty, hidentifiers, -⟩ := ofParams_eq_ok_iff.mp hscript
      rcases hunfit with hempty | ⟨name, hmem, hname⟩
      · exact absurd hempty hnonempty
      · exact absurd (hidentifiers name hmem) hname

/-- The names of the parameters are read back from the source. -/
theorem map_assignee_statements (h : ofParams params = .ok script) :
    (statements script.source).map assignee = params.names := by
  obtain ⟨-, hidentifiers, hsource, -⟩ := ofParams_eq_ok_iff.mp h
  have hassignee : ∀ name ∈ params.names, (assignee ∘ assignment) name = name := by
    intro name hmem
    exact assignee_assignment (hidentifiers name hmem)
  rw [hsource, List.map_map, List.map_congr_left hassignee, List.map_id']

end Scripts

/-- **Scripts cannot be injected into.** A script for parameters, whatever their names and values,
fails exactly when there are none or a name is no identifier, and the failure then tells the first
such name in the order of the bytes. Otherwise the source, cut after each semicolon with a blank, is
one assignment for each name in ascending order and nothing else, the names are read back from it,
and the parameters are those given. A change of documents is sent with such a script only. -/
theorem ofParams_assigns_each {params : Named Json} (hparams : params.Ascending) :
    ((∃ e, ofParams params = .error e) ↔
      params = [] ∨ ∃ name ∈ params.names, ¬ IsIdentifier name) ∧
    (∀ e, ofParams params = .error e ↔
      params = [] ∧ e = .emptyScriptParams ∨
        ∃ name, IsFirstUnfit params.names name ∧ e = .invalidScriptParam name) ∧
    (∀ script, ofParams params = .ok script ↔
      params ≠ [] ∧ (∀ name ∈ params.names, IsIdentifier name) ∧
        statements script.source = params.names.map (fun name =>
          "ctx._source." ++ name ++ " = params." ++ name ++ "; ") ∧
        script.lang = "painless" ∧ script.params = params) ∧
    params.names.Pairwise (fun name later => storedBytes name < storedBytes later) ∧
    (∀ script, ofParams params = .ok script →
      (statements script.source).map assignee = params.names) ∧
    ∀ (ix : Index) (b : Builder) (course : Course) (exchange : Exchange WriteByQueryResponse),
      (ix.execute b params).prepare course = .ok exchange →
        ∃ query script, ofParams params = .ok script ∧
          exchange.request = .updateByQuery ⟨query, some script⟩ ix.refresh := by
  have hnames : params.names.Pairwise (· < ·) := List.pairwise_map.mpr hparams
  refine ⟨exists_error_iff hnames, fun e => ofParams_eq_error_iff hnames,
    fun script => ofParams_eq_ok_iff, hnames.imp storedBytes_lt,
    fun script => map_assignee_statements, ?sent⟩
  case sent =>
    intro ix b course exchange h
    dsimp only [Index.execute] at h
    split at h
    · cases h
    · next script hscript =>
      obtain ⟨root, -, rfl⟩ := exists_of_onCompiled h
      exact ⟨.bool root, script, hscript, rfl⟩

def filmParams : Named Json := [("_year", .int 1922), ("title", .string "Nosferatu")]

/-- Parameters of which one has a statement of its own in its name. -/
def intrusiveParams : Named Json := [("a", .int 1), ("a; ctx.op = 1", .int 2), ("é", .null)]

theorem film_and_intrusive_assigned :
    filmParams.Ascending ∧ intrusiveParams.Ascending ∧
    (∃ script, ofParams filmParams = .ok script ∧ script.params = filmParams ∧
      statements script.source =
        ["ctx._source._year = params._year; ", "ctx._source.title = params.title; "]) ∧
    ofParams intrusiveParams = .error (.invalidScriptParam "a; ctx.op = 1") := by
  have hfilm : filmParams.Ascending := by
    simp only [Named.Ascending, String.lt_iff_toList_lt]
    decide
  have hintrusive : intrusiveParams.Ascending := by
    simp only [Named.Ascending, String.lt_iff_toList_lt]
    decide
  obtain ⟨-, -, hok, -⟩ := ofParams_assigns_each hfilm
  obtain ⟨-, herror, -⟩ := ofParams_assigns_each hintrusive
  have hunfit : ¬ IsIdentifier "a; ctx.op = 1" := by
    rw [← isName_iff]
    decide
  refine ⟨hfilm, hintrusive, ?accepted, ?rejected⟩
  case accepted =>
    have hscript : ofParams filmParams = .ok
        ⟨"ctx._source._year = params._year; ctx._source.title = params.title; ", "painless",
          filmParams⟩ := by
      rfl
    obtain ⟨-, -, hsource, -, hparams⟩ := (hok _).mp hscript
    exact ⟨_, hscript, hparams, hsource⟩
  case rejected =>
    apply (herror _).mpr
    refine Or.inr ⟨_, ⟨by decide, hunfit, fun other hother hotherUnfit => ?_⟩, rfl⟩
    have hother' : other = "a" ∨ other = "a; ctx.op = 1" ∨ other = "é" := by
      simpa [intrusiveParams, Named.names] using hother
    rcases hother' with rfl | rfl | rfl
    · exact absurd (isName_iff.mp (by decide)) hotherUnfit
    · exact Or.inl rfl
    · apply Or.inr
      apply storedBytes_lt
      exact String.lt_iff_toList_lt.mpr (by decide)

end DocSearch.Script
