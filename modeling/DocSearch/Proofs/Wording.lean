import DocSearch.CommandLine.Query
import DocSearch.Proofs.Blanks
import DocSearch.Proofs.Calls
import DocSearch.Proofs.Words

/-!
# Queries in the words of a command

A condition can be said on a command line: the field, the operator and the value with one blank
between them, a list of values after an equals sign with commas between them, a sort order with its
direction after a colon. Integers are said in decimal and texts in quotes, which keeps a text from
being taken for a number and its blanks from being dropped.

What is said this way is read back as it was. Each reader takes off the field as far as it goes, and
no field character is a blank, an equals sign or a colon; from there on the pieces are found by what
stands between them. So only a line end in a text, and a comma in one of several texts, could not be
said.
-/

namespace DocSearch

namespace CommandLine

/-! ### Words for conditions -/

/-- An integer in decimal, a text in quotes. -/
def valueWord : Scalar → String
  | .text s => "\"" ++ s ++ "\""
  | v => v.display

section Words

variable {context : Context}

def conditionWords (p : Predicate context) : String :=
  p.field ++ " " ++ p.operator ++ " " ++ valueWord p.value

def setWords (p : SetPredicate context) : String :=
  p.field ++ "=" ++ ",".intercalate (p.values.map valueWord)

def sortWords (s : SortKey) : String := s.field ++ ":" ++ if s.ascending then "asc" else "desc"

end Words

/-- The options that say what a query asks for. -/
def QueryOptions.ofBuilder (b : Builder) : QueryOptions where
  wheres := b.clauses.wheres.map conditionWords
  whereIns := b.clauses.whereIns.map setWords
  whereNotIns := b.clauses.whereNotIns.map setWords
  filters := b.clauses.filters.map conditionWords
  filterIns := b.clauses.filterIns.map setWords
  matches_ := b.clauses.matches_.map conditionWords
  matchIns := b.clauses.matchIns.map setWords
  phrases := b.clauses.phrases.map conditionWords
  sorts := b.sorts.map sortWords
  limit := b.limit
  offset := b.offset
  groupBy := b.groupBy.getD []
  stats := b.stats

def IsFieldName (field : String) : Prop :=
  ∃ c s, field.toList = c :: s ∧ startsField c = true ∧ ∀ d ∈ s, continuesField d = true

/-- An integer, or a text without certain characters. -/
def IsSayable (without : List Char) : Scalar → Prop
  | .int _ => True
  | .text s => ∀ c ∈ without, c ∉ s.toList
  | _ => False

end CommandLine

open CommandLine

structure Predicate.Sayable {context : Context} (p : Predicate context) : Prop where
  field : IsFieldName p.field
  operator : ∃ op : Operator, p.operator = op.text
  value : IsSayable ['\n'] p.value

structure SetPredicate.Sayable {context : Context} (p : SetPredicate context) : Prop where
  field : IsFieldName p.field
  nonempty : p.values ≠ []
  values : ∀ v ∈ p.values, IsSayable ['\n', ','] v

/-- A condition of one of the eight kinds that there are options for. -/
def Clause.Sayable : Clause → Prop
  | .where_ p => p.Sayable
  | .whereIn p => p.Sayable
  | .whereNotIn p => p.Sayable
  | .filter p => p.Sayable
  | .filterIn p => p.Sayable
  | .match_ p => p.Sayable
  | .matchIn p => p.Sayable
  | .phrase p => p.Sayable
  | .matchNotIn _ | .phraseIn _ | .phraseNotIn _ => False

def SortKey.Sayable (s : SortKey) : Prop := IsFieldName s.field ∧ s.nestedPath = none

def Call.Sayable : Call → Prop
  | .clause c => c.Sayable
  | .orderBy s => s.Sayable
  | .limit _ | .offset _ | .stats _ => True
  | .groupBy fields => fields ≠ []
  | .nestedClause _ | .clear => False

namespace CommandLine

/-! ### Values -/

section Values

variable {without : List Char} {v : Scalar}

theorem mem_toString {n : Int} {c : Char} (h : c ∈ (toString n).toList) :
    c = '-' ∨ c.isDigit = true := by
  have hdigit {m : Nat} (hc : c ∈ Nat.toDigits 10 m) : c.isDigit = true :=
    Nat.isDigit_of_mem_toDigits (by decide) (by decide) hc
  rw [Text.toList_toString] at h
  split at h
  · exact Or.inr (hdigit h)
  · exact (List.mem_cons.mp h).imp_right hdigit

theorem toString_ne_nil (n : Int) : (toString n).toList ≠ [] := by
  rw [Text.toList_toString]
  split
  · exact Nat.toDigits_ne_nil
  · exact List.cons_ne_nil _ _

theorem toList_valueWord_text (s : String) :
    (valueWord (.text s)).toList = '"' :: (s.toList ++ ['"']) := by
  simp [valueWord]

theorem tight_valueWord (h : IsSayable without v) : Text.Tight (valueWord v).toList := by
  cases v with
  | int n =>
    refine .of_forall (toString_ne_nil n.toInt) fun c hc => ?_
    rcases mem_toString hc with rfl | hdigit
    · decide
    · exact Text.isBlank_eq_false_of_isDigit hdigit
  | text s =>
    rw [toList_valueWord_text]
    exact ⟨⟨'"', _, rfl, by decide⟩, ⟨'"' :: s.toList, '"', rfl, by decide⟩⟩
  | bool | float | date => exact h.elim

/-- The word for a value has no character in it that is neither a digit, a minus sign nor a quote
and that the value is without. -/
theorem not_mem_valueWord (h : IsSayable without v) {c : Char} (hc : c ∈ without)
    (hdigit : c.isDigit = false) (hminus : c ≠ '-') (hquote : c ≠ '"') :
    c ∉ (valueWord v).toList := by
  intro hmem
  cases v with
  | int n =>
    rcases mem_toString hmem with rfl | hdigit'
    · exact hminus rfl
    · rw [hdigit] at hdigit'
      cases hdigit'
  | text s =>
    rw [toList_valueWord_text] at hmem
    have hs : c ∉ s.toList := h c hc
    simp_all
  | bool | float | date => exact h.elim

theorem parseValue_valueWord (h : IsSayable without v) : parseValue (valueWord v) = v := by
  have htrim : Text.trim (valueWord v) = valueWord v := (tight_valueWord h).trim
  -- opened by delta, since the equation of the reader takes long to derive
  delta parseValue
  cases v with
  | int n =>
    have hread : Text.readInt64 (valueWord (.int n)) = some n := Text.readInt64_toString n
    simp only [htrim, hread]
  | text s =>
    have hword := toList_valueWord_text s
    have hint : Text.readInt64 (valueWord (.text s)) = none := by
      rw [Text.readInt64, hword]
      simp [Text.readInt, Floating.splitSign, Text.readNat]
    have hfloat : Floating.readFloat (valueWord (.text s)).toList = none := by
      rw [hword]
      simp [Floating.readFloat, Floating.splitSign, Floating.readDecimal]
    have hquoted : unquote (valueWord (.text s)).toList = s.toList := by
      rw [hword]
      simp [unquote]
    simp only [htrim, hint, hfloat, hquoted, String.ofList_toList]
  | bool | float | date => exact h.elim

end Values

/-! ### Fields and operators -/

section Fields

variable {field : String} {rest : List Char}

theorem not_field_of_isBlank {c : Char} (h : Text.isBlank c = true) :
    startsField c = false ∧ continuesField c = false :=
  Text.of_isBlank (P := fun c => startsField c = false ∧ continuesField c = false) h
    (by decide +kernel)

theorem isBlank_eq_false_of_field {c : Char}
    (h : startsField c = true ∨ continuesField c = true) : Text.isBlank c = false := by
  by_contra hblank
  obtain ⟨hstart, hcontinue⟩ := not_field_of_isBlank (Bool.not_eq_false _ ▸ hblank)
  rcases h with h | h
  · rw [hstart] at h
    cases h
  · rw [hcontinue] at h
    cases h

theorem IsFieldName.tight (h : IsFieldName field) : Text.Tight field.toList := by
  obtain ⟨c, s, heq, hstart, hcontinue⟩ := h
  rw [heq]
  refine .of_forall (List.cons_ne_nil c s) fun d hd => isBlank_eq_false_of_field ?_
  rcases List.mem_cons.mp hd with rfl | hd
  · exact Or.inl hstart
  · exact Or.inr (hcontinue d hd)

/-- A field is taken off whole where no field character follows it. -/
theorem takeField_append (h : IsFieldName field)
    (hrest : ∃ c s, rest = c :: s ∧ continuesField c = false) :
    takeField (field.toList ++ rest) = some (field, Text.dropBlanks rest) := by
  have htight := h.tight
  obtain ⟨c, s, heq, hstart, hcontinue⟩ := h
  obtain ⟨d, t, rfl, hend⟩ := hrest
  have htake : (s ++ d :: t).takeWhile continuesField = s := by
    rw [List.takeWhile_append_of_pos hcontinue, List.takeWhile_cons_of_neg (by simp [hend]),
      List.append_nil]
  have hdrop : (s ++ d :: t).dropWhile continuesField = d :: t := by
    rw [List.dropWhile_append_of_pos hcontinue, List.dropWhile_cons_of_neg (by simp [hend])]
  have hblank : Text.isBlank c = false := isBlank_eq_false_of_field (Or.inl hstart)
  have hfield : String.ofList (c :: s) = field := by rw [← heq, String.ofList_toList]
  rw [takeField, heq, List.cons_append, Text.dropBlanks_of_head hblank]
  simp only [hstart, if_true, htake, hdrop, hfield]

theorem takeOperator_text (op : Operator) (s : List Char) :
    takeOperator (op.text.toList ++ ' ' :: s) = some (op, ' ' :: s) := by
  cases op <;> rfl

theorem dropBlanks_text (op : Operator) (s : List Char) :
    Text.dropBlanks (' ' :: (op.text.toList ++ s)) = op.text.toList ++ s := by
  cases op <;> rfl

end Fields

/-! ### Conditions and sort orders -/

section Readers

variable {context : Context}

theorem parseClause_conditionWords {p : Predicate context} (h : p.Sayable) :
    ∃ op : Operator, op.text = p.operator ∧
      parseClause (conditionWords p) = .ok (p.field, op, p.value) := by
  obtain ⟨op, hop⟩ := h.operator
  refine ⟨op, hop.symm, ?_⟩
  have hwords : (conditionWords p).toList =
      p.field.toList ++ ' ' :: (op.text.toList ++ ' ' :: (valueWord p.value).toList) := by
    simp [conditionWords, hop]
  have htight := tight_valueWord h.value
  have hline : '\n' ∉ (valueWord p.value).toList :=
    not_mem_valueWord h.value (List.mem_singleton_self _) (by decide) (by decide) (by decide)
  have hparts : clauseParts (conditionWords p).toList = some (p.field, op, valueWord p.value) := by
    rw [clauseParts, hwords, takeField_append h.field ⟨' ', _, rfl, by decide⟩]
    simp [dropBlanks_text, takeOperator_text, Text.dropBlanks_blank htight,
      htight.dropBlanksRight, hline]
  rw [parseClause, hparts]
  simp only [parseValue_valueWord h.value]

theorem mem_intercalate {c sep : Char} {words : List (List Char)}
    (h : c ∈ [sep].intercalate words) : c = sep ∨ ∃ word ∈ words, c ∈ word := by
  induction words with
  | nil => cases h
  | cons word words ih =>
    by_cases hwords : words = []
    · rw [hwords, List.intercalate_singleton] at h
      exact Or.inr ⟨word, List.mem_cons_self, h⟩
    · rw [List.intercalate_cons_of_ne_nil hwords, List.mem_append, List.mem_append,
        List.mem_singleton] at h
      rcases h with (h | h) | h
      · exact Or.inr ⟨word, List.mem_cons_self, h⟩
      · exact Or.inl h
      · refine (ih h).imp_right fun ⟨other, hother, hc⟩ => ?_
        exact ⟨other, List.mem_cons_of_mem word hother, hc⟩

/-- Words with commas between them begin with the first character of the first. -/
theorem head_intercalate {sep : List Char} {words : List (List Char)} (hne : words ≠ [])
    (h : ∀ word ∈ words, Text.Tight word) :
    ∃ c s, sep.intercalate words = c :: s ∧ Text.isBlank c = false := by
  cases words with
  | nil => exact absurd rfl hne
  | cons word words =>
    obtain ⟨c, t, rfl, hc⟩ := (h word List.mem_cons_self).head
    exact ⟨c, sep.intercalate (t :: words), List.intercalate_cons_cons_left, hc⟩

theorem setText_eq_some {s : List Char} (hhead : ∃ c t, s = c :: t ∧ Text.isBlank c = false)
    (hline : '\n' ∉ s) : setText s = some s := by
  obtain ⟨c, t, rfl, hc⟩ := hhead
  have hdrop : Text.dropBlanks (c :: t) = c :: t := Text.dropBlanks_of_head hc
  simp only [setText, hdrop]
  simp_all

theorem atCommas_intercalate {words : List String} (hne : words ≠ [])
    (h : ∀ word ∈ words, ',' ∉ word.toList) :
    atCommas (String.ofList ([','].intercalate (words.map String.toList))) = words := by
  have hcommas : ∀ word ∈ words.map String.toList, ',' ∉ word := List.forall_mem_map.mpr h
  rw [atCommas, String.toList_ofList, List.splitOn_intercalate _ hcommas (by simpa using hne),
    List.map_map]
  exact (List.map_congr_left fun word _ => String.ofList_toList).trans (List.map_id words)

/-- What is said of values one after the other is read as those values. -/
theorem parseValues_valueWords {without : List Char} {vs : List Scalar}
    (h : ∀ v ∈ vs, IsSayable without v) :
    (((vs.map valueWord).map Text.trim).filter (!·.isEmpty)).map parseValue = vs := by
  have htrim : (vs.map valueWord).map Text.trim = vs.map valueWord := by
    rw [List.map_map]
    exact List.map_congr_left fun v hv => (tight_valueWord (h v hv)).trim
  have hnonempty : (vs.map valueWord).filter (!·.isEmpty) = vs.map valueWord := by
    refine List.filter_eq_self.mpr (List.forall_mem_map.mpr fun v hv => ?_)
    rw [(tight_valueWord (h v hv)).isEmpty]
    rfl
  have hvalues : ∀ v ∈ vs, (parseValue ∘ valueWord) v = id v := by
    intro v hv
    rw [Function.comp_apply, parseValue_valueWord (h v hv), id]
  rw [htrim, hnonempty, List.map_map, List.map_congr_left hvalues, List.map_id]

theorem parseSet_setWords {p : SetPredicate context} (h : p.Sayable) :
    parseSet (setWords p) = .ok (p.field, p.values) := by
  let words := p.values.map valueWord
  let joined := [','].intercalate (words.map String.toList)
  have hne : words ≠ [] := by simpa [words] using h.nonempty
  have htight : ∀ word ∈ words.map String.toList, Text.Tight word := by
    simp only [words, List.map_map, List.forall_mem_map]
    exact fun v hv => tight_valueWord (h.values v hv)
  have hwithout : ∀ c ∈ ['\n', ','], ∀ word ∈ words, c ∉ word.toList := by
    intro c hc
    have hcases : c = '\n' ∨ c = ',' := by simpa using hc
    refine List.forall_mem_map.mpr fun v hv => not_mem_valueWord (h.values v hv) hc ?_ ?_ ?_
    all_goals rcases hcases with rfl | rfl <;> decide
  have hline : '\n' ∉ joined := by
    intro hmem
    rcases mem_intercalate hmem with heq | ⟨word, hword, hmem⟩
    · exact absurd heq (by decide)
    · obtain ⟨said, hsaid, rfl⟩ := List.mem_map.mp hword
      exact hwithout '\n' (by simp) said hsaid hmem
  have hset : setText joined = some joined :=
    setText_eq_some (head_intercalate (by simpa using hne) htight) hline
  have hwords : (setWords p).toList = p.field.toList ++ '=' :: joined := by
    simp [setWords, joined, words]
  have hequals : Text.dropBlanks ('=' :: joined) = '=' :: joined :=
    Text.dropBlanks_of_head (by decide)
  have hcommas : atCommas (String.ofList joined) = words :=
    atCommas_intercalate hne (hwithout ',' (by simp))
  rw [parseSet, hwords, takeField_append h.field ⟨'=', joined, rfl, by decide⟩, hequals]
  simp only [Option.bind_eq_bind, Option.bind_some, hset, hcommas,
    words, parseValues_valueWords h.values]

theorem splitLast_colon {s t : List Char} (h : ':' ∉ t) :
    splitLast (s ++ ':' :: t) = (s, some t) := by
  have hnot : ∀ c ∈ t.reverse, (c != ':') = true := by
    intro c hc
    simp only [List.mem_reverse, bne_iff_ne] at hc ⊢
    exact fun heq => h (heq ▸ hc)
  have htake : (s ++ ':' :: t).reverse.takeWhile (· != ':') = t.reverse := by
    rw [List.reverse_append, List.reverse_cons, List.append_assoc,
      List.takeWhile_append_of_pos hnot, List.singleton_append,
      List.takeWhile_cons_of_neg (by decide), List.append_nil]
  have hlength : (s ++ ':' :: t).length - t.length - 1 = s.length := by
    rw [List.length_append, List.length_cons]
    omega
  have hne : t.length ≠ (s ++ ':' :: t).length := by
    rw [List.length_append, List.length_cons]
    omega
  rw [splitLast, htake, List.reverse_reverse, if_neg hne, hlength, List.take_left]

theorem map_toLower_direction (up : Bool) :
    (Text.trim (if up then "asc" else "desc")).map Char.toLower = if up then "asc" else "desc" := by
  have hletters : (if up then "asc" else "desc").toList.all (!Text.isBlank ·) = true := by
    cases up <;> decide
  have htight : Text.Tight (if up then "asc" else "desc").toList := by
    refine .of_forall (by cases up <;> decide) fun c hc => ?_
    simpa using List.all_eq_true.mp hletters c hc
  rw [htight.trim, ← String.toList_inj, String.toList_map]
  cases up <;> rfl

theorem parseSort_sortWords {s : SortKey} (h : s.Sayable) :
    parseSort (sortWords s) = .ok (s.field, s.ascending) := by
  have hwords : (sortWords s).toList =
      s.field.toList ++ ':' :: (if s.ascending then "asc" else "desc").toList := by
    simp [sortWords]
  have hcolon : ':' ∉ (if s.ascending then "asc" else "desc").toList := by
    cases s.ascending <;> decide
  simp only [parseSort, hwords, splitLast_colon hcolon, Option.getD_some, String.ofList_toList,
    h.1.tight.trim, h.1.tight.isEmpty, map_toLower_direction]
  cases s.ascending <;> rfl

end Readers

/-! ### What the options come to -/

namespace QueryOptions

section Calls

variable {context : Context}

theorem clauseCalls_conditionWords {make : String → String → Scalar → Clause}
    {ps : List (Predicate context)} (h : ∀ p ∈ ps, p.Sayable) :
    clauseCalls make (ps.map conditionWords) =
      .ok (ps.map fun p => .clause (make p.field p.operator p.value)) := by
  rw [clauseCalls, mapM_eq_ok_iff, List.map_map, List.map_map]
  refine List.map_congr_left fun p hp => ?_
  obtain ⟨op, hop, hparse⟩ := parseClause_conditionWords (h p hp)
  rw [Function.comp_apply, hparse, Function.comp_apply, ← hop]
  rfl

theorem setCalls_setWords {make : String → List Scalar → Clause}
    {ps : List (SetPredicate context)} (h : ∀ p ∈ ps, p.Sayable) :
    setCalls make (ps.map setWords) = .ok (ps.map fun p => .clause (make p.field p.values)) := by
  rw [setCalls, mapM_eq_ok_iff, List.map_map, List.map_map]
  refine List.map_congr_left fun p hp => ?_
  rw [Function.comp_apply, parseSet_setWords (h p hp)]
  rfl

theorem sortCalls_sortWords {keys : List SortKey} (h : ∀ s ∈ keys, s.Sayable) :
    sortCalls (keys.map sortWords) = .ok (keys.map Call.orderBy) := by
  rw [sortCalls, mapM_eq_ok_iff, List.map_map, List.map_map]
  refine List.map_congr_left fun s hs => ?_
  rw [Function.comp_apply, parseSort_sortWords (h s hs), Function.comp_apply, ← (h s hs).2]
  rfl

end Calls

end QueryOptions

/-- The kinds of conditions that there are options for, in the order of the options. -/
def optionKinds : List ClauseKind :=
  [.where_, .whereIn, .whereNotIn, .filter, .filterIn, .match_, .matchIn, .phrase]

end CommandLine

/-! ### Queries that can be said -/

/-- What is kept by calls that there are words for. -/
structure Builder.Sayable (b : Builder) : Prop where
  clauses : ∀ c ∈ b.clauses, c.Sayable
  nested : b.nested = []
  sorts : ∀ s ∈ b.sorts, s.Sayable
  groupBy : b.groupBy ≠ some []
  schema : b.schema = none

section Said

variable {b : Builder}

theorem Builder.Sayable.apply (h : b.Sayable) {call : Call} (hcall : call.Sayable) :
    (b.apply call).Sayable := by
  cases call with
  | clause c =>
    refine ⟨fun d hd => ?_, h.nested, h.sorts, h.groupBy, h.schema⟩
    rcases Clauses.mem_add.mp hd with hd | rfl
    · exact h.clauses d hd
    · exact hcall
  | orderBy s =>
    refine ⟨h.clauses, h.nested, ?_, h.groupBy, h.schema⟩
    exact List.forall_mem_append.mpr ⟨h.sorts, List.forall_mem_singleton.mpr hcall⟩
  | groupBy fields =>
    exact ⟨h.clauses, h.nested, h.sorts, fun heq => hcall (Option.some.inj heq), h.schema⟩
  | limit | offset | stats => exact ⟨h.clauses, h.nested, h.sorts, h.groupBy, h.schema⟩
  | nestedClause | clear => exact hcall.elim

theorem Builder.Sayable.applyAll {calls : CallLog} (h : b.Sayable)
    (hcalls : ∀ call ∈ calls, call.Sayable) : (b.applyAll calls).Sayable := by
  induction calls generalizing b with
  | nil => exact h
  | cons call calls ih =>
    obtain ⟨hcall, hcalls⟩ := List.forall_mem_cons.mp hcalls
    exact ih (h.apply hcall) hcalls

/-- The calls that the options of a query come to: its parts one after the other. -/
def Builder.restated (b : Builder) : CallLog :=
  (optionKinds.flatMap b.clauses.ofKind).map .clause ++ b.sorts.map .orderBy ++
    (b.limit.map Call.limit).toList ++ (b.offset.map Call.offset).toList ++
    QueryOptions.namesCall .groupBy (b.groupBy.getD []) ++ QueryOptions.namesCall .stats b.stats

theorem calls_ofBuilder (h : b.Sayable) : (QueryOptions.ofBuilder b).calls = .ok b.restated := by
  have hclauses := Clauses.forall_mem_iff.mp h.clauses
  obtain ⟨hwhereIns, hwhereNotIns, hwheres, hfilterIns, hfilters, hmatchIns, -, hmatches, -, -,
    hphrases⟩ := hclauses
  rw [QueryOptions.calls, QueryOptions.ofBuilder]
  simp only [QueryOptions.clauseCalls_conditionWords hwheres,
    QueryOptions.clauseCalls_conditionWords hfilters,
    QueryOptions.clauseCalls_conditionWords hmatches,
    QueryOptions.clauseCalls_conditionWords hphrases,
    QueryOptions.setCalls_setWords hwhereIns, QueryOptions.setCalls_setWords hwhereNotIns,
    QueryOptions.setCalls_setWords hfilterIns, QueryOptions.setCalls_setWords hmatchIns,
    QueryOptions.sortCalls_sortWords h.sorts, ok_bind]
  simp [Builder.restated, optionKinds, Clauses.ofKind, pure, Except.pure, Function.comp_def]

theorem Clauses.kind_of_mem_ofKind {cs : Clauses} {kind : ClauseKind} {c : Clause}
    (h : c ∈ cs.ofKind kind) : c.kind = kind := by
  cases kind <;>
  · obtain ⟨p, -, rfl⟩ := List.mem_map.mp h
    rfl

theorem Clauses.filter_flatMap_ofKind (cs : Clauses) {kinds : List ClauseKind}
    (hnodup : kinds.Nodup) (kind : ClauseKind) :
    (kinds.flatMap cs.ofKind).filter (fun c => c.kind = kind) =
      if kind ∈ kinds then cs.ofKind kind else [] := by
  induction kinds with
  | nil => rfl
  | cons first kinds ih =>
    obtain ⟨hfirst, hkinds⟩ := List.nodup_cons.mp hnodup
    rw [List.flatMap_cons, List.filter_append, ih hkinds]
    by_cases heq : first = kind
    · subst heq
      have hall : (cs.ofKind first).filter (fun c => c.kind = first) = cs.ofKind first :=
        List.filter_eq_self.mpr fun c hc => by simpa using kind_of_mem_ofKind hc
      rw [hall, if_neg hfirst, List.append_nil, if_pos List.mem_cons_self]
    · have hnone : (cs.ofKind first).filter (fun c => c.kind = kind) = [] :=
        List.filter_eq_nil_iff.mpr fun c hc => by simpa [kind_of_mem_ofKind hc] using heq
      rw [hnone, List.nil_append]
      simp [Ne.symm heq]

theorem Clause.Sayable.kind_mem {c : Clause} (h : c.Sayable) : c.kind ∈ optionKinds := by
  cases c with
  | matchNotIn | phraseIn | phraseNotIn => exact h.elim
  | _ => simp [Clause.kind, optionKinds]

/-- Where all kinds of conditions have options, the conditions of the options are all. -/
theorem ofList_optionKinds (h : b.Sayable) :
    Clauses.ofList (optionKinds.flatMap b.clauses.ofKind) = b.clauses := by
  refine Clauses.eq_of_ofKind_eq fun kind => ?_
  rw [Clauses.ofKind_ofList, Clauses.filter_flatMap_ofKind _ (by decide)]
  split
  · rfl
  · next hkind =>
    refine (List.eq_nil_iff_forall_not_mem.mpr fun c hc => hkind ?_).symm
    have hckind : c.kind = kind := Clauses.kind_of_mem_ofKind hc
    have hmem : c ∈ b.clauses := Clauses.mem_iff_mem_ofKind.mpr (by rwa [hckind])
    exact hckind ▸ (h.clauses c hmem).kind_mem

theorem Builder.applyAll_clauses (b : Builder) (cs : List Clause) :
    b.applyAll (cs.map .clause) = { b with clauses := cs.foldl Clauses.add b.clauses } := by
  induction cs generalizing b with
  | nil => rfl
  | cons c cs ih => exact ih (b.apply (.clause c))

theorem Builder.applyAll_sorts (b : Builder) (keys : List SortKey) :
    b.applyAll (keys.map .orderBy) = { b with sorts := b.sorts ++ keys } := by
  induction keys generalizing b with
  | nil => simp [applyAll]
  | cons key keys ih =>
    refine (ih (b.apply (.orderBy key))).trans ?_
    simp [Builder.apply]

theorem Builder.applyAll_limit (b : Builder) (n : Option Int64) :
    b.applyAll (n.map Call.limit).toList = { b with limit := n.or b.limit } := by
  cases n <;> rfl

theorem Builder.applyAll_offset (b : Builder) (n : Option Int64) :
    b.applyAll (n.map Call.offset).toList = { b with offset := n.or b.offset } := by
  cases n <;> rfl

theorem Builder.applyAll_groupBy (b : Builder) {fields : Option (List String)}
    (h : fields ≠ some []) :
    b.applyAll (QueryOptions.namesCall .groupBy (fields.getD [])) =
      { b with groupBy := fields.or b.groupBy } := by
  cases fields with
  | none => rfl
  | some fields =>
    cases fields with
    | nil => exact absurd rfl h
    | cons => rfl

theorem Builder.applyAll_stats (b : Builder) (fields : List String) :
    b.applyAll (QueryOptions.namesCall .stats fields) = { b with stats := b.stats ++ fields } := by
  cases fields with
  | nil => simp [QueryOptions.namesCall, applyAll]
  | cons => rfl

theorem applyAll_restated (h : b.Sayable) : ({} : Builder).applyAll b.restated = b := by
  have hclauses : (optionKinds.flatMap b.clauses.ofKind).foldl Clauses.add {} = b.clauses :=
    ofList_optionKinds h
  simp only [Builder.restated, Builder.applyAll_append, Builder.applyAll_clauses,
    Builder.applyAll_sorts, Builder.applyAll_limit, Builder.applyAll_offset,
    Builder.applyAll_groupBy _ h.groupBy, Builder.applyAll_stats, hclauses, List.nil_append,
    Option.or_none, ← h.nested, ← h.schema]

/-- **What can be said is understood.** Every query that is built by calls for which there are
words, on a new query, comes back from the options that say it: all values with their kinds, all
operators and fields, and the order of the conditions of each kind and of the sort keys. -/
theorem Builder.toBuilder_ofBuilder_applyAll (calls : CallLog)
    (h : ∀ call ∈ calls, call.Sayable) :
    (QueryOptions.ofBuilder (({} : Builder).applyAll calls)).toBuilder =
      .ok (({} : Builder).applyAll calls) := by
  have hempty : ({} : Builder).Sayable :=
    ⟨fun c hc => absurd hc (Clauses.not_mem_empty c), rfl, by simp, by simp, rfl⟩
  have hsaid := hempty.applyAll h
  rw [QueryOptions.toBuilder, calls_ofBuilder hsaid]
  exact congrArg Except.ok (applyAll_restated hsaid)

/-- A text that looks like a number in quotes, one that begins like an operator, and others. -/
def quotedCalls : CallLog := [
  .clause (.where_ ⟨"a.b-c", "<>", .text "\"007\""⟩),
  .orderBy ⟨"year", false, none⟩,
  .clause (.whereIn ⟨"@id", [.int (-1), .text "= 2 ", .text ""]⟩),
  .groupBy ["year"], .limit 5]

theorem Builder.toBuilder_quotedCalls :
    (∀ call ∈ quotedCalls, call.Sayable) ∧
      (QueryOptions.ofBuilder (({} : Builder).applyAll quotedCalls)).wheres =
        ["a.b-c <> \"\"007\"\""] ∧
      (QueryOptions.ofBuilder (({} : Builder).applyAll quotedCalls)).whereIns =
        ["@id=-1,\"= 2 \",\"\""] ∧
      (QueryOptions.ofBuilder (({} : Builder).applyAll quotedCalls)).toBuilder =
        .ok (({} : Builder).applyAll quotedCalls) := by
  have hsayable : ∀ call ∈ quotedCalls, call.Sayable := by
    simp only [quotedCalls, List.forall_mem_cons, List.not_mem_nil, false_implies, implies_true,
      and_true]
    refine ⟨⟨⟨'a', _, rfl, by decide, List.all_eq_true.mp (by decide)⟩, ⟨.ne, rfl⟩, by simp [IsSayable]⟩,
      ⟨⟨'y', _, rfl, by decide, List.all_eq_true.mp (by decide)⟩, rfl⟩,
      ⟨⟨'@', _, rfl, by decide, List.all_eq_true.mp (by decide)⟩, by simp, ?_⟩, by simp [Call.Sayable], trivial⟩
    simp [IsSayable]
  exact ⟨hsayable, by decide, by decide, toBuilder_ofBuilder_applyAll quotedCalls hsayable⟩

end Said

end DocSearch
