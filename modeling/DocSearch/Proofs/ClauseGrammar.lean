import DocSearch.Proofs.Blanks
import DocSearch.Proofs.Patterns
import DocSearch.Proofs.Wording

/-!
# The grammar of conditions

A condition on a command line is blanks, a field, blanks, an operator, blanks, a value in one line,
and blanks. The operator is as long as it can be, and the value has no blanks at its ends. Both the
reader of conditions and a pattern with these parts, of which the first way counts, read exactly
such texts, and each in one way.

What keeps the ways from differing is that no character is of two minds: a blank begins neither a
field nor an operator, no operator has a character of a field, and a line end inside a value stays
inside of it wherever the value is taken to begin.
-/

namespace DocSearch.CommandLine

open Text

/-! ### Operators -/

/-- An operator that a text begins with, as long as it can be. -/
def IsLongest (op : Operator) (s : List Char) : Prop :=
  op.text.toList <+: s ∧
    ∀ other : Operator, other.text.toList <+: s → other.text.toList.length ≤ op.text.toList.length

section Operators

variable {op : Operator} {s rest : List Char} {c : Char}

theorem takeOperator_eq_some (h : takeOperator s = some (op, rest)) :
    s = op.text.toList ++ rest ∧ IsLongest op s := by
  have hlongest {first : Char} (hne : ∀ t, rest ≠ first :: t) : ¬ [first] <+: rest :=
    fun ⟨t, ht⟩ => hne t ht.symm
  unfold takeOperator at h
  split at h
  case h_7 => cases h
  all_goals
    obtain ⟨rfl, rfl⟩ := Prod.mk.inj (Option.some.inj h)
    refine ⟨rfl, ⟨_, rfl⟩, fun other hother => ?_⟩
    cases other <;> simp_all [Operator.text]

/-- What follows an operator does not make a longer one of it. -/
theorem takeOperator_append (h : IsLongest op (op.text.toList ++ rest)) :
    takeOperator (op.text.toList ++ rest) = some (op, rest) := by
  obtain ⟨-, hlongest⟩ := h
  cases op with
  | eq | ne | gte | lte => rfl
  | gt =>
    have hequals (t : List Char) : rest ≠ '=' :: t := by
      rintro rfl
      exact absurd (hlongest .gte ⟨t, rfl⟩) (by decide)
    show takeOperator ('>' :: rest) = _
    unfold takeOperator
    split <;> simp_all
  | lt =>
    have hequals (t : List Char) : rest ≠ '=' :: t := by
      rintro rfl
      exact absurd (hlongest .lte ⟨t, rfl⟩) (by decide)
    have hgreater (t : List Char) : rest ≠ '>' :: t := by
      rintro rfl
      exact absurd (hlongest .ne ⟨t, rfl⟩) (by decide)
    show takeOperator ('<' :: rest) = _
    unfold takeOperator
    split <;> simp_all

theorem takeOperator_eq_none (h : c ∉ ['<', '>', '=']) : takeOperator (c :: s) = none := by
  unfold takeOperator
  split <;> simp_all

end Operators

/-! ### Texts of conditions -/

/-- A text reads as a condition: the field, the operator and the value, with blanks around. -/
structure Spells (raw : List Char) (field : String) (op : Operator) (value : List Char) : Prop where
  name : IsFieldName field
  line : '\n' ∉ value
  unspaced : Unspaced value
  split : ∃ b₁ b₂ b₃ b₄, AllBlank b₁ ∧ AllBlank b₂ ∧ AllBlank b₃ ∧ AllBlank b₄ ∧
    raw = b₁ ++ (field.toList ++ (b₂ ++ (op.text.toList ++ (b₃ ++ (value ++ b₄))))) ∧
    IsLongest op (op.text.toList ++ (b₃ ++ (value ++ b₄)))

section Reading

variable {field : String} {op : Operator} {raw s rest : List Char} {value : String} {c : Char}

theorem not_mem_operators_of_continuesField (h : continuesField c = true) :
    c ∉ ['<', '>', '='] := by
  intro hc
  have hcases : c = '<' ∨ c = '>' ∨ c = '=' := by simpa using hc
  rcases hcases with rfl | rfl | rfl <;> exact absurd h (by decide)

theorem not_mem_operators_of_isBlank (h : isBlank c = true) : c ∉ ['<', '>', '='] := by
  intro hc
  have hcases : c = '<' ∨ c = '>' ∨ c = '=' := by simpa using hc
  rcases hcases with rfl | rfl | rfl <;> exact absurd h (by decide)

/-- What follows the blanks after a field does not begin with a character of the field. -/
theorem continuesField_operator {b : List Char} (hb : AllBlank b) (op : Operator)
    (rest : List Char) :
    ∃ c s, b ++ (op.text.toList ++ rest) = c :: s ∧ continuesField c = false := by
  cases b with
  | nil =>
    cases op <;> exact ⟨_, _, rfl, by decide⟩
  | cons c b =>
    exact ⟨c, _, rfl, (not_field_of_isBlank (hb c List.mem_cons_self)).2⟩

theorem dropBlanks_operator (op : Operator) (rest : List Char) :
    dropBlanks (op.text.toList ++ rest) = op.text.toList ++ rest := by
  cases op <;> rfl

theorem takeField_eq_some (h : takeField s = some (field, rest)) :
    IsFieldName field ∧ ∃ b₁ b₂, AllBlank b₁ ∧ AllBlank b₂ ∧
      s = b₁ ++ (field.toList ++ (b₂ ++ rest)) := by
  obtain ⟨b₁, hb₁, hs⟩ := exists_blanks_append s
  unfold takeField at h
  split at h
  · next c t hdrop =>
    split at h
    · next hstart =>
      obtain ⟨rfl, rfl⟩ := Prod.mk.inj (Option.some.inj h)
      obtain ⟨b₂, hb₂, ht⟩ := exists_blanks_append (t.dropWhile continuesField)
      refine ⟨⟨c, _, String.toList_ofList, hstart, fun d hd => ?_⟩, b₁, b₂, hb₁, hb₂, ?_⟩
      · exact List.all_eq_true.mp List.all_takeWhile d hd
      · rw [← ht, String.toList_ofList, List.cons_append, List.takeWhile_append_dropWhile, ← hdrop]
        exact hs
    · cases h
  · cases h

theorem clauseParts_eq_some_iff :
    clauseParts raw = some (field, op, value) ↔ Spells raw field op value.toList := by
  constructor
  · intro h
    obtain ⟨⟨field', s⟩, hfield, h⟩ := Option.bind_eq_some_iff.mp h
    obtain ⟨⟨op', rest⟩, hop, h⟩ := Option.bind_eq_some_iff.mp h
    dsimp only at hop h
    split at h
    · cases h
    · next hline =>
      simp only [Option.some.injEq, Prod.mk.injEq] at h
      obtain ⟨rfl, rfl, rfl⟩ := h
      obtain ⟨hname, b₁, b₂, hb₁, hb₂, hraw⟩ := takeField_eq_some hfield
      obtain ⟨hs, hlongest⟩ := takeOperator_eq_some hop
      obtain ⟨b₃, hb₃, hleft⟩ := exists_blanks_append rest
      obtain ⟨b₄, hb₄, hright⟩ := exists_append_blanks (dropBlanks rest)
      have hvalue : rest = b₃ ++ (dropBlanksRight (dropBlanks rest) ++ b₄) := by
        rw [← hright]
        exact hleft
      rw [String.toList_ofList]
      refine ⟨hname, by simpa using hline, unspaced_trimmed rest,
        b₁, b₂, b₃, b₄, hb₁, hb₂, hb₃, hb₄, ?_, ?_⟩
      · rw [← hvalue, ← hs]
        exact hraw
      · rw [← hvalue, ← hs]
        exact hlongest
  · rintro ⟨hname, hline, hunspaced, b₁, b₂, b₃, b₄, hb₁, hb₂, hb₃, hb₄, rfl, hlongest⟩
    have hfield : takeField
        (b₁ ++ (field.toList ++ (b₂ ++ (op.text.toList ++ (b₃ ++ (value.toList ++ b₄)))))) =
          some (field, op.text.toList ++ (b₃ ++ (value.toList ++ b₄))) := by
      have hskip (s : List Char) : takeField (b₁ ++ s) = takeField s := by
        rw [takeField, takeField, dropBlanks_append hb₁]
      rw [hskip, takeField_append hname (continuesField_operator hb₂ _ _),
        dropBlanks_append hb₂, dropBlanks_operator]
    rw [clauseParts, hfield]
    simp [takeOperator_append hlongest, hunspaced.trimmed_append hb₃ hb₄, hline]

end Reading

/-! ### The pattern -/

/-- A value up to the end of the text. -/
def valuePattern : Pattern :=
  .andThen (.group (.few (· != '\n'))) (.andThen (.many isBlank) .atEnd)

def operatorPattern : Pattern :=
  .andThen (.group (.words ["<>", ">=", "<=", "=", ">", "<"]))
    (.andThen (.many isBlank) valuePattern)

def fieldPattern : Pattern := .andThen (.one startsField) (.many continuesField)

/-- A whole condition: `^\s*(FIELD)\s*(<>|>=|<=|=|>|<)\s*(.*?)\s*$`. -/
def clausePattern : Pattern :=
  .andThen (.many isBlank) <|
    .andThen (.group fieldPattern) (.andThen (.many isBlank) operatorPattern)

section Captures

variable {c : Char} {s : List Char}

theorem dropBlanks_eq_nil_iff : dropBlanks s = [] ↔ AllBlank s := by
  rw [dropBlanks, List.dropWhile_eq_nil_iff]
  rfl

/-- A character before a text that is not all blank stays there when blanks are taken off the
end. -/
theorem dropBlanksRight_cons (h : dropBlanks (c :: s) ≠ []) :
    dropBlanksRight (c :: s) = c :: dropBlanksRight s := by
  rw [dropBlanksRight, dropBlanksRight, List.reverse_cons, dropBlanks, List.dropWhile_append]
  split
  · next hempty =>
    rw [List.isEmpty_iff] at hempty
    have hs : AllBlank s := by
      have hreverse := dropBlanks_eq_nil_iff.mp hempty
      rw [← List.reverse_reverse s]
      exact hreverse.reverse
    have hc : isBlank c = false := by
      by_contra hblank
      rw [Bool.not_eq_false] at hblank
      exact h (dropBlanks_eq_nil_iff.mpr (List.forall_mem_cons.mpr ⟨hblank, hs⟩))
    rw [dropBlanks, hempty, List.dropWhile_cons_of_neg (by simp [hc])]
    rfl
  · rw [List.reverse_append]
    rfl

theorem dropBlanksRight_of_allBlank (h : AllBlank s) : dropBlanksRight s = [] := by
  rw [dropBlanksRight, dropBlanks_eq_nil_iff.mpr h.reverse, List.reverse_nil]

theorem captures_blanks_atEnd :
    ((Pattern.many isBlank).andThen .atEnd).captures s =
      if dropBlanks s = [] then some [] else none := by
  rw [captures_many_andThen fun c r _ _ => rfl]
  show (if dropBlanks s = [] then [_] else []).head?.map Way.groups = _
  split <;> rfl

/-- The shortest beginning of a line after which there are only blanks is the text without the
blanks at its end. -/
theorem findSome?_shortestFirst {β : Type} (f : List Char → List (List Char) → β) (s : List Char) :
    ((shortestFirst (· != '\n') s).findSome? fun x =>
        if dropBlanks x.rest = [] then some (f x.taken x.groups) else none) =
      if '\n' ∈ dropBlanksRight s then none else some (f (dropBlanksRight s) []) := by
  induction s generalizing f with
  | nil => rfl
  | cons c s ih =>
    rw [shortestFirst, List.findSome?_cons]
    by_cases hblank : dropBlanks (c :: s) = []
    · have hempty := dropBlanksRight_of_allBlank (dropBlanks_eq_nil_iff.mp hblank)
      simp [hblank, hempty]
    · rw [if_neg hblank, dropBlanksRight_cons hblank]
      by_cases hc : c = '\n'
      · simp [hc]
      · have htail := ih fun taken groups => f (c :: taken) groups
        simp only [bne_iff_ne, ne_eq, hc, not_false_eq_true, if_true, List.findSome?_map,
          List.mem_cons, Ne.symm hc, false_or]
        exact htail

theorem captures_valuePattern :
    valuePattern.captures s =
      if '\n' ∈ dropBlanksRight s then none else some [dropBlanksRight s] := by
  have hrest (x : Way) : (((Pattern.many isBlank).andThen .atEnd).captures x.rest).map
      (x.taken :: x.groups ++ ·) =
        if dropBlanks x.rest = [] then some (x.taken :: x.groups) else none := by
    rw [captures_blanks_atEnd]
    split <;> simp
  rw [valuePattern, captures_group_andThen, Pattern.ways]
  simp only [hrest]
  exact findSome?_shortestFirst (fun taken groups => taken :: groups) s

/-- A line end that the blanks at the end of a text do not hold is not lost by putting something
before the text. -/
theorem captures_valuePattern_cons (c : Char) (h : valuePattern.captures s = none) :
    valuePattern.captures (c :: s) = none := by
  rw [captures_valuePattern] at h ⊢
  have hmem : '\n' ∈ dropBlanksRight s := by
    by_contra hnot
    rw [if_neg hnot] at h
    cases h
  have hblank : dropBlanks (c :: s) ≠ [] := by
    intro hempty
    have hall := dropBlanks_eq_nil_iff.mp hempty
    rw [dropBlanksRight_of_allBlank fun d hd => hall d (List.mem_cons_of_mem c hd)] at hmem
    cases hmem
  rw [dropBlanksRight_cons hblank, if_pos (List.mem_cons_of_mem c hmem)]

theorem captures_blanks_valuePattern :
    ((Pattern.many isBlank).andThen valuePattern).captures s =
      if '\n' ∈ dropBlanksRight (dropBlanks s) then none
      else some [dropBlanksRight (dropBlanks s)] := by
  rw [captures_many_andThen fun c r _ hnone => captures_valuePattern_cons c hnone,
    captures_valuePattern]
  rfl

/-- If there is no value after an operator, then there is none after a shorter one. -/
theorem captures_blanks_valuePattern_cons (hc : isBlank c = false)
    (h : ((Pattern.many isBlank).andThen valuePattern).captures s = none) :
    ((Pattern.many isBlank).andThen valuePattern).captures (c :: s) = none := by
  have hskip (s : List Char) : ((Pattern.many isBlank).andThen valuePattern).captures s =
      valuePattern.captures (s.dropWhile isBlank) :=
    captures_many_andThen fun c r _ hnone => captures_valuePattern_cons c hnone
  have hgrow (b : List Char) (r : List Char) (hr : valuePattern.captures r = none) :
      valuePattern.captures (b ++ r) = none := by
    induction b with
    | nil => exact hr
    | cons d b ih => exact captures_valuePattern_cons d ih
  rw [hskip] at h ⊢
  rw [List.dropWhile_cons_of_neg (by simp [hc]), ← s.takeWhile_append_dropWhile (p := isBlank)]
  exact hgrow (c :: s.takeWhile isBlank) _ h

theorem not_singleton_prefix {a : Char} (h : ∀ t, s = a :: t → False) : ¬ [a] <+: s := by
  rintro ⟨t, rfl⟩
  exact h t rfl

theorem captures_operatorPattern :
    operatorPattern.captures s = (takeOperator s).bind fun x =>
      (((Pattern.many isBlank).andThen valuePattern).captures x.2).map (x.1.text.toList :: ·) := by
  have hequals (r : List Char) := captures_blanks_valuePattern_cons (c := '=') (s := r) (by decide)
  have hgreater (r : List Char) := captures_blanks_valuePattern_cons (c := '>') (s := r) (by decide)
  rw [operatorPattern, captures_group_andThen, Pattern.ways]
  generalize ((Pattern.many isBlank).andThen valuePattern).captures = value at hequals hgreater ⊢
  unfold takeOperator
  split
  case h_1 r => cases hr : value r <;> simp [List.filterMap, hr, hgreater, Operator.text]
  case h_2 r => cases hr : value r <;> simp [List.filterMap, hr, hequals, Operator.text]
  case h_3 r => cases hr : value r <;> simp [List.filterMap, hr, hequals, Operator.text]
  case h_4 r => cases hr : value r <;> simp [List.filterMap, hr, Operator.text]
  case h_5 r hne =>
    have hstart : ¬ ['='] <+: r := not_singleton_prefix hne
    cases hr : value r <;> simp [List.filterMap, hr, hstart, Operator.text]
  case h_6 r hne hne' =>
    have hstart : ¬ ['='] <+: r := not_singleton_prefix hne'
    have hstart' : ¬ ['>'] <+: r := not_singleton_prefix hne
    cases hr : value r <;> simp [List.filterMap, hr, hstart, hstart', Operator.text]
  case h_7 heq hgt hlt =>
    cases s with
    | nil => rfl
    | cons c s =>
      have hc : c ≠ '=' ∧ c ≠ '>' ∧ c ≠ '<' :=
        ⟨fun h => heq s (h ▸ rfl), fun h => hgt s (h ▸ rfl), fun h => hlt s (h ▸ rfl)⟩
      simp [List.filterMap, Ne.symm hc.1, Ne.symm hc.2.1, Ne.symm hc.2.2]

theorem captures_operatorPattern_cons (h : c ∉ ['<', '>', '=']) :
    operatorPattern.captures (c :: s) = none := by
  rw [captures_operatorPattern, takeOperator_eq_none h, Option.bind_none]

theorem captures_blanks_operatorPattern :
    ((Pattern.many isBlank).andThen operatorPattern).captures s =
      operatorPattern.captures (dropBlanks s) :=
  captures_many_andThen fun _ _ hc _ =>
    captures_operatorPattern_cons (not_mem_operators_of_isBlank hc)

/-- A field is taken whole where what follows never begins with a character of a field. -/
theorem captures_fieldPattern {b : Pattern}
    (hb : ∀ d r, continuesField d = true → b.captures (d :: r) = none) (hc : startsField c = true) :
    ((Pattern.group fieldPattern).andThen b).captures (c :: s) =
      (b.captures (s.dropWhile continuesField)).map ((c :: s.takeWhile continuesField) :: ·) := by
  have hways : fieldPattern.ways (c :: s) =
      (longestFirst continuesField s).map (Way.andThen { taken := [c], rest := s }) := by
    simp [fieldPattern, Pattern.ways, hc]
  rw [captures_group_andThen, hways, List.findSome?_map, findSome?_longestFirst]
  · rfl
  · intro t d r hd _
    show (b.captures (d :: r)).map _ = none
    rw [hb d r hd, Option.map_none]

theorem captures_fieldPattern_eq_none {b : Pattern} (hc : startsField c = false) :
    ((Pattern.group fieldPattern).andThen b).captures (c :: s) = none := by
  rw [captures_group_andThen]
  simp [fieldPattern, Pattern.ways, hc]

/-- The first way to read a condition takes what the reader of conditions takes. -/
theorem captures_clausePattern :
    clausePattern.captures s =
      (clauseParts s).map fun x => [x.1.toList, x.2.1.text.toList, x.2.2.toList] := by
  have hoperator (d : Char) (r : List Char) (hd : continuesField d = true) :
      ((Pattern.many isBlank).andThen operatorPattern).captures (d :: r) = none := by
    rw [captures_blanks_operatorPattern,
      dropBlanks_of_head (isBlank_eq_false_of_field (Or.inr hd)),
      captures_operatorPattern_cons (not_mem_operators_of_continuesField hd)]
  have hskip : clausePattern.captures s =
      ((Pattern.group fieldPattern).andThen
        ((Pattern.many isBlank).andThen operatorPattern)).captures (dropBlanks s) :=
    captures_many_andThen fun c r hc _ =>
      captures_fieldPattern_eq_none (not_field_of_isBlank hc).1
  rw [hskip]
  cases hdrop : dropBlanks s with
  | nil =>
    have hnone : takeField s = none := by simp only [takeField, hdrop]
    rw [clauseParts, hnone]
    rfl
  | cons c t =>
    cases hc : startsField c with
    | false =>
      have hnone : takeField s = none := by simp [takeField, hdrop, hc]
      rw [captures_fieldPattern_eq_none hc, clauseParts, hnone]
      rfl
    | true =>
      have hfield : takeField s = some (String.ofList (c :: t.takeWhile continuesField),
          dropBlanks (t.dropWhile continuesField)) := by
        simp only [takeField, hdrop, hc, if_true]
      rw [captures_fieldPattern hoperator hc, captures_blanks_operatorPattern,
        captures_operatorPattern, clauseParts, hfield]
      cases hop : takeOperator (dropBlanks (t.dropWhile continuesField)) with
      | none => simp [hop]
      | some found =>
        simp only [Option.bind_some, captures_blanks_valuePattern]
        by_cases hline : '\n' ∈ dropBlanksRight (dropBlanks found.2) <;>
          simp [hop, hline, -String.ofList_cons]

end Captures

/-! ### The reader of conditions -/

/-- Blanks around a value do not change what it is read as. -/
theorem parseValue_trim (raw : String) : parseValue (trim raw) = parseValue raw := by
  -- opened by delta, since the equation of the reader takes long to derive
  delta parseValue
  simp only [trim_trim]

theorem parseClause_of_parts {raw field value : String} {op : Operator}
    (h : clauseParts raw.toList = some (field, op, value)) :
    parseClause raw = .ok (field, op, parseValue value) := by
  rw [parseClause, h]

theorem parseClause_of_no_parts {raw : String} (h : clauseParts raw.toList = none) :
    parseClause raw =
      .error (.invalidArgument ("expected FIELD<OP>VALUE, got '" ++ raw ++ "'")) := by
  rw [parseClause, h]

/-- With one blank on either side of the operator any value in one line can be said. -/
theorem clauseParts_spaced {field t : String} (op : Operator) (hname : IsFieldName field)
    (hline : '\n' ∉ t.toList) :
    clauseParts (field ++ " " ++ op.text ++ " " ++ t).toList = some (field, op, trim t) := by
  have htext : (field ++ " " ++ op.text ++ " " ++ t).toList =
      field.toList ++ ' ' :: (op.text.toList ++ ' ' :: t.toList) := by
    simp
  have hvalue : '\n' ∉ dropBlanksRight (dropBlanks t.toList) := by
    intro hmem
    obtain ⟨b, -, hleft⟩ := exists_blanks_append t.toList
    obtain ⟨b', -, hright⟩ := exists_append_blanks (dropBlanks t.toList)
    refine hline ?_
    rw [hleft, hright]
    exact List.mem_append_right b (List.mem_append_left b' hmem)
  have hblank : dropBlanks (' ' :: t.toList) = dropBlanks t.toList :=
    List.dropWhile_cons_of_pos (by decide)
  rw [clauseParts, htext, takeField_append hname ⟨' ', _, rfl, by decide⟩, dropBlanks_text]
  simp [takeOperator_text, hblank, hvalue, trim]

/-- **Conditions have one grammar and one reading.** A text is read as a condition iff it is blanks,
a field, blanks, an operator, blanks, a value in one line that has no blanks at its ends, and blanks,
where the operator is the longest one at its place; the value is then read as all values are. The
field, the operator and the value of such a text are determined by it, and any other text is an
invalid argument. They are also what the pattern of conditions captures. In particular every value
in one line can be said with a blank on either side of the operator. -/
theorem parseClause_iff_spells (raw : String) :
    (∀ field op v, parseClause raw = .ok (field, op, v) ↔
      ∃ t : String, Spells raw.toList field op t.toList ∧ v = parseValue t) ∧
    (∀ field field' op op' t t', Spells raw.toList field op t → Spells raw.toList field' op' t' →
      field = field' ∧ op = op' ∧ t = t') ∧
    (∀ e, parseClause raw = .error e ↔ (∀ field op t, ¬ Spells raw.toList field op t) ∧
      e = .invalidArgument ("expected FIELD<OP>VALUE, got '" ++ raw ++ "'")) ∧
    (∀ groups, clausePattern.captures raw.toList = some groups ↔
      ∃ field op t, Spells raw.toList field op t ∧ groups = [field.toList, op.text.toList, t]) ∧
    ∀ field op t, IsFieldName field → '\n' ∉ t.toList →
      parseClause (field ++ " " ++ op.text ++ " " ++ t) = .ok (field, op, parseValue t) := by
  have hparts {field : String} {op : Operator} {t : List Char}
      (h : Spells raw.toList field op t) :
      clauseParts raw.toList = some (field, op, String.ofList t) :=
    clauseParts_eq_some_iff.mpr (by rwa [String.toList_ofList])
  refine ⟨fun field op v => ⟨fun h => ?_, ?_⟩, ?_, fun e => ⟨fun h => ?_, ?_⟩,
    fun groups => ⟨fun h => ?_, ?_⟩, ?_⟩
  · cases hfound : clauseParts raw.toList with
    | none =>
      rw [parseClause_of_no_parts hfound] at h
      cases h
    | some found =>
      obtain ⟨field', op', t⟩ := found
      rw [parseClause_of_parts hfound] at h
      cases h
      exact ⟨t, clauseParts_eq_some_iff.mp hfound, rfl⟩
  · rintro ⟨t, ht, rfl⟩
    exact parseClause_of_parts (clauseParts_eq_some_iff.mpr ht)
  · intro field field' op op' t t' h h'
    have heq := (hparts h).symm.trans (hparts h')
    simpa [String.ofList_inj] using heq
  · cases hfound : clauseParts raw.toList with
    | none =>
      rw [parseClause_of_no_parts hfound] at h
      refine ⟨fun field op t ht => ?_, (Except.error.inj h).symm⟩
      rw [hparts ht] at hfound
      cases hfound
    | some found =>
      rw [parseClause_of_parts hfound] at h
      cases h
  · rintro ⟨hnone, rfl⟩
    refine parseClause_of_no_parts (Option.eq_none_iff_forall_ne_some.mpr fun found hfound => ?_)
    exact hnone _ _ _ (clauseParts_eq_some_iff.mp hfound)
  · rw [captures_clausePattern] at h
    obtain ⟨found, hfound, rfl⟩ := Option.map_eq_some_iff.mp h
    exact ⟨_, _, _, clauseParts_eq_some_iff.mp hfound, rfl⟩
  · rintro ⟨field, op, t, ht, rfl⟩
    rw [captures_clausePattern, hparts ht, Option.map_some, String.toList_ofList]
  · intro field op t hname hline
    rw [parseClause_of_parts (clauseParts_spaced op hname hline), parseValue_trim]

example : clauseParts " a.b<>= 1\n".toList = some ("a.b", .ne, "= 1") := by decide +kernel

end DocSearch.CommandLine
