import DocSearch.Json.Parser
import DocSearch.Json.Printer
import DocSearch.Proofs.DataValues
import DocSearch.Proofs.FloatTexts
import DocSearch.Proofs.Outcome
import DocSearch.Proofs.Words

/-!
# Data values that are read back

The text of a data value in one line has no control character, and a reader that follows the syntax
finds the value again, whatever comes after the text. What such a reader makes of a number is left
open: one that takes integers of any size and rounds decimals to the nearest float finds every
number again whose float is finite.
-/

namespace DocSearch.Json

open Floating

/-! ### Texts of values -/

theorem compact_leaf {a : Json} (h : a.depth = 0) : a.compact = leafText a := by
  cases a with
  | array | object => cases h
  | null | bool | int | float | string => rfl

theorem toList_compact_array (items : List Json) :
    (Json.array items).compact.toList = '[' :: ((compactItems items).toList ++ [']']) := by
  simp [compact]

theorem toList_compact_object (ms : List (String × Json)) :
    (Json.object ms).compact.toList = '\x7b' :: ((compactMembers ms).toList ++ ['\x7d']) := by
  simp [compact]

/-! ### Readers of values -/

/-- Reads a value that may stand in `levels` more arrays and objects than it does, with a reader of
numbers that is told whether a minus sign is behind. -/
def valueWith (number : Bool → List Char → Except Fault (Json × List Char)) :
    (levels : Nat) → List Char → Except Fault (Json × List Char)
  | 0, s => .error (.on .tooDeep s)
  | levels + 1, s =>
    match skipSpace s with
    | [] => .error ⟨.eofValue, 0⟩
    | c :: rest =>
      if c = 'n' then word .null ['u', 'l', 'l'] rest
      else if c = 't' then word (.bool true) ['r', 'u', 'e'] rest
      else if c = 'f' then word (.bool false) ['a', 'l', 's', 'e'] rest
      else if c = '-' then number true rest
      else if c.isDigit then number false (c :: rest)
      else if c = '"' then do
        let (t, rest) ← text rest
        .ok (.string t, rest)
      else if c = '[' then
        if levels = 0 then .error (.on .tooDeep (c :: rest))
        else do
          let (as, rest) ← items (valueWith number levels) rest
          .ok (.array as, rest)
      else if c = '\x7b' then
        if levels = 0 then .error (.on .tooDeep (c :: rest))
        else do
          let (ms, rest) ← objectMembers text (valueWith number levels) rest
          .ok (.object ms, rest)
      else .error (.on .expectedValue (c :: rest))

theorem valueWith_number (levels : Nat) : valueWith number levels = value levels := by
  induction levels with
  | zero => rfl
  | succ levels ih =>
    funext s
    simp only [valueWith, value]
    cases skipSpace s with
    | nil => rfl
    | cons c rest => simp only [ih]

/-! ### Quoted texts -/

section Quoted

variable {c : Char} {fuel : Nat} {s rest : List Char}

/-- A reader goes on with what its first step has read. -/
theorem bind_of_ok {ε α β : Type} {step : Except ε α} {next : α → Except ε β} {a : α}
    (h : step = .ok a) : (step >>= next) = next a := by
  rw [h, ok_bind]

theorem fourHex_control {n : Nat} (hn : n < 32) (rest : List Char) :
    fourHex ('0' :: '0' :: hexDigit (n / 16) :: hexDigit (n % 16) :: rest) = .ok (n, rest) := by
  interval_cases n <;> rfl

/-- A character is read from its escape. -/
theorem chars_escapeChar (c : Char) (s : List Char) (fuel : Nat) :
    chars (fuel + 1) (escapeChar c ++ s) =
      (chars fuel s >>= fun x => .ok (c :: x.1, x.2)) := by
  unfold escapeChar
  split
  · next h => rw [h]; rfl
  split
  · next h => rw [h]; rfl
  split
  · next h => rw [h]; rfl
  split
  · next h => rw [h]; rfl
  split
  · next h => rw [h]; rfl
  split
  · next h =>
    obtain rfl : c = Char.ofNat 8 := by rw [← h, Char.ofNat_toNat]
    rfl
  split
  · next h =>
    obtain rfl : c = Char.ofNat 12 := by rw [← h, Char.ofNat_toNat]
    rfl
  split
  · next h =>
    have hescape : escape ('u' :: '0' :: '0' :: hexDigit (c.toNat / 16) ::
        hexDigit (c.toNat % 16) :: s) = .ok (c, s) := by
      refine (bind_of_ok (fourHex_control h s)).trans ?_
      dsimp only
      rw [if_neg (by omega), if_neg (by omega), Char.ofNat_toNat]
    exact bind_of_ok hescape
  · next hquote hbackslash _ _ _ _ _ hcontrol =>
    show chars (fuel + 1) (c :: s) = _
    rw [chars, if_neg hquote, if_neg hbackslash, if_neg hcontrol]

/-- What is quoted is read again, given a step for each character and one for the end. -/
theorem chars_escaped (s rest : List Char) {fuel : Nat} (h : s.length < fuel) :
    chars fuel (s.flatMap escapeChar ++ '"' :: rest) = .ok (s, rest) := by
  induction s generalizing fuel with
  | nil =>
    cases fuel with
    | zero => cases h
    | succ fuel => rfl
  | cons c s ih =>
    cases fuel with
    | zero => cases h
    | succ fuel =>
      rw [List.flatMap_cons, List.append_assoc, chars_escapeChar, ih (Nat.lt_of_succ_lt_succ h)]
      rfl

theorem length_le_escaped (s : List Char) : s.length ≤ (s.flatMap escapeChar).length := by
  induction s with
  | nil => exact Nat.le_refl _
  | cons c s ih =>
    have hpos : 1 ≤ (escapeChar c).length := by
      unfold escapeChar
      repeat' split
      all_goals exact Nat.succ_le_succ (Nat.zero_le _)
    rw [List.flatMap_cons, List.length_append, List.length_cons]
    omega

theorem toList_quote (s : String) :
    (quote s).toList = '"' :: (s.toList.flatMap escapeChar ++ ['"']) := by
  rw [quote, String.toList_ofList, List.cons_append]

theorem text_quote (s : String) (rest : List Char) :
    text (s.toList.flatMap escapeChar ++ '"' :: rest) = .ok (s, rest) := by
  have hlength : s.toList.length < (s.toList.flatMap escapeChar ++ '"' :: rest).length := by
    have := length_le_escaped s.toList
    rw [List.length_append, List.length_cons]
    omega
  rw [text, chars_escaped _ _ hlength, ok_bind]
  dsimp only
  rw [String.ofList_toList]

end Quoted

/-! ### Arrays and objects -/

/-- What may come after a number. -/
def Ends (rest : List Char) : Prop := ∀ c ∈ rest.head?, isNumeral c = false

/-- A text that begins neither with a blank nor with the end of an array. -/
def Opens (s : List Char) : Prop := ∃ c t, s = c :: t ∧ isSpace c = false ∧ c ≠ ']'

/-- A reader finds a value again in its text, whatever comes after it. -/
def Reads (value : List Char → Except Fault (Json × List Char)) (a : Json) : Prop :=
  Opens a.compact.toList ∧
    ∀ rest, Ends rest → value (a.compact.toList ++ rest) = .ok (a, rest)

section Parts

variable {value : List Char → Except Fault (Json × List Char)} {a : Json} {as : List Json}
variable {ms : List (String × Json)} {k : String} {fuel : Nat} {c : Char} {s rest : List Char}

theorem skipSpace_cons (h : isSpace c = false) (s : List Char) : skipSpace (c :: s) = c :: s :=
  List.dropWhile_cons_of_neg (by simp [h])

theorem Ends.cons (h : isNumeral c = false) (s : List Char) : Ends (c :: s) := by
  intro d hd
  obtain rfl := Option.some.inj hd
  exact h

section Steps

variable {α β : Type} {name : List Char → Except Fault (β × List Char)}
variable {value : List Char → Except Fault (α × List Char)} {key : β} {before t : List Char}

theorem items_cons (hs : skipSpace s = c :: t) (hne : c ≠ ']') :
    items value s = (value (c :: t) >>= fun x =>
      moreItems value s.length x.2 >>= fun y => .ok (x.1 :: y.1, y.2)) := by
  rw [items, hs]
  split
  · next heq => cases heq
  · next heq => exact absurd (List.cons.inj heq).1 hne
  · rfl

theorem moreItems_comma (hs : skipSpace s = ',' :: before) (hbefore : skipSpace before = c :: t)
    (hne : c ≠ ']') : moreItems value (fuel + 1) s = (value (c :: t) >>= fun x =>
      moreItems value fuel x.2 >>= fun y => .ok (x.1 :: y.1, y.2)) := by
  rw [moreItems, hs]
  simp only [hbefore]
  split
  · next heq => cases heq
  · next heq => exact absurd (List.cons.inj heq).1 hne
  · rfl

theorem objectMembers_quote (hs : skipSpace s = '"' :: t) :
    objectMembers name value s = (member name value t >>= fun x =>
      moreMembers name value s.length x.2 >>= fun y => .ok (x.1 :: y.1, y.2)) := by
  rw [objectMembers, hs]
  rfl

theorem moreMembers_comma (hs : skipSpace s = ',' :: before)
    (hbefore : skipSpace before = '"' :: t) :
    moreMembers name value (fuel + 1) s = (member name value t >>= fun x =>
      moreMembers name value fuel x.2 >>= fun y => .ok (x.1 :: y.1, y.2)) := by
  rw [moreMembers, hs]
  simp only [hbefore]

theorem member_colon (h : name s = .ok (key, before)) (hbefore : skipSpace before = ':' :: t) :
    member name value s = (value t >>= fun x => .ok ((key, x.1), x.2)) := by
  rw [member, h, ok_bind]
  simp only [hbefore]

end Steps

/-- The items after the first one, each with the comma before it. -/
def moreItemsText : List Json → List Char
  | [] => []
  | a :: as => ',' :: (a.compact.toList ++ moreItemsText as)

theorem toList_compactItems (a : Json) (as : List Json) :
    (compactItems (a :: as)).toList = a.compact.toList ++ moreItemsText as := by
  induction as generalizing a with
  | nil => simp [compactItems, moreItemsText]
  | cons b as ih =>
    have hcomma : (if (b :: as).isEmpty then "" else ",").toList = [','] := by simp
    rw [compactItems, String.toList_append, String.toList_append, ih, moreItemsText, hcomma,
      List.append_assoc, List.singleton_append]

theorem length_le_moreItemsText (as : List Json) : as.length ≤ (moreItemsText as).length := by
  induction as with
  | nil => exact Nat.le_refl _
  | cons a as ih =>
    rw [moreItemsText, List.length_cons, List.length_cons, List.length_append]
    omega

theorem ends_moreItemsText (as : List Json) (rest : List Char) :
    Ends (moreItemsText as ++ ']' :: rest) := by
  cases as with
  | nil => exact Ends.cons rfl _
  | cons a as => exact Ends.cons rfl _

theorem moreItems_text (h : ∀ a ∈ as, Reads value a) (hfuel : as.length < fuel)
    (rest : List Char) :
    moreItems value fuel (moreItemsText as ++ ']' :: rest) = .ok (as, rest) := by
  induction as generalizing fuel with
  | nil =>
    cases fuel with
    | zero => cases hfuel
    | succ fuel => rfl
  | cons a as ih =>
    cases fuel with
    | zero => cases hfuel
    | succ fuel =>
      obtain ⟨⟨hopens, hread⟩, has⟩ := List.forall_mem_cons.mp h
      obtain ⟨c, t, htext, hspace, hne⟩ := hopens
      have hitem := hread _ (ends_moreItemsText as rest)
      rw [moreItemsText, List.cons_append, List.append_assoc]
      rw [htext, List.cons_append] at hitem ⊢
      rw [moreItems_comma rfl (skipSpace_cons hspace _) hne, hitem, ok_bind,
        ih has (Nat.lt_of_succ_lt_succ hfuel), ok_bind]

theorem items_text (h : ∀ a ∈ as, Reads value a) (rest : List Char) :
    items value ((compactItems as).toList ++ ']' :: rest) = .ok (as, rest) := by
  cases as with
  | nil =>
    rw [compactItems, String.toList_empty]
    rfl
  | cons a as =>
    obtain ⟨⟨hopens, hread⟩, has⟩ := List.forall_mem_cons.mp h
    obtain ⟨c, t, htext, hspace, hne⟩ := hopens
    have hitem := hread _ (ends_moreItemsText as rest)
    have hfuel : as.length < (c :: (t ++ (moreItemsText as ++ ']' :: rest))).length := by
      have := length_le_moreItemsText as
      simp only [List.length_append, List.length_cons]
      omega
    rw [toList_compactItems, List.append_assoc]
    rw [htext, List.cons_append] at hitem ⊢
    rw [items_cons (skipSpace_cons hspace _) hne, hitem, ok_bind, moreItems_text has hfuel, ok_bind]

/-- The text of a member after its first quote. -/
def memberText (m : String × Json) : List Char :=
  m.1.toList.flatMap escapeChar ++ '"' :: ':' :: m.2.compact.toList

/-- The members after the first one, each with the comma before it. -/
def moreMembersText : List (String × Json) → List Char
  | [] => []
  | m :: ms => ',' :: '"' :: (memberText m ++ moreMembersText ms)

theorem toList_compactMembers (m : String × Json) (ms : List (String × Json)) :
    (compactMembers (m :: ms)).toList = '"' :: (memberText m ++ moreMembersText ms) := by
  induction ms generalizing m with
  | nil => simp [compactMembers, moreMembersText, memberText, toList_quote]
  | cons m' ms ih =>
    have hcomma : (if (m' :: ms).isEmpty then "" else ",").toList = [','] := by simp
    obtain ⟨k, a⟩ := m
    rw [compactMembers]
    simp only [String.toList_append, ih, hcomma, toList_quote, moreMembersText, memberText]
    simp

theorem length_le_moreMembersText (ms : List (String × Json)) :
    ms.length ≤ (moreMembersText ms).length := by
  induction ms with
  | nil => exact Nat.le_refl _
  | cons m ms ih =>
    rw [moreMembersText, List.length_cons, List.length_cons, List.length_cons, List.length_append]
    omega

theorem ends_moreMembersText (ms : List (String × Json)) (rest : List Char) :
    Ends (moreMembersText ms ++ '\x7d' :: rest) := by
  cases ms with
  | nil => exact Ends.cons rfl _
  | cons m ms => exact Ends.cons rfl _

theorem member_text {m : String × Json} (h : Reads value m.2) (hrest : Ends rest) :
    member text value (memberText m ++ rest) = .ok (m, rest) := by
  have hkey : text (memberText m ++ rest) = .ok (m.1, ':' :: (m.2.compact.toList ++ rest)) := by
    rw [memberText, List.append_assoc, List.cons_append, List.cons_append, text_quote]
  rw [member_colon hkey rfl, h.2 rest hrest, ok_bind]

theorem moreMembers_text (h : ∀ m ∈ ms, Reads value m.2) (hfuel : ms.length < fuel)
    (rest : List Char) :
    moreMembers text value fuel (moreMembersText ms ++ '\x7d' :: rest) = .ok (ms, rest) := by
  induction ms generalizing fuel with
  | nil =>
    cases fuel with
    | zero => cases hfuel
    | succ fuel => rfl
  | cons m ms ih =>
    cases fuel with
    | zero => cases hfuel
    | succ fuel =>
      obtain ⟨hm, hms⟩ := List.forall_mem_cons.mp h
      rw [moreMembersText, List.cons_append, List.cons_append, List.append_assoc,
        moreMembers_comma rfl rfl,        member_text hm (ends_moreMembersText ms rest), ok_bind,
        ih hms (Nat.lt_of_succ_lt_succ hfuel), ok_bind]

theorem objectMembers_text (h : ∀ m ∈ ms, Reads value m.2) (rest : List Char) :
    objectMembers text value ((compactMembers ms).toList ++ '\x7d' :: rest) = .ok (ms, rest) := by
  cases ms with
  | nil =>
    rw [compactMembers, String.toList_empty]
    rfl
  | cons m ms =>
    obtain ⟨hm, hms⟩ := List.forall_mem_cons.mp h
    have hfuel : ms.length <
        ('"' :: (memberText m ++ (moreMembersText ms ++ '\x7d' :: rest))).length := by
      have := length_le_moreMembersText ms
      simp only [List.length_append, List.length_cons]
      omega
    rw [toList_compactMembers, List.cons_append, List.append_assoc,
      objectMembers_quote rfl, member_text hm (ends_moreMembersText ms rest), ok_bind,
      moreMembers_text hms hfuel, ok_bind]

end Parts

/-! ### Values -/

/-- A reader of numbers finds a number again in its text, before something that ends it. -/
def ReadsNumber (number : Bool → List Char → Except Fault (Json × List Char)) (a : Json) : Prop :=
  ∃ minus c s, a.compact.toList = (if minus then ['-'] else []) ++ c :: s ∧ c.isDigit = true ∧
    ∀ rest, Ends rest → number minus (c :: (s ++ rest)) = .ok (a, rest)

section Values

variable {number : Bool → List Char → Except Fault (Json × List Char)} {a : Json} {levels : Nat}

theorem isSpace_eq_false_of_isDigit {c : Char} (h : c.isDigit = true) : isSpace c = false := by
  rw [isSpace, decide_eq_false_iff_not]
  rintro (rfl | rfl | rfl | rfl) <;> cases h

theorem ReadsNumber.reads (h : ReadsNumber number a) (levels : Nat) :
    Reads (valueWith number (levels + 1)) a := by
  obtain ⟨minus, c, s, htext, hc, hread⟩ := h
  cases minus with
  | true =>
    rw [if_pos rfl, List.singleton_append] at htext
    refine ⟨⟨'-', c :: s, htext, rfl, by decide⟩, fun rest hrest => ?_⟩
    rw [htext]
    exact hread rest hrest
  | false =>
    rw [if_neg Bool.false_ne_true, List.nil_append] at htext
    have hspace := isSpace_eq_false_of_isDigit hc
    have hother (d : Char) (hd : d.isDigit = false) : c ≠ d := by
      rintro rfl
      rw [hc] at hd
      cases hd
    refine ⟨⟨c, s, htext, hspace, hother ']' rfl⟩, fun rest hrest => ?_⟩
    rw [htext, List.cons_append, valueWith, skipSpace_cons hspace]
    dsimp only
    rw [if_neg (hother 'n' rfl), if_neg (hother 't' rfl), if_neg (hother 'f' rfl),
      if_neg (hother '-' rfl), if_pos hc]
    exact hread rest hrest

theorem valueWith_quote (s : List Char) : valueWith number (levels + 1) ('"' :: s) =
    (text s >>= fun x => .ok (.string x.1, x.2)) :=
  rfl

theorem valueWith_bracket (s : List Char) : valueWith number (levels + 2) ('[' :: s) =
    (items (valueWith number (levels + 1)) s >>= fun x => .ok (.array x.1, x.2)) :=
  rfl

theorem valueWith_brace (s : List Char) : valueWith number (levels + 2) ('\x7b' :: s) =
    (objectMembers text (valueWith number (levels + 1)) s >>= fun x => .ok (.object x.1, x.2)) :=
  rfl

/-- A value that is nested no deeper than a reader goes is read again in its text. -/
theorem reads_valueWith (h : ∀ n ∈ a.numbers, ReadsNumber number n) (hlevels : a.depth < levels) :
    Reads (valueWith number levels) a := by
  induction levels generalizing a with
  | zero => cases hlevels
  | succ levels ih =>
    cases a with
    | null =>
      have htext : Json.null.compact.toList = ['n', 'u', 'l', 'l'] := by simp [compact, leafText]
      rw [Reads, htext]
      exact ⟨⟨'n', _, rfl, rfl, by decide⟩, fun rest _ => rfl⟩
    | bool b =>
      cases b with
      | true =>
        have htext : (Json.bool true).compact.toList = ['t', 'r', 'u', 'e'] := by
          simp [compact, leafText]
        rw [Reads, htext]
        exact ⟨⟨'t', _, rfl, rfl, by decide⟩, fun rest _ => rfl⟩
      | false =>
        have htext : (Json.bool false).compact.toList = ['f', 'a', 'l', 's', 'e'] := by
          simp [compact, leafText]
        rw [Reads, htext]
        exact ⟨⟨'f', _, rfl, rfl, by decide⟩, fun rest _ => rfl⟩
    | int n => exact (h _ (by simp [numbers])).reads levels
    | float x => exact (h _ (by simp [numbers])).reads levels
    | string s =>
      have htext : (Json.string s).compact.toList =
          '"' :: (s.toList.flatMap escapeChar ++ ['"']) := toList_quote s
      refine ⟨⟨'"', _, htext, rfl, by decide⟩, fun rest _ => ?_⟩
      rw [htext, List.cons_append, List.append_assoc, List.singleton_append, valueWith_quote,
        text_quote, ok_bind]
    | array as =>
      have hdepth : depthItems as + 1 < levels + 1 := hlevels
      cases levels with
      | zero => omega
      | succ levels =>
        have has : ∀ a ∈ as, Reads (valueWith number (levels + 1)) a := fun a ha =>
          ih (fun n hn => h n (mem_numbersOfItems.mpr ⟨a, ha, hn⟩))
            (Nat.lt_of_le_of_lt (depth_le_depthItems ha) (Nat.lt_of_succ_lt_succ hdepth))
        refine ⟨⟨'[', _, toList_compact_array as, rfl, by decide⟩, fun rest _ => ?_⟩
        rw [toList_compact_array, List.cons_append, List.append_assoc, List.singleton_append,
          valueWith_bracket, items_text has, ok_bind]
    | object ms =>
      have hdepth : depthMembers ms + 1 < levels + 1 := hlevels
      cases levels with
      | zero => omega
      | succ levels =>
        have hms : ∀ m ∈ ms, Reads (valueWith number (levels + 1)) m.2 := fun m hm =>
          ih (fun n hn => h n (mem_numbersOfMembers.mpr ⟨m, hm, hn⟩))
            (Nat.lt_of_le_of_lt (depth_le_depthMembers hm) (Nat.lt_of_succ_lt_succ hdepth))
        refine ⟨⟨'\x7b', _, toList_compact_object ms, rfl, by decide⟩, fun rest _ => ?_⟩
        rw [toList_compact_object, List.cons_append, List.append_assoc, List.singleton_append,
          valueWith_brace, objectMembers_text hms, ok_bind]

end Values

/-! ### Exact reading -/

/-- Reads an integer of any size from a row of digits, and the float nearest to any other
decimal. -/
def exactNumber (minus : Bool) (s : List Char) : Except Fault (Json × List Char) :=
  let numeral := s.takeWhile isNumeral
  let rest := s.dropWhile isNumeral
  if numeral.all Char.isDigit && !numeral.isEmpty then
    let n : Int := digitsValue 0 numeral
    .ok (.int (if minus then -n else n), rest)
  else
    match readDecimal numeral with
    | some d => .ok (.float (d.toFloat minus), rest)
    | none => .error (.on .invalidNumber s)

/-- Reads a value from the whole of a text, with exact numbers and nested as deep as the text is
long. -/
def readExact (s : String) : Option Json :=
  match valueWith exactNumber (s.toList.length + 1) s.toList with
  | .ok (a, []) => some a
  | _ => none

section Exact

theorem exactNumber_digits (minus : Bool) (n : Nat) {rest : List Char} (hrest : Ends rest) :
    exactNumber minus (Nat.toDigits 10 n ++ rest) =
      .ok (.int (if minus then -n else n), rest) := by
  have hnumeral : ∀ c ∈ Nat.toDigits 10 n, isNumeral c = true :=
    fun c hc => isNumeral_of_isDigit (isDigit_toDigits hc)
  have hall : (Nat.toDigits 10 n).all Char.isDigit = true :=
    List.all_eq_true.mpr fun c hc => isDigit_toDigits hc
  have hempty : (Nat.toDigits 10 n).isEmpty = false :=
    List.isEmpty_eq_false_iff.mpr Nat.toDigits_ne_nil
  have hvalue : digitsValue 0 (Nat.toDigits 10 n) = n := Nat.ofDigitChars_ten_toDigits
  simp only [exactNumber, Text.takeWhile_append_of_stop hnumeral hrest,
    Text.dropWhile_append_of_stop hnumeral hrest, hall, hempty, hvalue, Bool.not_false,
    Bool.and_self, if_true]

/-- The text of an integer: a minus sign if it is negative, then digits. -/
theorem toList_compact_int (k : Int) : ∃ c s, Nat.toDigits 10 k.natAbs = c :: s ∧
    c.isDigit = true ∧ (Json.int k).compact.toList =
      (if decide (k < 0) then ['-'] else []) ++ c :: s := by
  obtain ⟨c, s, hdigits⟩ :=
    List.exists_cons_of_ne_nil (Nat.toDigits_ne_nil (n := k.natAbs) (b := 10))
  refine ⟨c, s, hdigits, isDigit_toDigits (n := k.natAbs) (hdigits ▸ List.mem_cons_self), ?_⟩
  rw [compact_leaf rfl, leafText, Text.toList_toString, ← hdigits]
  by_cases hsign : 0 ≤ k
  · have habs : k.toNat = k.natAbs := by omega
    simp [hsign, habs]
  · have habs : (-k).toNat = k.natAbs := by omega
    simp [hsign, habs, not_le.mp hsign]

theorem exactNumber_int (k : Int) : ReadsNumber exactNumber (.int k) := by
  obtain ⟨c, s, hdigits, hc, htext⟩ := toList_compact_int k
  refine ⟨decide (k < 0), c, s, htext, hc, fun rest hrest => ?_⟩
  have hvalue : (if decide (k < 0) then -(k.natAbs : Int) else k.natAbs) = k := by
    simp only [decide_eq_true_eq]
    split <;> omega
  rw [← List.cons_append, ← hdigits, exactNumber_digits _ _ hrest, hvalue]

theorem exactNumber_float {x : Float} (h : finite x = true) :
    ReadsNumber exactNumber (.float x) := by
  obtain ⟨s, d, htext, ⟨⟨c, t, rfl, hc⟩, hnumeral, ⟨e, he, hpoint⟩, d', hread, hnearest⟩, hfloat⟩ :=
    exists_written_text h
  refine ⟨negative x, c, t, ?_, hc, fun rest hrest => ?_⟩
  · rw [compact_leaf rfl, leafText, floatText, if_pos h, htext]
  · have hall : (c :: t).all Char.isDigit = false := by
      rw [List.all_eq_false]
      exact ⟨e, he, by rw [hpoint]; exact Bool.false_ne_true⟩
    rw [← List.cons_append]
    simp only [exactNumber, Text.takeWhile_append_of_stop hnumeral hrest,
      Text.dropWhile_append_of_stop hnumeral hrest, hall, Bool.false_and, Bool.false_eq_true,
      if_false, hread]
    have htoFloat : d'.toFloat (negative x) = x := by
      rw [Decimal.toFloat, hnearest, ← Decimal.toFloat, hfloat]
    rw [htoFloat]

theorem depth_le_length (a : Json) : a.depth ≤ a.compact.toList.length := by
  induction a using induct with
  | leaf a hleaf =>
    rw [hleaf]
    exact Nat.zero_le _
  | array items ih =>
    have hitems : depthItems items ≤ (compactItems items).toList.length := by
      induction items with
      | nil => exact Nat.zero_le _
      | cons a items ih' =>
        obtain ⟨ha, hitems⟩ := List.forall_mem_cons.mp ih
        have hmore := ih' hitems
        simp only [depthItems, compactItems, String.toList_append, List.length_append]
        omega
    rw [toList_compact_array, depth, List.length_cons, List.length_append]
    omega
  | object ms ih =>
    have hms : depthMembers ms ≤ (compactMembers ms).toList.length := by
      induction ms with
      | nil => exact Nat.zero_le _
      | cons m ms ih' =>
        obtain ⟨hm, hms⟩ := List.forall_mem_cons.mp ih
        have hmore := ih' hms
        simp only [depthMembers, compactMembers, String.toList_append, List.length_append]
        omega
    rw [toList_compact_object, depth, List.length_cons, List.length_append]
    omega

/-- A value with finite floats is found again in its text. -/
theorem readExact_compact {a : Json} (h : ∀ x, .float x ∈ a.numbers → finite x = true) :
    readExact a.compact = some a := by
  have hnumbers : ∀ n ∈ a.numbers, ReadsNumber exactNumber n := by
    intro n hn
    rcases eq_int_or_eq_float hn with ⟨k, rfl⟩ | ⟨x, rfl⟩
    · exact exactNumber_int k
    · exact exactNumber_float (h x hn)
  have hread := (reads_valueWith hnumbers (Nat.lt_succ_of_le (depth_le_length a))).2 []
    fun c hc => nomatch hc
  rw [List.append_nil] at hread
  rw [readExact, hread]

end Exact

/-! ### Reading with limits -/

section Limits

variable {limit n : Nat} {c : Char} {ds s rest : List Char}

theorem not_isDigit_of_ends (h : Ends rest) : ∀ c ∈ rest.head?, c.isDigit = false := by
  intro c hc
  have hnot := h c hc
  simp only [isNumeral, Bool.or_eq_false_iff] at hnot
  exact hnot.1.1.1.1.1

theorem le_ofDigitChars (ds : List Char) (n : Nat) : n ≤ Nat.ofDigitChars 10 ds n := by
  rw [Nat.ofDigitChars_eq_ofDigitChars_zero]
  exact Nat.le_add_right_of_le (Nat.le_mul_of_pos_left n (Nat.pow_pos (by decide)))

/-- Digits are taken whole if their number stays below the limit. -/
theorem takeDigits_append (hds : ∀ c ∈ ds, c.isDigit = true)
    (hlimit : Nat.ofDigitChars 10 ds n < limit) (hrest : Ends rest) (taken : Nat) :
    takeDigits limit n taken (ds ++ rest) =
      (Nat.ofDigitChars 10 ds n, taken + ds.length, rest) := by
  induction ds generalizing n taken with
  | nil =>
    cases rest with
    | nil => simp [takeDigits]
    | cons c rest =>
      simp [takeDigits, not_isDigit_of_ends hrest c rfl]
  | cons c ds ih =>
    obtain ⟨hc, hds⟩ := List.forall_mem_cons.mp hds
    rw [Nat.ofDigitChars_cons] at hlimit ⊢
    have hnext : 10 * n + (c.toNat - 48) < limit := Nat.lt_of_le_of_lt (le_ofDigitChars ds _) hlimit
    rw [List.cons_append, takeDigits, if_pos ⟨hc, hnext⟩]
    refine (ih hds hlimit _).trans ?_
    rw [List.length_cons, Nat.add_assoc, Nat.add_comm 1]

/-- Only zero begins with a zero. -/
theorem eq_zero_of_toDigits (h : Nat.toDigits 10 n = '0' :: s) : n = 0 := by
  induction n using Nat.base_induction 10 (by decide) generalizing s with
  | single m hm =>
    rw [Nat.toDigits_of_lt_base hm] at h
    have hzero := (List.cons.inj h).1
    interval_cases m
    · rfl
    all_goals exact absurd hzero (by decide)
  | digit m k hk hm ih =>
    rw [← Nat.toDigits_append_toDigits (by decide) hm hk] at h
    obtain ⟨c, t, hdigits⟩ := List.exists_cons_of_ne_nil (Nat.toDigits_ne_nil (n := m) (b := 10))
    rw [hdigits, List.cons_append] at h
    have hzero := ih (hdigits.trans (by rw [(List.cons.inj h).1]))
    omega

/-- A row of digits that fits into 64 bits. -/
theorem number_digits (minus : Bool) (hn : n < UInt64.size) (hdigits : Nat.toDigits 10 n = c :: s)
    (hrest : Ends rest) : number minus (c :: (s ++ rest)) = .ok (whole minus n, rest) := by
  have hall : ∀ d ∈ c :: s, d.isDigit = true := fun d hd => isDigit_toDigits (n := n) (hdigits ▸ hd)
  have hvalue : Nat.ofDigitChars 10 (c :: s) 0 = n := by
    rw [← hdigits, Nat.ofDigitChars_ten_toDigits]
  have hstop := not_isDigit_of_ends hrest
  have hmore : rest.takeWhile Char.isDigit = [] := by
    simpa using Text.takeWhile_append_of_stop (s := []) (by simp) hstop
  have hafter : rest.dropWhile Char.isDigit = rest := by
    simpa using Text.dropWhile_append_of_stop (s := []) (by simp) hstop
  have htaken : ∃ taken, (if c = '0' then (0, 1, s ++ rest)
      else takeDigits UInt64.size 0 0 (c :: (s ++ rest))) = (n, taken, rest) := by
    split
    · next hzero =>
      rw [hzero] at hdigits
      obtain rfl := eq_zero_of_toDigits hdigits
      obtain rfl : s = [] := (List.cons.inj hdigits).2.symm
      exact ⟨1, rfl⟩
    · refine ⟨0 + (c :: s).length, ?_⟩
      rw [← hvalue]
      exact takeDigits_append hall (by rwa [hvalue]) hrest 0
  obtain ⟨taken, htaken⟩ := htaken
  have hother (d : Char) (hd : isNumeral d = true) : rest.head? ≠ some d := by
    intro hhead
    rw [hrest d hhead] at hd
    cases hd
  simp only [number, htaken, hmore, hafter, hall c List.mem_cons_self]
  rw [if_neg (by decide)]
  split
  · exact absurd rfl (hother '.' rfl)
  · rw [if_neg fun h => Bool.false_ne_true h.2, if_pos ⟨rfl, hother 'e' rfl, hother 'E' rfl⟩]

/-- An integer of 64 bits, with or without a sign. -/
theorem number_int {k : Int} (hlow : -2 ^ 63 ≤ k) (hhigh : k < 2 ^ 64) :
    ReadsNumber number (.int k) := by
  have hsize : UInt64.size = 2 ^ 64 := rfl
  obtain ⟨c, s, hdigits, hc, htext⟩ := toList_compact_int k
  refine ⟨decide (k < 0), c, s, htext, hc, fun rest hrest => ?_⟩
  have hwhole : whole (decide (k < 0)) k.natAbs = .int k := by
    by_cases hsign : k < 0
    · have hvalue : -(k.natAbs : Int) = k := by omega
      have hbound : 0 < k.natAbs ∧ k.natAbs ≤ Nat.pow 2 63 := by
        rw [Nat.pow_eq]
        omega
      rw [whole, decide_eq_true hsign, if_pos rfl, if_pos hbound, hvalue]
    · have hvalue : (k.natAbs : Int) = k := by omega
      rw [whole, decide_eq_false hsign, if_neg Bool.false_ne_true, hvalue]
  rw [number_digits _ (by omega) hdigits hrest, hwhole]

theorem parse_compact {a : Json} (hdepth : a.depth < levelLimit)
    (hnumbers : ∀ n ∈ a.numbers, ReadsNumber number n) : parse a.compact = .ok a := by
  have hread := (reads_valueWith hnumbers hdepth).2 [] fun c hc => nomatch hc
  rw [List.append_nil, valueWith_number] at hread
  rw [parse, hread]
  rfl

end Limits

/-! ### Texts without control characters -/

/-- A text without line ends and other control characters. -/
def OneLine (s : List Char) : Prop := ∀ c ∈ s, 32 ≤ c.toNat

section OneLine

variable {c : Char} {s t : List Char}

theorem OneLine.append (hs : OneLine s) (ht : OneLine t) : OneLine (s ++ t) :=
  List.forall_mem_append.mpr ⟨hs, ht⟩

theorem OneLine.cons (hc : 32 ≤ c.toNat) (hs : OneLine s) : OneLine (c :: s) :=
  List.forall_mem_cons.mpr ⟨hc, hs⟩

theorem oneLine_nil : OneLine [] := fun _ hc => nomatch hc

theorem oneLine_of_isDigit (h : ∀ c ∈ s, c.isDigit = true) : OneLine s := by
  intro c hc
  have hlow : '0'.toNat ≤ c.toNat := (Char.isDigit_iff_toNat.mp (h c hc)).1
  exact Nat.le_trans (by decide) hlow

theorem oneLine_of_isNumeral (h : ∀ c ∈ s, isNumeral c = true) : OneLine s := by
  intro c hc
  have hcases : c.isDigit = true ∨ c = '.' ∨ c = 'e' ∨ c = 'E' ∨ c = '+' ∨ c = '-' := by
    simpa [isNumeral, or_assoc] using h c hc
  rcases hcases with hdigit | rfl | rfl | rfl | rfl | rfl
  · exact oneLine_of_isDigit (s := [c]) (by simpa using hdigit) c (List.mem_singleton_self c)
  all_goals decide

theorem oneLine_escapeChar (c : Char) : OneLine (escapeChar c) := by
  have hdigit : ∀ n < 16, 32 ≤ (hexDigit n).toNat := by decide
  unfold escapeChar
  repeat' split
  iterate 7 exact by simp [OneLine]
  · next hcontrol =>
    exact .append (s := ['\\', 'u', '0', '0']) (by simp [OneLine])
      (.cons (hdigit _ (by omega)) (.cons (hdigit _ (by omega)) oneLine_nil))
  · next hplain => exact .cons (Nat.not_lt.mp hplain) oneLine_nil

theorem oneLine_quote (s : String) : OneLine (quote s).toList := by
  rw [toList_quote]
  refine .cons (by decide) (.append ?_ (by simp [OneLine]))
  intro c hc
  obtain ⟨d, -, hd⟩ := List.mem_flatMap.mp hc
  exact oneLine_escapeChar d c hd

theorem oneLine_comma (b : Bool) : OneLine (if b then "" else ",").toList := by
  split <;> simp [OneLine]

theorem oneLine_floatText (x : Float) : OneLine (floatText x).toList := by
  rw [floatText]
  split
  · next hfinite =>
    obtain ⟨s, d, htext, hwritten, -⟩ := exists_written_text hfinite
    rw [htext]
    refine .append ?_ (oneLine_of_isNumeral hwritten.numeral)
    split <;> simp [OneLine]
  · simp [OneLine]

theorem oneLine_leafText (a : Json) : OneLine (leafText a).toList := by
  cases a with
  | null => simp [OneLine, leafText]
  | bool b => cases b <;> simp [OneLine, leafText]
  | int n =>
    rw [leafText, Text.toList_toString]
    split
    · exact oneLine_of_isDigit fun c hc => isDigit_toDigits hc
    · exact .cons (by decide) (oneLine_of_isDigit fun c hc => isDigit_toDigits hc)
  | float x => exact oneLine_floatText x
  | string s => exact oneLine_quote s
  | array | object => simp [OneLine, leafText]

/-- The text of a value is one line. -/
theorem oneLine_compact (a : Json) : OneLine a.compact.toList := by
  induction a using induct with
  | leaf a hleaf =>
    rw [compact_leaf hleaf]
    exact oneLine_leafText a
  | array items ih =>
    have hitems : OneLine (compactItems items).toList := by
      induction items with
      | nil => simp [OneLine, compactItems]
      | cons a items ih' =>
        obtain ⟨ha, hitems⟩ := List.forall_mem_cons.mp ih
        rw [compactItems, String.toList_append, String.toList_append]
        exact (ha.append (oneLine_comma _)).append (ih' hitems)
    rw [toList_compact_array]
    exact .cons (by decide) (.append hitems (by simp [OneLine]))
  | object ms ih =>
    have hms : OneLine (compactMembers ms).toList := by
      induction ms with
      | nil => simp [OneLine, compactMembers]
      | cons m ms ih' =>
        obtain ⟨hm, hms⟩ := List.forall_mem_cons.mp ih
        simp only [compactMembers, String.toList_append]
        exact ((((oneLine_quote _).append (by simp [OneLine])).append hm).append
          (oneLine_comma _)).append (ih' hms)
    rw [toList_compact_object]
    exact .cons (by decide) (.append hms (by simp [OneLine]))

end OneLine

end DocSearch.Json
