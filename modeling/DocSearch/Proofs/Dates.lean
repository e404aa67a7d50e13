import DocSearch.Calendar.Reading
import DocSearch.Proofs.Blanks
import DocSearch.Proofs.Days
import DocSearch.Scalar

/-!
# Dates that are read back

A moment is read back from its time stamp, on a clock with any offset, and from each of the fixed
formats. Every number is written with all the digits that its reader may take, so that a reader
takes it whole, and what is left is the text that follows. No other reader that is tried before
gets to the end of such a text: a time stamp needs an offset, a mail date a blank after the first
number, and the formats differ in their marks or in what they leave over.
-/

namespace DocSearch.Calendar

open Text

/-- A reader goes on with what its first step has read. -/
theorem bind_of_read {α β : Type} {step : Option α} {next : α → Option β} {a : α}
    (h : step = some a) : (step >>= next) = next a := by
  rw [h]
  rfl

theorem takeChar_self (c : Char) (s : List Char) : takeChar c (c :: s) = some s := if_pos rfl

theorem takeDayEnd_mark (s : List Char) : takeDayEnd ('T' :: s) = some s := by
  simp [takeDayEnd]

/-! ### Numbers -/

section Numbers

variable {width n least most : Nat} {a c : Char} {ds rest s : List Char}

theorem isDigit_of_mem_padded (h : c ∈ (padded width n).toList) : c.isDigit = true := by
  rw [padded, String.toList_ofList, List.mem_append] at h
  rcases h with h | h
  · obtain rfl := List.eq_of_mem_replicate h
    decide
  · exact Nat.isDigit_of_mem_toDigits (by decide) (by decide) h

theorem length_le_padded (width n : Nat) : width ≤ (padded width n).toList.length := by
  rw [padded, String.toList_ofList, List.length_append, List.length_replicate]
  omega

theorem length_padded (hwidth : 0 < width) (hn : n < 10 ^ width) :
    (padded width n).toList.length = width := by
  have hlength := (Nat.length_toDigits_le_iff (by decide) hwidth).mpr hn
  rw [padded, String.toList_ofList, List.length_append, List.length_replicate]
  omega

theorem ofDigitChars_padded (width n : Nat) :
    Nat.ofDigitChars 10 (padded width n).toList 0 = n := by
  rw [padded, String.toList_ofList, Nat.ofDigitChars_append, Nat.ofDigitChars_replicate_zero,
    Nat.mul_zero, Nat.ofDigitChars_ten_toDigits]

/-- All digits are taken where no more may be taken or none follows. -/
theorem takeNumber_append (hds : ∀ c ∈ ds, c.isDigit = true) (hleast : least ≤ ds.length)
    (hmost : ds.length ≤ most)
    (hstop : ds.length = most ∨ ∀ c ∈ rest.head?, c.isDigit = false) :
    takeNumber least most (ds ++ rest) = some (Nat.ofDigitChars 10 ds 0, rest) := by
  have hdigits : ((ds ++ rest).take most).takeWhile Char.isDigit = ds := by
    rw [← List.take_takeWhile]
    rcases hstop with hfull | hnext
    · rw [List.takeWhile_append_of_pos hds]
      exact List.take_left' hfull
    · rw [takeWhile_append_of_stop hds hnext, List.take_of_length_le hmost]
  simp only [takeNumber, hdigits, Nat.not_lt.mpr hleast, if_false, List.drop_left]
  rfl

/-- A number with all the digits that are taken at most. -/
theorem takeNumber_padded (least width : Nat) (hwidth : 0 < width) (hn : n < 10 ^ width)
    (hleast : least ≤ width) (rest : List Char) :
    takeNumber least width ((padded width n).toList ++ rest) = some (n, rest) := by
  have hlength := length_padded hwidth hn
  rw [takeNumber_append (fun c => isDigit_of_mem_padded) (by rwa [hlength]) (Nat.le_of_eq hlength)
    (Or.inl hlength), ofDigitChars_padded]

/-- A number with fewer digits than are taken at most, before something else. -/
theorem takeNumber_padded_cons (least width most : Nat) (hwidth : 0 < width)
    (hn : n < 10 ^ width) (hleast : least ≤ width) (hmost : width ≤ most) (hc : c.isDigit = false) :
    takeNumber least most ((padded width n).toList ++ c :: rest) = some (n, c :: rest) := by
  have hlength := length_padded hwidth hn
  rw [takeNumber_append (fun c => isDigit_of_mem_padded) (by rwa [hlength]) (by rwa [hlength])
    (Or.inr fun d hd => by cases hd; exact hc), ofDigitChars_padded]

theorem dropBlanks_digit (h : a.isDigit = true) (s : List Char) : dropBlanks (a :: s) = a :: s :=
  dropBlanks_of_head (isBlank_eq_false_of_isDigit h)

/-- A number begins with a digit. -/
theorem padded_eq_cons (width : Nat) (hwidth : 0 < width) (n : Nat) :
    ∃ a ds, a.isDigit = true ∧ (padded width n).toList = a :: ds := by
  obtain ⟨a, ds, htext⟩ :=
    List.exists_cons_of_length_pos (Nat.lt_of_lt_of_le hwidth (length_le_padded width n))
  exact ⟨a, ds, isDigit_of_mem_padded (htext ▸ List.mem_cons_self), htext⟩

/-- Before anything, a number begins with no blank. -/
theorem head_padded (width : Nat) (hwidth : 0 < width) (n : Nat) (rest : List Char) :
    ∃ c t, (padded width n).toList ++ rest = c :: t ∧ isBlank c = false := by
  obtain ⟨a, ds, ha, htext⟩ := padded_eq_cons width hwidth n
  exact ⟨a, ds ++ rest, by rw [htext, List.cons_append], isBlank_eq_false_of_isDigit ha⟩

/-- After anything, a number ends with no blank. -/
theorem last_padded (width : Nat) (hwidth : 0 < width) (n : Nat) (before : List Char) :
    ∃ t c, before ++ (padded width n).toList = t ++ [c] ∧ isBlank c = false := by
  have hne : (padded width n).toList ≠ [] :=
    List.length_pos_iff.mp (Nat.lt_of_lt_of_le hwidth (length_le_padded width n))
  refine ⟨before ++ (padded width n).toList.dropLast, (padded width n).toList.getLast hne, ?_,
    isBlank_eq_false_of_isDigit (isDigit_of_mem_padded (List.getLast_mem hne))⟩
  rw [List.append_assoc, List.dropLast_concat_getLast]

end Numbers

/-! ### Time stamps -/

/-- The offset of a clock that is ahead of universal time by some minutes. -/
def offsetText (minutes : Int) : String :=
  (if minutes < 0 then "-" else "+") ++ padded 2 (minutes.natAbs / 60) ++ ":" ++
    padded 2 (minutes.natAbs % 60)

/-- The time stamp of a moment that a clock shows which is ahead of universal time by some
minutes. -/
def Instant.stamp (shown : Instant) (minutes : Int) : String :=
  yearText shown.date.year ++ "-" ++ padded 2 shown.date.month ++ "-" ++ padded 2 shown.date.day ++
    "T" ++ padded 2 (shown.second / 3600) ++ ":" ++ padded 2 (shown.second / 60 % 60) ++ ":" ++
    padded 2 (shown.second % 60) ++ fractionText shown.nano ++ offsetText minutes

/-- A moment in the first ten thousand years that is not in a leap second. -/
structure Instant.Plain (t : Instant) : Prop extends t.Real where
  year : 0 ≤ t.date.year ∧ t.date.year ≤ 9999
  nano_lt : t.nano < nanosPerSecond

section Stamps

variable {t shown : Instant} {n : Nat} {c : Char} {rest : List Char} {minutes : Int}

theorem Instant.Plain.tight_stamp (h : shown.Plain) (minutes : Int) :
    Tight (shown.stamp minutes).toList := by
  have hyear : yearText shown.date.year = padded 4 shown.date.year.toNat := if_pos h.year
  constructor
  · simp only [Instant.stamp, hyear, String.toList_append, List.append_assoc]
    exact head_padded 4 (by decide) _ _
  · simp only [Instant.stamp, offsetText, String.toList_append, ← List.append_assoc]
    exact last_padded 2 (by decide) _ _

theorem Instant.Plain.text_eq (h : t.Plain) : t.text = t.stamp 0 := by
  have hzero : offsetText 0 = "+00:00" := by decide
  have hnano := h.nano_lt
  simp only [Instant.text, Instant.stamp, hzero, Nat.div_eq_of_lt hnano, Nat.mod_eq_of_lt hnano,
    Nat.add_zero]

theorem nanosOf_padded {width : Nat} (hwidth : 0 < width) (hle : width ≤ 9) (hn : n < 10 ^ width) :
    nanosOf (padded width n).toList = n * 10 ^ (9 - width) := by
  have hlength := length_padded hwidth hn
  have hnine : ((padded width n).toList ++ List.replicate 9 '0').take 9 =
      (padded width n).toList ++ List.replicate (9 - width) '0' := by
    rw [List.take_append, List.take_of_length_le (by omega), hlength, List.take_replicate,
      Nat.min_eq_left (by omega)]
  have hvalue : nanosOf (padded width n).toList = Nat.ofDigitChars 10
      (((padded width n).toList ++ List.replicate 9 '0').take 9) 0 := rfl
  rw [hvalue, hnine, Nat.ofDigitChars_append, ofDigitChars_padded,
    Nat.ofDigitChars_replicate_zero, Nat.mul_comm]

theorem takeFraction_point (width n : Nat) (hwidth : 0 < width) (hle : width ≤ 9)
    (hn : n < 10 ^ width) (hc : c.isDigit = false) (rest : List Char) :
    takeFraction ('.' :: ((padded width n).toList ++ c :: rest)) =
      some (n * 10 ^ (9 - width), c :: rest) := by
  have hdigits : ((padded width n).toList ++ c :: rest).takeWhile Char.isDigit =
      (padded width n).toList :=
    takeWhile_append_of_stop (fun c => isDigit_of_mem_padded) fun d hd => by cases hd; exact hc
  have hempty : (padded width n).toList.isEmpty = false := by
    rw [List.isEmpty_eq_false_iff, ← List.length_pos_iff, length_padded hwidth hn]
    exact hwidth
  simp only [takeFraction, hdigits, hempty, nanosOf_padded hwidth hle hn, List.drop_left,
    Bool.false_eq_true, if_false]

/-- A fraction of a second is read with the digits that it needs. -/
theorem takeFraction_fractionText (hn : n < nanosPerSecond) (hc : c.isDigit = false)
    (hpoint : c ≠ '.') (rest : List Char) :
    takeFraction ((fractionText n).toList ++ c :: rest) = some (n, c :: rest) := by
  have hnanos : nanosPerSecond = 1000000000 := rfl
  have hwhole : takeFraction (c :: rest) = some (0, c :: rest) := by
    unfold takeFraction
    split <;> simp_all
  unfold fractionText
  split
  · next hzero =>
    rw [hzero]
    exact hwhole
  · split
    · next hmillis =>
      have hread := takeFraction_point 3 (n / 1000000) (by decide) (by decide)
        (by omega) hc rest
      have hvalue : n / 1000000 * 10 ^ (9 - 3) = n := by omega
      rw [hvalue] at hread
      simpa using hread
    · split
      · next hmicros =>
        have hread := takeFraction_point 6 (n / 1000) (by decide) (by decide)
          (by omega) hc rest
        have hvalue : n / 1000 * 10 ^ (9 - 6) = n := by omega
        rw [hvalue] at hread
        simpa using hread
      · have hread := takeFraction_point 9 n (by decide) (by decide) (by omega) hc rest
        rw [Nat.sub_self, Nat.pow_zero, Nat.mul_one] at hread
        simpa using hread

theorem toList_offsetText (minutes : Int) :
    (offsetText minutes).toList = (if minutes < 0 then '-' else '+') ::
      ((padded 2 (minutes.natAbs / 60)).toList ++
        ':' :: (padded 2 (minutes.natAbs % 60)).toList) := by
  unfold offsetText
  split <;> simp

theorem takeOffset_offsetText (h : minutes.natAbs < 1440) :
    takeOffset (offsetText minutes).toList = some (60 * minutes, []) := by
  have hhours (rest : List Char) := takeNumber_padded 2 2
    (n := minutes.natAbs / 60) (by decide) (by omega) (Nat.le_refl 2) rest
  have hlast := takeNumber_padded 2 2 (n := minutes.natAbs % 60) (by decide)
    (by omega) (Nat.le_refl 2) []
  rw [List.append_nil] at hlast
  have hnumbers : takeOffsetNumbers (takeChar ':') ((padded 2 (minutes.natAbs / 60)).toList ++
      ':' :: (padded 2 (minutes.natAbs % 60)).toList) = some (60 * minutes.natAbs, []) := by
    have hsum : 3600 * (minutes.natAbs / 60) + 60 * (minutes.natAbs % 60) =
        60 * minutes.natAbs := by
      omega
    simp [takeOffsetNumbers, takeChar, hhours, hlast, hsum, Nat.mod_lt]
  rw [toList_offsetText]
  by_cases hbehind : minutes < 0
  · have hvalue : -(60 * minutes.natAbs : Nat) = 60 * minutes := by omega
    rw [if_pos hbehind, takeOffset, if_neg (by decide), if_neg (by decide), if_pos (by decide),
      hnumbers, Option.map_some]
    simp only [hvalue]
  · have hvalue : ((60 * minutes.natAbs : Nat) : Int) = 60 * minutes := by omega
    rw [if_neg hbehind, takeOffset, if_neg (by decide), if_pos rfl, hnumbers, Option.map_some]
    simp only [hvalue]

/-- A time stamp is read as the moment that its clock shows, moved by the offset. -/
theorem readStamp_stamp (h : shown.Plain) (hminutes : minutes.natAbs < 1440) :
    readStamp (shown.stamp minutes).toList = shown.shift (-(60 * minutes)) := by
  obtain ⟨⟨hvalid, hsecond⟩, hyear, hnano⟩ := h
  have hday : secondsPerDay = 86400 := rfl
  rw [hday] at hsecond
  have hdate := Date.real_iff.mp (Date.valid_iff.mp hvalid).2
  have hyearText : yearText shown.date.year = padded 4 shown.date.year.toNat := if_pos hyear
  have hyears (rest : List Char) := takeNumber_padded 4 4
    (n := shown.date.year.toNat) (by decide) (by omega) (Nat.le_refl 4) rest
  have hnumber (n : Nat) (hn : n < 100) (rest : List Char) :=
    takeNumber_padded 2 2 (n := n) (by decide) hn (Nat.le_refl 2) rest
  have hmonths := hnumber shown.date.month (by omega)
  have hdays := hnumber shown.date.day (by omega)
  have hhours := hnumber (shown.second / 3600) (by omega)
  have hminutes' := hnumber (shown.second / 60 % 60) (by omega)
  have hseconds := hnumber (shown.second % 60) (by omega)
  have htext : (shown.stamp minutes).toList = (padded 4 shown.date.year.toNat).toList ++ '-' ::
      ((padded 2 shown.date.month).toList ++ '-' :: ((padded 2 shown.date.day).toList ++ 'T' ::
      ((padded 2 (shown.second / 3600)).toList ++ ':' ::
      ((padded 2 (shown.second / 60 % 60)).toList ++ ':' ::
      ((padded 2 (shown.second % 60)).toList ++
      ((fractionText shown.nano).toList ++ (offsetText minutes).toList)))))) := by
    simp [Instant.stamp, hyearText]
  have htime : timeOfDay (shown.second / 3600) (shown.second / 60 % 60) (shown.second % 60)
      shown.nano = some (shown.second, shown.nano) := by
    rw [timeOfDay, if_pos (by omega)]
    simp only [Option.some.injEq, Prod.mk.injEq, and_true]
    omega
  have hmoment : momentOf ⟨shown.date.year.toNat, shown.date.month, shown.date.day⟩
      (some (shown.second, shown.nano)) = some shown := by
    rw [Int.toNat_of_nonneg hyear.1]
    exact if_pos hvalid
  have hoffset := toList_offsetText minutes
  have hsign : (if minutes < 0 then '-' else '+').isDigit = false ∧
      (if minutes < 0 then '-' else '+') ≠ '.' := by
    split <;> decide
  have hread := takeOffset_offsetText hminutes
  have hbound : (60 * minutes).natAbs < secondsPerDay := by omega
  rw [htext]
  rw [hoffset] at hread ⊢
  have hend := takeFraction_fractionText hnano hsign.1 hsign.2
    ((padded 2 (minutes.natAbs / 60)).toList ++ ':' :: (padded 2 (minutes.natAbs % 60)).toList)
  unfold readStamp
  refine (bind_of_read (hyears _)).trans ?_
  refine (bind_of_read (takeChar_self _ _)).trans ?_
  refine (bind_of_read (hmonths _)).trans ?_
  refine (bind_of_read (takeChar_self _ _)).trans ?_
  refine (bind_of_read (hdays _)).trans ?_
  refine (bind_of_read (takeDayEnd_mark _)).trans ?_
  refine (bind_of_read (hhours _)).trans ?_
  refine (bind_of_read (takeChar_self _ _)).trans ?_
  refine (bind_of_read (hminutes' _)).trans ?_
  refine (bind_of_read (takeChar_self _ _)).trans ?_
  refine (bind_of_read (hseconds _)).trans ?_
  refine (bind_of_read (hend)).trans ?_
  refine (bind_of_read (hread)).trans ?_
  refine (if_pos ⟨rfl, hbound⟩).trans ?_
  rw [htime]
  exact bind_of_read hmoment

/-- A time stamp is read as the moment that was moved to its clock. -/
theorem read_stamp (h : shown.Plain) (hminutes : minutes.natAbs < 1440)
    (hshift : shown.shift (-(60 * minutes)) = some t) : read (shown.stamp minutes) = some t := by
  rw [read, (h.tight_stamp minutes).trim, readStamp_stamp h hminutes, hshift]
  rfl

end Stamps

/-! ### Fixed formats -/

/-- A part of a format with the number that belongs there. -/
def Part.write (p : Parts) : Part → String
  | .year => padded 4 p.year.toNat
  | .month => padded 2 p.month
  | .day => padded 2 p.day
  | .hour => padded 2 p.hour
  | .minute => padded 2 p.minute
  | .second => padded 2 p.second
  | .mark c => String.singleton c
  | .gap => " "

/-- The text that a format gives to some numbers. -/
def written (format : List Part) (p : Parts) : String := String.join (format.map (Part.write p))

/-- Takes over the number that belongs to a part. -/
def Part.fill (p : Parts) (found : Parts) : Part → Parts
  | .year => { found with year := p.year }
  | .month => { found with month := p.month }
  | .day => { found with day := p.day }
  | .hour => { found with hour := p.hour }
  | .minute => { found with minute := p.minute }
  | .second => { found with second := p.second }
  | .mark _ => found
  | .gap => found

/-- The numbers of a day in the first ten thousand years and of a time of day. -/
structure Parts.Plain (p : Parts) : Prop where
  date : (⟨p.year, p.month, p.day⟩ : Date).valid = true
  year : 0 ≤ p.year ∧ p.year ≤ 9999
  hour : p.hour < 24
  minute : p.minute < 60
  second : p.second < 60

def Part.width : Part → Nat
  | .year => 4
  | .mark _ => 1
  | .gap => 1
  | _ => 2

def Part.isNumber : Part → Bool
  | .mark _ => false
  | .gap => false
  | _ => true

/-- Whether the text of a part begins with something other than a blank. -/
def Part.opens : Part → Bool
  | .mark c => !isBlank c
  | part => part.isNumber

/-- In such a format no blank follows the blank of a gap. -/
def spaced : List Part → Bool
  | [] => true
  | part :: more => (part != .gap || more.head?.all Part.opens) && spaced more

/-- A mark that stands between numbers, and can be no sign of one of them. -/
def isMark (c : Char) : Bool := !c.isDigit && !isBlank c && c != '-' && c != '+'

/-- The character that a part asks for. -/
def Part.mark? : Part → Option Char
  | .mark c => some c
  | _ => none

/-- The marks that a format asks for, in their order. -/
def marks (format : List Part) : List Char := (format.filterMap Part.mark?).filter isMark

section Formats

variable {p found found' : Parts} {part : Part} {format : List Part} {a b c : Char}
variable {least most n width : Nat} {m : Int} {s rest : List Char} {x : Option Char}

theorem dropBlanks_padded (width : Nat) (hwidth : 0 < width) (n : Nat) (rest : List Char) :
    dropBlanks ((padded width n).toList ++ rest) = (padded width n).toList ++ rest := by
  obtain ⟨a, ds, ha, htext⟩ := padded_eq_cons width hwidth n
  rw [htext]
  exact dropBlanks_digit ha _

theorem takeYear_digit (h : a.isDigit = true) (s : List Char) :
    takeYear (a :: s) = (takeNumber 1 4 (a :: s)).map fun (n, s) => ((n : Int), s) := by
  unfold takeYear
  split <;> simp_all

theorem takeYear_padded (hn : n < 10000) (rest : List Char) :
    takeYear ((padded 4 n).toList ++ rest) = some ((n : Int), rest) := by
  obtain ⟨a, ds, ha, htext⟩ := padded_eq_cons 4 (by decide) n
  have hread := takeNumber_padded 1 4 (by decide) hn (by decide) rest
  rw [htext] at hread ⊢
  rw [List.cons_append] at hread ⊢
  rw [takeYear_digit ha, hread]
  rfl

theorem allBlank_gap : AllBlank " ".toList := by
  intro c hc
  obtain rfl := List.mem_singleton.mp hc
  decide

/-- The text of a part is read as the number that it was written for. Blanks that follow a gap
would be lost. -/
theorem Part.read_write (hp : p.Plain) (found : Parts)
    (hgap : part = .gap → ∀ c ∈ rest.head?, isBlank c = false) :
    part.read found ((part.write p).toList ++ rest) = some (part.fill p found, rest) := by
  obtain ⟨hvalid, hyear, hhour, hminute, hsecond⟩ := hp
  have hdate := Date.real_iff.mp (Date.valid_iff.mp hvalid).2
  simp only at hdate
  have hnumber (n : Nat) (hn : n < 100) :
      takeNumber 1 2 (dropBlanks ((padded 2 n).toList ++ rest)) = some (n, rest) := by
    rw [dropBlanks_padded 2 (by decide)]
    exact takeNumber_padded 1 2 (by decide) hn (by decide) rest
  cases part with
  | year =>
    simp only [read, write]
    rw [dropBlanks_padded 4 (by decide), takeYear_padded (by omega), Option.map_some,
      Int.toNat_of_nonneg hyear.1]
    rfl
  | month | day | hour | minute | second =>
    simp only [read, write]
    rw [hnumber _ (by omega)]
    rfl
  | mark c =>
    simp only [read, write, String.toList_singleton, List.singleton_append, takeChar_self]
    rfl
  | gap =>
    simp only [read, write]
    rw [dropBlanks_append allBlank_gap, dropBlanks_of_head? (hgap rfl)]
    rfl

theorem Part.write_eq_padded (h : part.isNumber) (p : Parts) :
    ∃ width n, 1 < width ∧ part.write p = padded width n := by
  cases part with
  | year => exact ⟨4, _, by decide, rfl⟩
  | month | day | hour | minute | second => exact ⟨2, _, by decide, rfl⟩
  | mark c => cases h
  | gap => cases h

theorem toList_written_cons (part : Part) (format : List Part) (p : Parts) :
    (written (part :: format) p).toList = (part.write p).toList ++ (written format p).toList := by
  rw [written, List.map_cons, String.join_cons, String.toList_append]
  rfl

theorem head_written (h : format.head?.all Part.opens) :
    ∀ c ∈ (written format p).toList.head?, isBlank c = false := by
  cases format with
  | nil => simp [written]
  | cons part more =>
    have hnumber (hpart : part.isNumber) :
        ∀ c ∈ (written (part :: more) p).toList.head?, isBlank c = false := by
      obtain ⟨width, n, hwidth, hwrite⟩ := Part.write_eq_padded hpart p
      obtain ⟨a, t, htext, ha⟩ := head_padded width (by omega) n (written more p).toList
      rw [toList_written_cons, hwrite, htext]
      intro c hc
      obtain rfl := Option.some.inj hc
      exact ha
    cases part with
    | year | month | day | hour | minute | second => exact hnumber rfl
    | mark c =>
      intro d hd
      have heq : c = d := by simpa [toList_written_cons, Part.write] using hd
      simpa [Part.opens, heq] using h
    | gap => cases h

/-- The text of a format is read as the numbers that it was written for. -/
theorem readParts_written (hp : p.Plain) (hspaced : spaced format) (found : Parts) :
    readParts format found (written format p).toList =
      some (format.foldl (Part.fill p) found) := by
  induction format generalizing found with
  | nil => rfl
  | cons part more ih =>
    obtain ⟨hnext, hmore⟩ : (part != .gap || more.head?.all Part.opens) = true ∧ spaced more :=
      Bool.and_eq_true_iff.mp hspaced
    rw [toList_written_cons]
    refine (bind_of_read (Part.read_write hp found fun hgap => head_written ?_)).trans (ih hmore _)
    simpa [hgap] using hnext

/-! ### Marks -/

theorem marks_cons (part : Part) (format : List Part) :
    marks (part :: format) = marks [part] ++ marks format := by
  rw [marks, ← List.singleton_append, List.filterMap_append, List.filter_append]
  rfl

theorem filter_isMark_of_digits (h : ∀ c ∈ s, c.isDigit = true) : s.filter isMark = [] :=
  List.filter_eq_nil_iff.mpr fun c hc => by simp [isMark, h c hc]

theorem filter_isMark_of_blanks (h : AllBlank s) : s.filter isMark = [] :=
  List.filter_eq_nil_iff.mpr fun c hc => by simp [isMark, h c hc]

theorem filter_dropBlanks (s : List Char) : (dropBlanks s).filter isMark = s.filter isMark := by
  obtain ⟨b, hb, hs⟩ := exists_blanks_append s
  conv => rhs; rw [hs]
  rw [List.filter_append, filter_isMark_of_blanks hb, List.nil_append]

theorem filter_takeNumber (h : takeNumber least most s = some (n, rest)) :
    rest.filter isMark = s.filter isMark := by
  let ds := (s.take most).takeWhile Char.isDigit
  have hds : ∀ c ∈ ds, c.isDigit = true :=
    fun c hc => List.all_eq_true.mp List.all_takeWhile c hc
  obtain ⟨more, hmore⟩ : ds <+: s := (List.takeWhile_prefix _).trans (List.take_prefix _ _)
  simp only [takeNumber] at h
  split at h
  · cases h
  · obtain ⟨-, rfl⟩ := Prod.mk.inj (Option.some.inj h)
    show (s.drop ds.length).filter isMark = s.filter isMark
    rw [← hmore, List.drop_left, List.filter_append, filter_isMark_of_digits hds, List.nil_append]

theorem filter_takeYear (h : takeYear s = some (m, rest)) :
    rest.filter isMark = s.filter isMark := by
  unfold takeYear at h
  split at h <;> obtain ⟨⟨n, s'⟩, hread, heq⟩ := Option.map_eq_some_iff.mp h <;>
    obtain ⟨-, rfl⟩ := Prod.mk.inj heq <;> rw [filter_takeNumber hread]
  · exact (List.filter_cons_of_neg (by decide)).symm
  · exact (List.filter_cons_of_neg (by decide)).symm

/-- A part takes no mark off a text but the one that it asks for. -/
theorem Part.filter_read (h : part.read found s = some (found', rest)) :
    s.filter isMark = marks [part] ++ rest.filter isMark := by
  cases part with
  | year =>
    obtain ⟨⟨n, s'⟩, hread, heq⟩ := Option.map_eq_some_iff.mp h
    obtain ⟨-, rfl⟩ := Prod.mk.inj heq
    exact ((filter_takeYear hread).trans (filter_dropBlanks s)).symm
  | month | day | hour | minute | second =>
    obtain ⟨⟨n, s'⟩, hread, heq⟩ := Option.map_eq_some_iff.mp h
    obtain ⟨-, rfl⟩ := Prod.mk.inj heq
    exact ((filter_takeNumber hread).trans (filter_dropBlanks s)).symm
  | mark c =>
    obtain ⟨s', hread, heq⟩ := Option.map_eq_some_iff.mp h
    obtain ⟨-, rfl⟩ := Prod.mk.inj heq
    cases s with
    | nil => cases hread
    | cons d s =>
      simp only [takeChar] at hread
      split at hread
      · next hd =>
        obtain rfl := hd
        obtain rfl := Option.some.inj hread
        exact List.filter_append [d] s
      · cases hread
  | gap =>
    obtain ⟨-, rfl⟩ := Prod.mk.inj (Option.some.inj h)
    exact (filter_dropBlanks s).symm

/-- A format reads only texts with its own marks. -/
theorem filter_eq_marks (h : readParts format found s = some found') :
    s.filter isMark = marks format := by
  induction format generalizing found s with
  | nil =>
    have hempty : s.isEmpty = true := by
      unfold readParts at h
      split at h
      · assumption
      · cases h
    rw [List.isEmpty_iff.mp hempty]
    rfl
  | cons part more ih =>
    obtain ⟨⟨found'', rest⟩, hread, hmore⟩ := Option.bind_eq_some_iff.mp h
    rw [Part.filter_read hread, ih hmore]
    exact (marks_cons part more).symm

theorem Part.filter_write (p : Parts) (part : Part) :
    (part.write p).toList.filter isMark = marks [part] := by
  cases part with
  | year | month | day | hour | minute | second =>
    exact filter_isMark_of_digits fun c => isDigit_of_mem_padded
  | mark c => simp [write, marks, mark?]
  | gap => exact filter_isMark_of_blanks allBlank_gap

theorem filter_written (format : List Part) (p : Parts) :
    (written format p).toList.filter isMark = marks format := by
  induction format with
  | nil => rfl
  | cons part more ih =>
    rw [toList_written_cons, List.filter_append, Part.filter_write, ih, ← marks_cons]

/-- A format with other marks does not read the text of a format. -/
theorem readFormat_eq_none {other : List Part} (h : marks other ≠ marks format) (p : Parts) :
    readFormat other (written format p).toList = none := by
  have hread : readParts other {} (written format p).toList = none := by
    cases hread : readParts other {} (written format p).toList with
    | none => rfl
    | some found => exact absurd ((filter_eq_marks hread).symm.trans (filter_written format p)) h
  rw [readFormat, hread]
  rfl

/-! ### Texts that are no time stamp and no mail date -/

theorem length_takeNumber (h : takeNumber least most s = some (n, rest)) :
    least + rest.length ≤ s.length ∧ s.length ≤ most + rest.length := by
  simp only [takeNumber] at h
  split at h
  · cases h
  · obtain ⟨-, rfl⟩ := Prod.mk.inj (Option.some.inj h)
    have hle := (List.takeWhile_prefix (l := s.take most) Char.isDigit).length_le
    rw [List.length_take] at hle
    rw [List.length_drop]
    omega

theorem length_takeChar (h : takeChar c s = some rest) : s.length = 1 + rest.length := by
  cases s with
  | nil => cases h
  | cons d s =>
    simp only [takeChar] at h
    split at h
    · obtain rfl := Option.some.inj h
      rw [List.length_cons, Nat.add_comm]
    · cases h

theorem length_takeDayEnd (h : takeDayEnd s = some rest) : s.length = 1 + rest.length := by
  cases s with
  | nil => cases h
  | cons d s =>
    simp only [takeDayEnd] at h
    split at h
    · obtain rfl := Option.some.inj h
      rw [List.length_cons, Nat.add_comm]
    · cases h

/-- A time stamp has at least twenty characters. -/
theorem length_of_readStamp {t : Instant} (h : readStamp s = some t) : 20 ≤ s.length := by
  unfold readStamp at h
  obtain ⟨⟨_, _⟩, hyear, h⟩ := Option.bind_eq_some_iff.mp h
  obtain ⟨_, hmark, h⟩ := Option.bind_eq_some_iff.mp h
  obtain ⟨⟨_, _⟩, hmonth, h⟩ := Option.bind_eq_some_iff.mp h
  obtain ⟨_, hmark', h⟩ := Option.bind_eq_some_iff.mp h
  obtain ⟨⟨_, _⟩, hday, h⟩ := Option.bind_eq_some_iff.mp h
  obtain ⟨_, hend, h⟩ := Option.bind_eq_some_iff.mp h
  obtain ⟨⟨_, _⟩, hhour, h⟩ := Option.bind_eq_some_iff.mp h
  obtain ⟨_, hcolon, h⟩ := Option.bind_eq_some_iff.mp h
  obtain ⟨⟨_, _⟩, hminute, h⟩ := Option.bind_eq_some_iff.mp h
  obtain ⟨_, hcolon', h⟩ := Option.bind_eq_some_iff.mp h
  obtain ⟨⟨_, rest⟩, hsecond, h⟩ := Option.bind_eq_some_iff.mp h
  obtain ⟨⟨_, _⟩, hfraction, h⟩ := Option.bind_eq_some_iff.mp h
  obtain ⟨⟨_, _⟩, hoffset, -⟩ := Option.bind_eq_some_iff.mp h
  have hleft : 0 < rest.length := by
    cases rest with
    | nil =>
      obtain ⟨-, rfl⟩ := Prod.mk.inj (Option.some.inj hfraction)
      cases hoffset
    | cons => exact Nat.succ_pos _
  have hexact {width n : Nat} {s rest : List Char}
      (h : takeNumber width width s = some (n, rest)) : s.length = width + rest.length :=
    Nat.le_antisymm (length_takeNumber h).2 (length_takeNumber h).1
  rw [hexact hyear, length_takeChar hmark, hexact hmonth, length_takeChar hmark', hexact hday,
    length_takeDayEnd hend, hexact hhour, length_takeChar hcolon, hexact hminute,
    length_takeChar hcolon', hexact hsecond]
  omega

theorem length_written (hp : p.Plain) (format : List Part) :
    (written format p).toList.length = (format.map Part.width).sum := by
  obtain ⟨hvalid, hyear, hhour, hminute, hsecond⟩ := hp
  have hdate := Date.real_iff.mp (Date.valid_iff.mp hvalid).2
  simp only at hdate
  induction format with
  | nil => rfl
  | cons part more ih =>
    rw [toList_written_cons, List.length_append, ih, List.map_cons, List.sum_cons]
    congr 1
    cases part with
    | year => exact length_padded (by decide) (by omega)
    | month | day | hour | minute | second => exact length_padded (by decide) (by omega)
    | mark c => exact congrArg List.length (String.toList_singleton c)
    | gap => exact congrArg List.length (String.toList_singleton ' ')

/-- Two digits and more than a blank after them are no date of a mail. -/
theorem readMailDate_digits (ha : a.isDigit = true) (hb : b.isDigit = true)
    (hc : isBlank c = false) (s : List Char) : readMailDate (a :: b :: c :: s) = none := by
  have hlower : a.toLower = a := by
    have ha := Char.isDigit_iff_toNat.mp ha
    have hlast : '9'.toNat = 57 := rfl
    refine dif_neg fun hupper => ?_
    have hfirst : 65 ≤ a.toNat := hupper.1
    omega
  have hname : takeName weekdayNames (a :: b :: c :: s) = none := by
    have hletters : ∀ name ∈ weekdayNames, ∀ d ∈ name.toList.head?, d.isDigit = false := by
      simp [weekdayNames]
    rw [takeName, List.findIdx?_eq_none_iff.mpr]
    · rfl
    · intro name hmem
      rw [beq_eq_false_iff_ne]
      intro heq
      have hfirst := hletters name hmem a (by rw [heq]; simp [hlower])
      rw [ha] at hfirst
      cases hfirst
  have hnumber : takeNumber 1 2 ([a, b] ++ c :: s) = some (Nat.ofDigitChars 10 [a, b] 0, c :: s) :=
    takeNumber_append (by simp [ha, hb]) (by simp) (by simp) (Or.inl rfl)
  have hblanks : takeBlanks (c :: s) = none := by simp [takeBlanks, hc]
  have hweekday : takeWeekday (a :: b :: c :: s) = some (none, a :: b :: c :: s) := by
    rw [takeWeekday, hname]
  unfold readMailDate
  rw [dropBlanks_digit ha]
  refine (bind_of_read hweekday).trans ?_
  refine (bind_of_read ((congrArg _ (dropBlanks_digit ha _)).trans hnumber)).trans ?_
  refine (congrArg (Option.bind · _) hblanks).trans ?_
  rfl

/-- A number and a mark after it are no beginning of a date of a mail. -/
theorem readMailDate_written (hpart : part.isNumber) (hc : isBlank c = false)
    (more : List Part) (p : Parts) :
    readMailDate (written (part :: .mark c :: more) p).toList = none := by
  obtain ⟨width, n, hwidth, hwrite⟩ := Part.write_eq_padded hpart p
  obtain ⟨a, ds, ha, htext⟩ := padded_eq_cons width (by omega) n
  have hdigits (d : Char) (hd : d ∈ (padded width n).toList) := isDigit_of_mem_padded hd
  have hlength := length_le_padded width n
  have hmark : (Part.write p (.mark c)).toList = [c] := String.toList_singleton c
  rw [htext] at hdigits hlength
  rw [toList_written_cons, toList_written_cons, hmark, List.singleton_append, hwrite, htext]
  match ds with
  | [] => exact absurd hlength (Nat.not_le.mpr hwidth)
  | [b] => exact readMailDate_digits ha (hdigits b (by simp)) hc _
  | b :: d :: ds =>
    exact readMailDate_digits ha (hdigits b (by simp))
      (isBlank_eq_false_of_isDigit (hdigits d (by simp))) _

/-- A text that begins and ends with a number has no blanks around it. -/
theorem tight_written (hfirst : format.head?.any Part.isNumber)
    (hlast : format.getLast?.any Part.isNumber) (p : Parts) : Tight (written format p).toList where
  head := by
    cases format with
    | nil => cases hfirst
    | cons part more =>
      obtain ⟨width, n, hwidth, hwrite⟩ := Part.write_eq_padded hfirst p
      rw [toList_written_cons, hwrite]
      exact head_padded width (by omega) n _
  last := by
    obtain ⟨part, hpart, hnumber⟩ := (Option.any_eq_true _ _).mp hlast
    obtain ⟨before, rfl⟩ := List.getLast?_eq_some_iff.mp hpart
    obtain ⟨width, n, hwidth, hwrite⟩ := Part.write_eq_padded hnumber p
    have htext : (written (before ++ [part]) p).toList =
        (written before p).toList ++ (padded width n).toList := by
      simp [written, hwrite]
    rw [htext]
    exact last_padded width (by omega) n _

/-- The moment that is meant by some numbers, of which a format may leave out the time. -/
def Parts.moment (p : Parts) (format : List Part) : Instant :=
  ⟨⟨p.year, p.month, p.day⟩, 3600 * (if .hour ∈ format then p.hour else 0) +
    60 * (if .minute ∈ format then p.minute else 0) + if .second ∈ format then p.second else 0, 0⟩

theorem foldl_fill (format : List Part) (p found : Parts) :
    format.foldl (Part.fill p) found =
      { year := if .year ∈ format then p.year else found.year
        month := if .month ∈ format then p.month else found.month
        day := if .day ∈ format then p.day else found.day
        hour := if .hour ∈ format then p.hour else found.hour
        minute := if .minute ∈ format then p.minute else found.minute
        second := if .second ∈ format then p.second else found.second } := by
  induction format generalizing found with
  | nil => rfl
  | cons part more ih =>
    rw [List.foldl_cons, ih]
    cases part <;> simp [Part.fill]

theorem readFormat_written (hp : p.Plain) (hspaced : spaced format)
    (hday : .year ∈ format ∧ .month ∈ format ∧ .day ∈ format) :
    readFormat format (written format p).toList = some (p.moment format) := by
  have hhour : (if .hour ∈ format then p.hour else 0) < 24 := by
    have := hp.hour
    split <;> omega
  have hminute : (if .minute ∈ format then p.minute else 0) < 60 := by
    have := hp.minute
    split <;> omega
  have hsecond : (if .second ∈ format then p.second else 0) < 60 := by
    have := hp.second
    split <;> omega
  rw [readFormat, readParts_written hp hspaced, foldl_fill, if_pos hday.1, if_pos hday.2.1,
    if_pos hday.2.2]
  show momentOf _ (timeOfDay (if .hour ∈ format then p.hour else 0)
    (if .minute ∈ format then p.minute else 0) (if .second ∈ format then p.second else 0) 0) = _
  rw [timeOfDay, if_pos (And.intro hhour (And.intro hminute hsecond))]
  exact if_pos hp.date

/-- With the year at its end a day is not read from the year on: the last number would have two of
the four digits. -/
theorem readFormat_year_last (hp : p.Plain) :
    readFormat (dayFormat '/')
      (written [.month, .mark '/', .day, .mark '/', .year] p).toList = none := by
  have hdate := Date.real_iff.mp (Date.valid_iff.mp hp.date).2
  simp only at hdate
  have htext : (written [.month, .mark '/', .day, .mark '/', .year] p).toList =
      (padded 2 p.month).toList ++ '/' :: ((padded 2 p.day).toList ++
        '/' :: (padded 4 p.year.toNat).toList) := by
    simp [written, Part.write]
  have hyear (found : Parts) (rest : List Char) : Part.read .year found
      ((padded 2 p.month).toList ++ '/' :: rest) =
        some ({ found with year := p.month }, '/' :: rest) := by
    have hread : takeNumber 1 4 ((padded 2 p.month).toList ++ '/' :: rest) =
        some (p.month, '/' :: rest) :=
      takeNumber_padded_cons 1 2 4 (by decide) (by omega) (by decide) (by decide) (by decide)
    obtain ⟨a, ds, ha, hdigits⟩ := padded_eq_cons 2 (by decide) p.month
    simp only [Part.read, dropBlanks_padded 2 (by decide)]
    rw [hdigits, List.cons_append] at hread ⊢
    rw [takeYear_digit ha, hread]
    rfl
  have hmonth (found : Parts) (rest : List Char) : Part.read .month found
      ((padded 2 p.day).toList ++ rest) = some ({ found with month := p.day }, rest) := by
    simp only [Part.read, dropBlanks_padded 2 (by decide)]
    rw [takeNumber_padded 1 2 (by decide) (by omega) (by decide)]
    rfl
  have hmark (found : Parts) (rest : List Char) :
      Part.read (.mark '/') found ('/' :: rest) = some (found, rest) := rfl
  have hday (found : Parts) : readParts [.day] found (padded 4 p.year.toNat).toList = none := by
    have hlength := length_le_padded 4 p.year.toNat
    have hblanks := dropBlanks_padded 4 (by decide) p.year.toNat []
    rw [List.append_nil] at hblanks
    cases hread : takeNumber 1 2 (padded 4 p.year.toNat).toList with
    | none => simp [readParts, Part.read, hblanks, hread]
    | some x =>
      have hleft : x.2 ≠ [] := by
        rw [← List.length_pos_iff]
        have := (length_takeNumber hread).2
        omega
      simp [readParts, Part.read, hblanks, hread, hleft]
  have hparts : readParts (dayFormat '/') {} ((padded 2 p.month).toList ++
      '/' :: ((padded 2 p.day).toList ++ '/' :: (padded 4 p.year.toNat).toList)) = none := by
    refine (bind_of_read (hyear _ _)).trans ?_
    refine (bind_of_read (hmark _ _)).trans ?_
    refine (bind_of_read (hmonth _ _)).trans ?_
    exact (bind_of_read (hmark _ _)).trans (hday _)
  rw [readFormat, htext, hparts]
  rfl

/-- What all formats have in common. -/
theorem formats_shape : ∀ format ∈ formats,
    (spaced format = true ∧ .year ∈ format ∧ .month ∈ format ∧ .day ∈ format) ∧
      format.head?.any Part.isNumber = true ∧ format.getLast?.any Part.isNumber = true ∧
      (format.map Part.width).sum < 20 := by
  decide

theorem formats_begin : ∀ format ∈ formats, ∃ part c more, format = part :: .mark c :: more ∧
    part.isNumber = true ∧ isBlank c = false := by
  simp only [formats, List.forall_mem_cons]
  refine ⟨?_, ?_, ?_, ?_, ?_, ?_, ?_, ?_, by simp⟩ <;> exact ⟨_, _, _, rfl, rfl, rfl⟩

theorem formats_pairwise : formats.Pairwise fun other format => marks other ≠ marks format ∨
    other = dayFormat '/' ∧ format = [.month, .mark '/', .day, .mark '/', .year] := by
  decide

theorem read_written (h : format ∈ formats) (hp : p.Plain) :
    read (written format p) = some (p.moment format) := by
  obtain ⟨⟨hspaced, hday⟩, hfirst, hlast, hwidth⟩ := formats_shape format h
  obtain ⟨part, c, more, heq, hpart, hc⟩ := formats_begin format h
  have hstamp : readStamp (written format p).toList = none := by
    cases hread : readStamp (written format p).toList with
    | none => rfl
    | some t =>
      have hlength := length_of_readStamp hread
      rw [length_written hp] at hlength
      omega
  have hmail : readMailDate (written format p).toList = none := by
    rw [heq]
    exact readMailDate_written hpart hc more p
  have hformats : formats.findSome? (readFormat · (written format p).toList) =
      some (p.moment format) := by
    obtain ⟨before, after, hsplit⟩ := List.append_of_mem h
    refine List.findSome?_eq_some_iff.mpr
      ⟨before, format, after, hsplit, readFormat_written hp hspaced hday, fun other hother => ?_⟩
    have hpair := formats_pairwise
    rw [hsplit, List.pairwise_append] at hpair
    rcases hpair.2.2 other hother format List.mem_cons_self with hne | ⟨rfl, rfl⟩
    · exact readFormat_eq_none hne p
    · exact readFormat_year_last hp
  rw [read, (tight_written hfirst hlast p).trim, hstamp, hmail, hformats]
  rfl

end Formats

/-- Dates are read back from their texts. A moment in the first ten thousand years is found again
in the text that a value gets in a request, and in the time stamp of any clock that is less than a
day off by whole minutes, as long as its year keeps four digits. A day and a time of day are found
again in each of the fixed formats, as far as the format has them. White space around a text does
not matter. -/
theorem dates_read_back :
    (∀ t : Instant, t.Plain → ∃ s, (Scalar.date t).toJson = .string s ∧ read s = some t) ∧
    (∀ (t : Instant) (minutes : Int), t.Plain → minutes.natAbs < 24 * 60 →
      ∃ shown, t.shift (60 * minutes) = some shown ∧
        (0 ≤ shown.date.year ∧ shown.date.year ≤ 9999 →
          read (shown.stamp minutes) = some t)) ∧
    (∀ format ∈ formats, ∀ p : Parts, p.Plain →
      read (written format p) = some (p.moment format)) ∧
    ∀ before s after : String, AllBlank before.toList → AllBlank after.toList →
      read (before ++ s ++ after) = read s := by
  refine ⟨fun t ht => ⟨t.text, rfl, ?_⟩, fun t minutes ht hminutes => ?_,
    fun format h p hp => read_written h hp, fun before s after hbefore hafter => ?_⟩
  · rw [ht.text_eq]
    exact read_stamp ht (by decide) (Instant.shift_zero ht.toReal)
  · have hday : secondsPerDay = 86400 := rfl
    have hnear : (60 * minutes).natAbs < secondsPerDay := by omega
    obtain ⟨shown, hshift⟩ :=
      Option.isSome_iff_exists.mp (Instant.shift_isSome ht.toReal ht.year hnear)
    obtain ⟨hreal, hnano, hback⟩ := Instant.shift_neg ht.toReal hshift
    refine ⟨shown, hshift, fun hyear => read_stamp ⟨hreal, hyear, ?_⟩ (by omega) hback⟩
    rw [hnano]
    exact ht.nano_lt
  · rw [read, read, trim_append hbefore hafter]

/-- Late on a leap day, on a clock that shows the first of March. -/
theorem leap_day_read_back :
    let t : Instant := ⟨⟨2024, 2, 29⟩, 86399, 5000000⟩
    let p : Parts := ⟨2024, 2, 29, 23, 59, 58⟩
    let format : List Part := [.day, .mark '.', .month, .mark '.', .year]
    (t.Plain ∧ ∃ s, (Scalar.date t).toJson = .string s ∧ read s = some t) ∧
    (∃ shown, t.shift (60 * 330) = some shown ∧ shown.date = ⟨2024, 3, 1⟩ ∧
      read (shown.stamp 330) = some t) ∧
    (format ∈ formats ∧ p.Plain ∧ read (written format p) = some ⟨⟨2024, 2, 29⟩, 0, 0⟩) ∧
    AllBlank ['\t'] ∧ AllBlank [] ∧ read ("\t" ++ "29.02.2024" ++ "") = read "29.02.2024" := by
  intro t p format
  obtain ⟨hvalue, hclock, hformat, hblanks⟩ := dates_read_back
  have ht : t.Plain := ⟨⟨by decide, by decide⟩, by decide, by decide⟩
  have hp : p.Plain := ⟨by decide, by decide, by decide, by decide, by decide⟩
  have hshift : t.shift (60 * 330) = some ⟨⟨2024, 3, 1⟩, 19799, 5000000⟩ := by decide
  have htab : AllBlank ['\t'] := by simpa [AllBlank] using (by decide : isBlank '\t' = true)
  have hnone : AllBlank [] := by simp [AllBlank]
  obtain ⟨shown, hshown, hread⟩ := hclock t 330 ht (by decide)
  obtain rfl := Option.some.inj (hshift.symm.trans hshown)
  exact ⟨⟨ht, hvalue t ht⟩, ⟨_, hshift, rfl, hread (by decide)⟩,
    ⟨by decide, hp, hformat format (by decide) p hp⟩, htab, hnone,
    hblanks "\t" "29.02.2024" "" (by simpa using htab) (by simpa using hnone)⟩

example : written (dayFormat '-' ++ [.gap] ++ clockFormat) ⟨987, 1, 2, 3, 4, 5⟩ =
    "0987-01-02 03:04" := by
  decide +kernel

end DocSearch.Calendar
