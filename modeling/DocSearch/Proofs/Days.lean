import DocSearch.Calendar.Instant
import Mathlib.Order.Monotone.Basic
import Mathlib.Tactic.IntervalCases

/-!
# Days and dates

Dates and the numbers of days stand for each other. With years that begin in March, the days of an
era of 400 years are cut up by the first days of its years, and the days of a year by the first days
of its months. The number of the year in an era is read off a day by a quotient that never falls as
the days go on, so it is enough to look at the first and the last day of each of the 400 years.

Hence a moment that is moved by some seconds and back again is the same moment.
-/

namespace DocSearch.Calendar

/-! ### Years of an era -/

/-- The days of an era before its year with number `k`. -/
def yearStart (k : Nat) : Nat := 365 * k + k / 4 - k / 100 + k / 400

/-- The number of the year in which a day of an era lies. -/
def yearOfEra (n : Nat) : Nat := (n - n / 1460 + n / 36524 - n / 146096) / 365

theorem yearOfEra_mono : Monotone yearOfEra := by
  refine monotone_nat_of_le_succ fun n => Nat.div_le_div_right ?_
  omega

/-- The first and the last day of each year of an era. -/
theorem yearOfEra_ends : ∀ k < 400,
    yearOfEra (yearStart k) = k ∧ yearOfEra (yearStart (k + 1) - 1) = k := by
  decide +kernel

theorem yearOfEra_eq {k n : Nat} (hk : k < 400) (hfirst : yearStart k ≤ n)
    (hlast : n < yearStart (k + 1)) : yearOfEra n = k := by
  obtain ⟨hstart, hend⟩ := yearOfEra_ends k hk
  have hlow := yearOfEra_mono hfirst
  have hhigh : yearOfEra n ≤ yearOfEra (yearStart (k + 1) - 1) := yearOfEra_mono (by omega)
  omega

theorem exists_year {n : Nat} (m : Nat) (h : n < yearStart m) :
    ∃ k < m, yearStart k ≤ n ∧ n < yearStart (k + 1) := by
  induction m with
  | zero => exact absurd h (Nat.not_lt_zero n)
  | succ m ih =>
    by_cases hn : n < yearStart m
    · obtain ⟨k, hk, hyear⟩ := ih hn
      exact ⟨k, by omega, hyear⟩
    · exact ⟨m, by omega, by omega, h⟩

/-! ### Dates -/

/-- A day of the calendar, in any year. -/
structure Date.Real (d : Date) : Prop where
  day_pos : 1 ≤ d.day
  day_le : d.day ≤ daysInMonth d.year d.month

theorem Date.valid_iff {d : Date} :
    d.valid = true ↔ (firstYear ≤ d.year ∧ d.year ≤ lastYear) ∧ d.Real := by
  simp only [valid, Bool.and_eq_true, decide_eq_true_eq, and_assoc]
  exact ⟨fun ⟨h₁, h₂, h₃, h₄⟩ => ⟨h₁, h₂, h₃, h₄⟩, fun ⟨h₁, h₂, h₃, h₄⟩ => ⟨h₁, h₂, h₃, h₄⟩⟩

namespace Date

/-- The year, begun with March, in which a date lies. -/
def marchYear (d : Date) : Int := if d.month ≤ 2 then d.year - 1 else d.year

/-- How many months lie between March and that of a date. -/
def marchMonth (d : Date) : Nat := if d.month ≤ 2 then d.month + 9 else d.month - 3

/-- How many days of its year, begun with March, lie before a date. -/
def dayOfYear (d : Date) : Nat :=
  (153 * d.marchMonth + 2) / 5 + d.day - 1

/-- The date after some days of a year that begins with March. -/
def ofMarchYear (year : Int) (inYear : Nat) : Date :=
  let month := (5 * inYear + 2) / 153
  let day := inYear - (153 * month + 2) / 5 + 1
  if month < 10 then ⟨year, month + 3, day⟩ else ⟨year + 1, month - 9, day⟩

variable {d : Date} {e : Int} {k D : Nat}

theorem yearStart_succ (e : Int) (hk : k < 400) :
    yearStart (k + 1) = yearStart k + if isLeapYear (400 * e + k + 1) then 366 else 365 := by
  by_cases hleap : isLeapYear (400 * e + k + 1) = true
  · rw [if_pos hleap]
    simp only [isLeapYear, Bool.or_eq_true, Bool.and_eq_true, beq_iff_eq, bne_iff_ne] at hleap
    simp only [yearStart]
    omega
  · rw [if_neg hleap]
    simp only [isLeapYear, Bool.or_eq_true, Bool.and_eq_true, beq_iff_eq, bne_iff_ne] at hleap
    simp only [yearStart]
    omega

/-- The bounds of the day of a month, month by month. -/
theorem real_iff : d.Real ↔ (1 ≤ d.month ∧ d.month ≤ 12) ∧ (1 ≤ d.day ∧ d.day ≤ 31) ∧
    (d.month = 4 ∨ d.month = 6 ∨ d.month = 9 ∨ d.month = 11 → d.day ≤ 30) ∧
    (d.month = 2 → d.day ≤ if isLeapYear d.year then 29 else 28) := by
  constructor
  · rintro ⟨hpos, hle⟩
    unfold daysInMonth at hle
    split at hle
    · next hmonth =>
      refine ⟨by omega, ⟨hpos, ?_⟩, by omega, fun _ => hle⟩
      split at hle <;> omega
    · split at hle
      · omega
      · split at hle <;> omega
  · rintro ⟨hmonth, ⟨hpos, hle⟩, hshort, hfebruary⟩
    refine ⟨hpos, ?_⟩
    unfold daysInMonth
    split
    · next htwo => exact hfebruary htwo
    · split
      · next h => exact hshort h
      · exact hle

theorem Real.month_pos_le (h : d.Real) : 1 ≤ d.month ∧ d.month ≤ 12 := (real_iff.mp h).1

/-- The month of a year that begins with March, read off the days before a day of that month. -/
theorem month_of_days {m day : Nat} (hm : m ≤ 11) (hpos : 1 ≤ day)
    (hday : (153 * m + 2) / 5 + day ≤ (153 * (m + 1) + 2) / 5) :
    (5 * ((153 * m + 2) / 5 + day - 1) + 2) / 153 = m := by
  omega

theorem Real.marchMonth_spec (h : d.Real) :
    d.marchMonth ≤ 11 ∧
      (153 * d.marchMonth + 2) / 5 + d.day ≤ (153 * (d.marchMonth + 1) + 2) / 5 := by
  obtain ⟨⟨hlow, hhigh⟩, ⟨-, hle⟩, hshort, hfebruary⟩ := real_iff.mp h
  obtain ⟨year, month, day⟩ := d
  have hleap : month = 2 → day ≤ 29 := fun htwo => by
    have hday := hfebruary htwo
    dsimp only at hday
    split at hday <;> omega
  simp only [marchMonth] at *
  interval_cases month <;> simp <;> omega

/-- A date is found again from the days before it in its year. -/
theorem ofMarchYear_dayOfYear (h : d.Real) : ofMarchYear d.marchYear d.dayOfYear = d := by
  obtain ⟨hm, hday⟩ := h.marchMonth_spec
  have hfound : (5 * d.dayOfYear + 2) / 153 = d.marchMonth := month_of_days hm h.day_pos hday
  have hinMonth : d.dayOfYear - (153 * d.marchMonth + 2) / 5 + 1 = d.day := by
    have hpos := h.day_pos
    unfold dayOfYear
    omega
  have hmonth := h.month_pos_le
  clear hm hday
  simp only [ofMarchYear, hfound, hinMonth]
  clear hfound hinMonth
  obtain ⟨year, month, day⟩ := d
  simp only [marchMonth, marchYear] at hmonth ⊢
  by_cases hearly : month ≤ 2
  · rw [if_pos hearly, if_pos hearly, if_neg (by omega)]
    simp only [Date.mk.injEq, and_true]
    omega
  · rw [if_neg hearly, if_neg hearly, if_pos (by omega)]
    simp only [Date.mk.injEq, true_and, and_true]
    omega

/-- The days before a date in its year are days of that year. -/
theorem Real.dayOfYear_lt (h : d.Real) (hk : k < 400) (hyear : d.marchYear = 400 * e + k) :
    yearStart k + d.dayOfYear < yearStart (k + 1) := by
  obtain ⟨⟨hlow, hhigh⟩, ⟨hpos, hle⟩, -, hfebruary⟩ := real_iff.mp h
  have hmonth := h.marchMonth_spec
  rw [yearStart_succ e hk]
  by_cases htwo : d.month = 2
  · have hlast := hfebruary htwo
    have hcurrent : d.year = 400 * e + k + 1 := by
      simp only [marchYear, htwo, Nat.le_refl, if_true] at hyear
      omega
    have hm : d.marchMonth = 11 := by simp [marchMonth, htwo]
    rw [← hcurrent, dayOfYear, hm]
    split at hlast <;> split <;> omega
  · have hm : d.marchMonth ≤ 10 := by
      unfold marchMonth
      split <;> omega
    have hdays : d.dayOfYear < 365 := by
      unfold dayOfYear
      omega
    split <;> omega

/-- The number of a day, by its era, the year in that and the day in the year. -/
theorem dayNumber_eq (h : d.Real) (hk : k < 400) (hyear : d.marchYear = 400 * e + k) :
    d.dayNumber = 146097 * e + (yearStart k + d.dayOfYear : Nat) - 719468 := by
  have hpos := h.day_pos
  have hnumber : d.dayNumber = 365 * d.marchYear + d.marchYear / 4 - d.marchYear / 100 +
      d.marchYear / 400 + ((153 * d.marchMonth + 2) / 5 + d.day : Nat) - 719469 := rfl
  rw [hnumber, hyear, dayOfYear, yearStart]
  omega

theorem ofDayNumber_eq (hk : k < 400) (hD : yearStart k + D < yearStart (k + 1)) :
    ofDayNumber (146097 * e + (yearStart k + D : Nat) - 719468) =
      ofMarchYear (400 * e + k) D := by
  have hlast : yearStart (k + 1) ≤ 146097 := by
    simp only [yearStart]
    omega
  have hera : (146097 * e + (yearStart k + D : Nat) - 719468 + 719468) / 146097 = e := by omega
  have hinEra : ((146097 * e + (yearStart k + D : Nat) - 719468 + 719468) % 146097).toNat =
      yearStart k + D := by omega
  have hyear : yearOfEra (yearStart k + D) = k := yearOfEra_eq hk (Nat.le_add_right _ _) hD
  have hinYear : yearStart k + D - (365 * k + k / 4 - k / 100) = D := by
    simp only [yearStart]
    omega
  have hopen (n : Int) : ofDayNumber n =
      let inEra := ((n + 719468) % 146097).toNat
      ofMarchYear ((n + 719468) / 146097 * 400 + yearOfEra inEra)
        (inEra - (365 * yearOfEra inEra + yearOfEra inEra / 4 - yearOfEra inEra / 100)) := rfl
  simp only [hopen, hera, hinEra, hyear, hinYear, Int.mul_comm e 400]

theorem exists_marchYear (year : Int) : ∃ (e : Int) (k : Nat), k < 400 ∧ year = 400 * e + k :=
  ⟨year / 400, (year % 400).toNat, by omega, by omega⟩

/-- A date is found again from its number. -/
theorem ofDayNumber_dayNumber (h : d.Real) : ofDayNumber d.dayNumber = d := by
  obtain ⟨e, k, hk, hyear⟩ := exists_marchYear d.marchYear
  rw [dayNumber_eq h hk hyear, ofDayNumber_eq hk (h.dayOfYear_lt hk hyear), ← hyear,
    ofMarchYear_dayOfYear h]

/-- What the days of a year that begins with March are as dates. -/
theorem ofMarchYear_spec (hk : k < 400) (hD : yearStart k + D < yearStart (k + 1)) :
    (ofMarchYear (400 * e + k) D).Real ∧
      (ofMarchYear (400 * e + k) D).marchYear = 400 * e + k ∧
      (ofMarchYear (400 * e + k) D).dayOfYear = D := by
  rw [yearStart_succ e hk] at hD
  obtain ⟨m, hm⟩ : ∃ m, (5 * D + 2) / 153 = m := ⟨_, rfl⟩
  have hdays : D < 366 := by split at hD <;> omega
  have hfirst : (153 * m + 2) / 5 ≤ D := by omega
  have hnext : D < (153 * (m + 1) + 2) / 5 := by omega
  by_cases hlate : m < 10
  · have hdate : ofMarchYear (400 * e + k) D =
        ⟨400 * e + k, m + 3, D - (153 * m + 2) / 5 + 1⟩ := by
      simp only [ofMarchYear, hm, if_pos hlate]
    have hmarch : ¬ m + 3 ≤ 2 := by omega
    rw [hdate]
    refine ⟨real_iff.mpr ⟨?_, ?_, ?_, ?_⟩, ?_, ?_⟩
    all_goals simp only [marchYear, dayOfYear, marchMonth, if_neg hmarch]
    all_goals omega
  · have hdate : ofMarchYear (400 * e + k) D =
        ⟨400 * e + k + 1, m - 9, D - (153 * m + 2) / 5 + 1⟩ := by
      simp only [ofMarchYear, hm, if_neg hlate]
    have hjanuary : m - 9 ≤ 2 := by omega
    rw [hdate]
    refine ⟨real_iff.mpr ⟨?_, ?_, ?_, fun hfebruary => ?_⟩, ?_, ?_⟩
    case refine_4 =>
      simp only at hfebruary ⊢
      split at hD
      · next hleap =>
        rw [if_pos hleap]
        omega
      · next hleap =>
        rw [if_neg hleap]
        omega
    all_goals simp only [marchYear, dayOfYear, marchMonth, if_pos hjanuary]
    all_goals omega

theorem exists_day (n : Int) : ∃ (e : Int) (k D : Nat), k < 400 ∧
    yearStart k + D < yearStart (k + 1) ∧ n = 146097 * e + (yearStart k + D : Nat) - 719468 := by
  have hlast : yearStart 400 = 146097 := by decide
  obtain ⟨k, hk, hfirst, hyear⟩ :=
    exists_year (n := ((n + 719468) % 146097).toNat) 400 (by omega)
  exact ⟨(n + 719468) / 146097, k, ((n + 719468) % 146097).toNat - yearStart k, hk, by omega,
    by omega⟩

/-- Every number of a day is that of a date. -/
theorem dayNumber_ofDayNumber (n : Int) :
    (ofDayNumber n).Real ∧ (ofDayNumber n).dayNumber = n := by
  obtain ⟨e, k, D, hk, hD, rfl⟩ := exists_day n
  obtain ⟨hreal, hyear, hdays⟩ := ofMarchYear_spec (e := e) hk hD
  rw [ofDayNumber_eq hk hD]
  refine ⟨hreal, ?_⟩
  rw [dayNumber_eq hreal hk hyear, hdays]

end Date

/-! ### Moving moments -/

namespace Instant

variable {t u : Instant} {seconds : Int}

/-- A moment on a date of the calendar, in the years that dates may have. -/
structure Real (t : Instant) : Prop where
  valid : t.date.valid = true
  second_lt : t.second < secondsPerDay

theorem shift_eq (t : Instant) (seconds : Int) :
    t.shift seconds =
      let total := t.date.dayNumber * 86400 + t.second + seconds
      if (Date.ofDayNumber (total / 86400)).valid then
        some ⟨Date.ofDayNumber (total / 86400), (total % 86400).toNat, t.nano⟩
      else none :=
  rfl

theorem shift_zero (ht : t.Real) : t.shift 0 = some t := by
  have hday : secondsPerDay = 86400 := rfl
  obtain ⟨hvalid, hsecond⟩ := ht
  rw [hday] at hsecond
  have hdate : (t.date.dayNumber * 86400 + t.second + 0) / 86400 = t.date.dayNumber := by omega
  have hleft : (t.date.dayNumber * 86400 + (t.second : Int) + 0) % 86400 = t.second := by omega
  simp only [shift_eq, hdate, hleft, Date.ofDayNumber_dayNumber (Date.valid_iff.mp hvalid).2,
    hvalid, if_true, Int.toNat_natCast]

/-- A moment that is moved is still one of a date, and moving it back undoes the move. -/
theorem shift_neg (ht : t.Real) (h : t.shift seconds = some u) :
    u.Real ∧ u.nano = t.nano ∧ u.shift (-seconds) = some t := by
  have hday : secondsPerDay = 86400 := rfl
  obtain ⟨hvalid, hsecond⟩ := ht
  rw [hday] at hsecond
  have hfound := Date.ofDayNumber_dayNumber (Date.valid_iff.mp hvalid).2
  rw [shift_eq] at h
  dsimp only at h
  split at h
  · next hmoved =>
    obtain rfl := Option.some.inj h
    refine ⟨⟨hmoved, by simp only [hday]; omega⟩, rfl, ?_⟩
    have htotal : (t.date.dayNumber * 86400 + t.second + seconds) / 86400 * 86400 +
        (((t.date.dayNumber * 86400 + t.second + seconds) % 86400).toNat : Nat) + -seconds =
          t.date.dayNumber * 86400 + t.second := by omega
    have hdate : (t.date.dayNumber * 86400 + t.second) / 86400 = t.date.dayNumber := by omega
    have hleft : (t.date.dayNumber * 86400 + (t.second : Int)) % 86400 = t.second := by omega
    simp only [shift_eq, (Date.dayNumber_ofDayNumber _).2, htotal, hdate, hleft, hfound, hvalid,
      if_true, Int.toNat_natCast]
  · cases h

/-- Within a day of a moment in the first ten thousand years there are moments. -/
theorem shift_isSome (ht : t.Real) (hyear : 0 ≤ t.date.year ∧ t.date.year ≤ 9999)
    (hseconds : seconds.natAbs < secondsPerDay) : (t.shift seconds).isSome = true := by
  have hday : secondsPerDay = 86400 := rfl
  obtain ⟨hvalid, hsecond⟩ := ht
  rw [hday] at hsecond hseconds
  have hreal := (Date.valid_iff.mp hvalid).2
  let n := (t.date.dayNumber * 86400 + t.second + seconds) / 86400
  have hnear : t.date.dayNumber - 1 ≤ n ∧ n ≤ t.date.dayNumber + 1 := by omega
  obtain ⟨e, k, hk, hmarch⟩ := Date.exists_marchYear t.date.marchYear
  have hnumber := Date.dayNumber_eq hreal hk hmarch
  have hdays := hreal.dayOfYear_lt hk hmarch
  obtain ⟨e', k', D, hk', hD, hn⟩ := Date.exists_day n
  have hera (k : Nat) (hk : k < 400) : yearStart (k + 1) ≤ 146097 := by
    simp only [yearStart]
    omega
  have hlast := hera k hk
  have hlast' := hera k' hk'
  have hmoved : (Date.ofDayNumber n).valid = true := by
    refine Date.valid_iff.mpr ⟨?_, (Date.dayNumber_ofDayNumber n).1⟩
    have hmarch' : (Date.ofDayNumber n).marchYear = 400 * e' + k' := by
      rw [hn, Date.ofDayNumber_eq hk' hD, (Date.ofMarchYear_spec hk' hD).2.1]
    have hfirst : Date.firstYear = -262143 := rfl
    have hfinal : Date.lastYear = 262142 := rfl
    simp only [Date.marchYear] at hmarch hmarch'
    split at hmarch <;> split at hmarch' <;> omega
  rw [shift_eq]
  simp only [n] at hmoved
  simp only [hmoved, if_true, Option.isSome_some]

end Instant

end DocSearch.Calendar
