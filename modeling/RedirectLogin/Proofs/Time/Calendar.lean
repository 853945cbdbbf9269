import RedirectLogin.Time.Calendar

/-!
# Days and dates

Every day has a date, the date is one of the calendar, and it leads back to the day. An era of 400
years falls into centuries of 36524 days, these into groups of four years of 1461 days, and these
into years of 365 days that begin on 1 March, so that a day too many is always the last one
(`EraDay`). On these parts both directions are linear.

Principal results: `dayNumber_civil` — there and back; `civil_valid` — the date is one of the
calendar; `civil_between` — days within whole years have dates within these years.
-/

set_option autoImplicit false

namespace RedirectLogin.Time

/-- A day of an era by its century, group of four years, year of the group and day of the year.
Only the last year of a group has a day 365, and of the last groups of a century only that of the
last century. -/
structure EraDay where
  century : Int
  group : Int
  year : Int
  day : Int
  century_range : 0 ≤ century ∧ century ≤ 3
  group_range : 0 ≤ group ∧ group ≤ 24
  year_range : 0 ≤ year ∧ year ≤ 3
  day_range : 0 ≤ day ∧ day ≤ 365
  leap : day = 365 → year = 3 ∧ (group = 24 → century = 3)

namespace EraDay

/-- Days from the start of the era. -/
def number (e : EraDay) : Int :=
  36524 * e.century + 1461 * e.group + 365 * e.year + e.day

/-- Years from the start of the era. -/
def yearOfEra (e : EraDay) : Int :=
  100 * e.century + 4 * e.group + e.year

/-- The day so many days from the start of an era. -/
theorem exists_number {n : Int} (h : 0 ≤ n) (h' : n ≤ 146096) : ∃ e : EraDay, e.number = n := by
  obtain ⟨c, hc, r, hr, hn⟩ : ∃ c : Int, (0 ≤ c ∧ c ≤ 3) ∧ ∃ r : Int,
      (0 ≤ r ∧ r ≤ 36524 ∧ (r = 36524 → c = 3)) ∧ n = 36524 * c + r :=
    ⟨min (n / 36524) 3, by omega, n - 36524 * min (n / 36524) 3, by omega, by omega⟩
  obtain ⟨q, s, hq, hs, hr'⟩ : ∃ q s : Int, (0 ≤ q ∧ q ≤ 24) ∧ (0 ≤ s ∧ s ≤ 1460) ∧
      r = 1461 * q + s :=
    ⟨r / 1461, r % 1461, by omega, by omega, by omega⟩
  obtain ⟨y, hy, x, hx, hs'⟩ : ∃ y : Int, (0 ≤ y ∧ y ≤ 3) ∧ ∃ x : Int,
      (0 ≤ x ∧ x ≤ 365 ∧ (x = 365 → y = 3)) ∧ s = 365 * y + x :=
    ⟨min (s / 365) 3, by omega, s - 365 * min (s / 365) 3, by omega, by omega⟩
  exact ⟨⟨c, q, y, x, hc, hq, hy, ⟨hx.1, hx.2.1⟩, by omega⟩, by simp only [number]; omega⟩

variable (e : EraDay)

theorem number_range : 0 ≤ e.number ∧ e.number ≤ 146096 := by
  obtain ⟨c, q, y, x, hc, hq, hy, hx, hleap⟩ := e
  simp only [number]
  omega

theorem yearOfEra_range : 0 ≤ e.yearOfEra ∧ e.yearOfEra ≤ 399 := by
  obtain ⟨c, q, y, x, hc, hq, hy, hx, hleap⟩ := e
  simp only [yearOfEra]
  omega

/-- The usual formula finds the year of the era. -/
theorem yearOfEra_eq :
    (e.number - e.number / 1460 + e.number / 36524 - e.number / 146096) / 365 = e.yearOfEra := by
  obtain ⟨c, q, y, x, hc, hq, hy, hx, hleap⟩ := e
  simp only [number, yearOfEra] at *
  -- a day of a group is one too many for 1460 only when the year has begun
  obtain ⟨late, hlate, hlate'⟩ : ∃ late : Int,
      (36524 * c + 1461 * q + 365 * y + x) / 1460 = 25 * c + q + late ∧
        (late = 0 ∧ x ≤ 364 ∨ late = 1 ∧ 1 ≤ x) :=
    ⟨(36524 * c + 1461 * q + 365 * y + x) / 1460 - (25 * c + q), by omega, by omega⟩
  have hcentury : (36524 * c + 1461 * q + 365 * y + x) / 36524 -
      (36524 * c + 1461 * q + 365 * y + x) / 146096 = c := by
    rcases (by omega : 1461 * q + 365 * y + x ≤ 36523 ∨ c = 3 ∧ 1461 * q + 365 * y + x = 36524)
      with h | ⟨rfl, h⟩
    · have hone : (36524 * c + 1461 * q + 365 * y + x) / 36524 = c := by omega
      have hzero : (36524 * c + 1461 * q + 365 * y + x) / 146096 = 0 := by omega
      omega
    · omega
  omega

/-- The day of the year is what is left of the era. -/
theorem day_eq :
    e.number - (365 * e.yearOfEra + e.yearOfEra / 4 - e.yearOfEra / 100) = e.day := by
  obtain ⟨c, q, y, x, hc, hq, hy, hx, hleap⟩ := e
  simp only [number, yearOfEra] at *
  omega

end EraDay

/-- The months before the given day of a year that begins in March. -/
def monthFromMarch (day : Int) : Int :=
  (5 * day + 2) / 153

/-- The number of the month. -/
def monthOf (day : Int) : Int :=
  if monthFromMarch day < 10 then monthFromMarch day + 3 else monthFromMarch day - 9

/-- The day of the month. -/
def dayOfMonth (day : Int) : Int :=
  day - (153 * monthFromMarch day + 2) / 5 + 1

/-- The day that stands in an era. -/
def dayIn (era : Int) (e : EraDay) : Int :=
  era * 146097 + e.number - 719468

theorem exists_dayIn (n : Int) : ∃ era e, dayIn era e = n := by
  obtain ⟨e, he⟩ := EraDay.exists_number (n := (n + 719468) % 146097) (by omega) (by omega)
  exact ⟨(n + 719468) / 146097, e, by rw [dayIn, he]; omega⟩

/-- The date of a day by its place in the era. -/
theorem civil_dayIn (era : Int) (e : EraDay) :
    civil (dayIn era e) =
      (e.yearOfEra + era * 400 + (if monthOf e.day ≤ 2 then 1 else 0),
        (monthOf e.day).toNat, (dayOfMonth e.day).toNat) := by
  have hrange := e.number_range
  have hera : (dayIn era e + 719468).fdiv 146097 = era := by
    rw [Int.fdiv_eq_ediv_of_nonneg _ (by decide), dayIn]
    omega
  have hnumber : dayIn era e + 719468 - era * 146097 = e.number := by
    rw [dayIn]
    omega
  simp only [civil, hera, hnumber, e.yearOfEra_eq, e.day_eq]
  rfl

theorem monthOf_range {x : Int} (h : 0 ≤ x ∧ x ≤ 365) : 1 ≤ monthOf x ∧ monthOf x ≤ 12 := by
  have hm : monthFromMarch x = (5 * x + 2) / 153 := rfl
  unfold monthOf
  split <;> omega

theorem dayOfMonth_pos (x : Int) : 1 ≤ dayOfMonth x := by
  simp only [dayOfMonth, monthFromMarch]
  omega

/-- Months count from March again: the two that come last are the first of the next year. -/
theorem monthFromMarch_eq {x : Int} (h : 0 ≤ x ∧ x ≤ 365) :
    (if (monthOf x).toNat ≤ 2 then ((monthOf x).toNat : Int) + 9 else (monthOf x).toNat - 3) =
      monthFromMarch x := by
  have hmarch : monthFromMarch x = (5 * x + 2) / 153 := rfl
  have hmonth := monthOf_range h
  unfold monthOf at hmonth ⊢
  split at hmonth <;> split <;> omega

/-- **The date of a day leads back to the day.** -/
theorem dayNumber_civil (n : Int) : dayNumber (civil n).1 (civil n).2.1 (civil n).2.2 = n := by
  obtain ⟨era, e, rfl⟩ := exists_dayIn n
  have hday := dayOfMonth_pos e.day
  have hyear := e.yearOfEra_range
  have hyears : (if (monthOf e.day).toNat ≤ 2 then
      e.yearOfEra + era * 400 + (if monthOf e.day ≤ 2 then 1 else 0) - 1
      else e.yearOfEra + era * 400 + (if monthOf e.day ≤ 2 then 1 else 0)) =
        e.yearOfEra + era * 400 := by
    split <;> split <;> omega
  have hera : (e.yearOfEra + era * 400).fdiv 400 = era := by
    rw [Int.fdiv_eq_ediv_of_nonneg _ (by decide)]
    omega
  have hof : e.yearOfEra + era * 400 - era * 400 = e.yearOfEra := by omega
  have hdays : (153 * monthFromMarch e.day + 2) / 5 + ((dayOfMonth e.day).toNat : Int) - 1 =
      e.day := by
    rw [Int.toNat_of_nonneg (by omega), dayOfMonth]
    omega
  have hrest := e.day_eq
  rw [civil_dayIn]
  simp only [dayNumber, hyears, hera, hof, monthFromMarch_eq e.day_range, hdays, dayIn]
  omega

/-- Every month but February has its days; February has 28 before the day too many. -/
theorem dayOfMonth_le {x : Int} (h : 0 ≤ x ∧ x ≤ 365) :
    dayOfMonth x ≤
      if monthOf x = 2 then (if x = 365 then 29 else 28)
      else if monthOf x = 4 ∨ monthOf x = 6 ∨ monthOf x = 9 ∨ monthOf x = 11 then 30
      else 31 := by
  have hmarch : monthFromMarch x = (5 * x + 2) / 153 := rfl
  have hcases : monthFromMarch x = 0 ∨ monthFromMarch x = 1 ∨ monthFromMarch x = 2 ∨
      monthFromMarch x = 3 ∨ monthFromMarch x = 4 ∨ monthFromMarch x = 5 ∨
      monthFromMarch x = 6 ∨ monthFromMarch x = 7 ∨ monthFromMarch x = 8 ∨
      monthFromMarch x = 9 ∨ monthFromMarch x = 10 ∨ monthFromMarch x = 11 := by omega
  rw [dayOfMonth, monthOf]
  rcases hcases with hm | hm | hm | hm | hm | hm | hm | hm | hm | hm | hm | hm <;>
    rw [hm] at hmarch ⊢ <;> simp <;> omega

/-- A year with a day too many ends in a leap year's February. -/
theorem isLeapYear_of_day {e : EraDay} (h : e.day = 365) (era : Int) :
    isLeapYear (e.yearOfEra + era * 400 + 1) = true := by
  obtain ⟨hy, hq⟩ := e.leap h
  obtain ⟨c, q, y, x, hc, hq', hy', hx, hleap⟩ := e
  simp only at hy hq
  simp only [isLeapYear, EraDay.yearOfEra, Bool.and_eq_true, Bool.or_eq_true, beq_iff_eq,
    bne_iff_ne]
  omega

/-- **The date of a day is one of the calendar.** -/
theorem civil_valid (n : Int) :
    (1 ≤ (civil n).2.1 ∧ (civil n).2.1 ≤ 12) ∧
      1 ≤ (civil n).2.2 ∧ (civil n).2.2 ≤ daysInMonth (civil n).1 (civil n).2.1 := by
  obtain ⟨era, e, rfl⟩ := exists_dayIn n
  have hday := dayOfMonth_pos e.day
  have hmonth := monthOf_range e.day_range
  have hle := dayOfMonth_le e.day_range
  rw [civil_dayIn]
  refine ⟨by simp only; omega, by simp only; omega, ?_⟩
  simp only [daysInMonth]
  by_cases hfeb : monthOf e.day = 2
  · rw [if_pos hfeb] at hle
    rw [hfeb, if_pos (by decide : Int.toNat 2 = 2), if_pos (by decide : (2 : Int) ≤ 2)]
    by_cases hlast : e.day = 365
    · rw [if_pos hlast] at hle
      rw [isLeapYear_of_day hlast era, if_pos rfl]
      omega
    · rw [if_neg hlast] at hle
      split <;> omega
  · rw [if_neg hfeb] at hle
    rw [if_neg (by omega)]
    split at hle
    · rw [if_pos (by omega)]
      omega
    · rw [if_neg (by omega)]
      omega

/-! ## Whole years -/

/-- Days up to the March of a year, counted from the March of year 0. -/
def daysToMarch (y : Int) : Int :=
  365 * y + y / 4 - y / 100 + y / 400

theorem daysToMarch_mono {y z : Int} (h : y ≤ z) : daysToMarch y ≤ daysToMarch z := by
  simp only [daysToMarch]
  omega

theorem daysToMarch_lt {y z : Int} (h : y < z) : daysToMarch y + 365 ≤ daysToMarch z := by
  simp only [daysToMarch]
  omega

/-- A year has at most as many days as there are to the next March. -/
theorem daysToMarch_succ {e : EraDay} (era : Int) :
    daysToMarch (e.yearOfEra + era * 400) + e.day < daysToMarch (e.yearOfEra + era * 400 + 1) := by
  obtain ⟨c, q, y, x, hc, hq, hy, hx, hleap⟩ := e
  simp only [daysToMarch, EraDay.yearOfEra]
  omega

theorem dayIn_eq (era : Int) (e : EraDay) :
    dayIn era e = daysToMarch (e.yearOfEra + era * 400) + e.day - 719468 := by
  have hrest := e.day_eq
  have hyear := e.yearOfEra_range
  simp only [dayIn, daysToMarch]
  omega

theorem dayNumber_newYear (y : Int) : dayNumber y 1 1 = daysToMarch (y - 1) + 306 - 719468 := by
  have hera : (y - 1).fdiv 400 = (y - 1) / 400 := Int.fdiv_eq_ediv_of_nonneg _ (by decide)
  have hmonth : (if (1 : Nat) ≤ 2 then y - 1 else y) = y - 1 := if_pos (by decide)
  have hdays : (153 * (if (1 : Nat) ≤ 2 then ((1 : Nat) : Int) + 9 else (1 : Nat) - 3) + 2) / 5 +
      ((1 : Nat) : Int) - 1 = 306 := by decide
  simp only [dayNumber, hmonth, hera, hdays, daysToMarch]
  omega

/-- **Days between two New Years have dates in the years between.** -/
theorem civil_between {n first last : Int} (h : dayNumber first 1 1 ≤ n)
    (h' : n < dayNumber (last + 1) 1 1) : first ≤ (civil n).1 ∧ (civil n).1 ≤ last := by
  obtain ⟨era, e, rfl⟩ := exists_dayIn n
  have hsucc := daysToMarch_succ (e := e) era
  have hmonth : monthOf e.day ≤ 2 ↔ 306 ≤ e.day := by
    have hmarch : monthFromMarch e.day = (5 * e.day + 2) / 153 := rfl
    have hday := e.day_range
    unfold monthOf
    split <;> omega
  rw [dayNumber_newYear, dayIn_eq] at h
  rw [dayNumber_newYear, dayIn_eq] at h'
  rw [civil_dayIn]
  simp only
  generalize e.yearOfEra + era * 400 = year at *
  constructor
  · refine Int.not_lt.1 fun hlt => ?_
    split at hlt
    · have hmono := daysToMarch_mono (by omega : year + 1 ≤ first - 1)
      omega
    · have hmono := daysToMarch_mono (by omega : year ≤ first - 1)
      omega
  · refine Int.not_lt.1 fun hlt => ?_
    rw [Int.add_sub_cancel] at h'
    split at hlt
    · have hmono := daysToMarch_mono (by omega : last ≤ year)
      omega
    · have hlater := daysToMarch_lt (by omega : last < year)
      have hrange := e.day_range
      omega

end RedirectLogin.Time
