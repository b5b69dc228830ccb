import ContentPublish.Local.Files
import Mathlib.Tactic.IntervalCases

/-
  The proleptic Gregorian calendar of day counts

  A day count is turned into a date by counting in eras of 400 years, each
  146097 days long, whose years start on the first of March: the leap day
  then ends its year, and the length of a month does not depend on the year
  until February closes it. A day of an era is 36524 days a century for the
  first three centuries, 1461 days a four-year cycle, and 365 days a year, the
  leap day standing last in a cycle (and, in the last century, last in the
  era); written so, the year and the day of the year follow by plain
  arithmetic, which is how the count is checked here.

  Dates are valid (a month from 1 to 12, a day within its month, February of
  a leap year holding 29 days), the count of a date gives back the count it
  was made from, and dates in the calendar's order have increasing counts, so
  counts in order give dates in order.

  What is stated here:
    1. `isLeapYear`, `daysInMonth`, `CivilDate.Valid` and `CivilDate.Before`
       — the calendar and its order.
    2. `yearOfEra_parts` and `exists_parts` — the year of the era and the
       day of the year of every day of an era.
    3. `civilOfDays_valid` and `daysOfCivil_civilOfDays` — a count gives a
       valid date, whose count is the one it came from.
    4. `daysOfCivil_lt_of_before` — dates in order have increasing counts.
    5. `civilOfDays_before` — counts in order give dates in order.
-/

namespace ContentPublish

/-- Leap years of the proleptic Gregorian calendar: every fourth year, except
the years of a century that 400 does not divide. -/
def isLeapYear (y : Int) : Bool := y % 4 == 0 && (y % 100 != 0 || y % 400 == 0)

/-- The leap years, as the arithmetic the calendar states them in. -/
theorem isLeapYear_iff (y : Int) :
    isLeapYear y = true ↔ y % 4 = 0 ∧ (y % 100 ≠ 0 ∨ y % 400 = 0) := by
  simp only [isLeapYear, Bool.and_eq_true, beq_iff_eq, Bool.or_eq_true, bne_iff_ne, ne_eq]

/-- The days of a month of a year. -/
def daysInMonth (y : Int) (m : Nat) : Nat :=
  if m = 2 then (if isLeapYear y then 29 else 28)
  else if m = 4 ∨ m = 6 ∨ m = 9 ∨ m = 11 then 30 else 31

theorem daysInMonth_le (y : Int) (m : Nat) : daysInMonth y m ≤ 31 := by
  unfold daysInMonth
  split_ifs <;> omega

namespace CivilDate

/-- A date of the calendar: a month from 1 to 12, a day within its month. -/
structure Valid (d : CivilDate) : Prop where
  month_pos : 1 ≤ d.month
  month_le : d.month ≤ 12
  day_pos : 1 ≤ d.day
  day_le : d.day ≤ daysInMonth d.year d.month

/-- The calendar's order: by year, then by month, then by day. -/
def Before (a b : CivilDate) : Prop :=
  a.year < b.year ∨ a.year = b.year ∧ (a.month < b.month ∨ a.month = b.month ∧ a.day < b.day)

instance (d : CivilDate) : Decidable d.Valid :=
  decidable_of_iff (1 ≤ d.month ∧ d.month ≤ 12 ∧ 1 ≤ d.day ∧ d.day ≤ daysInMonth d.year d.month)
    ⟨fun ⟨h₁, h₂, h₃, h₄⟩ => ⟨h₁, h₂, h₃, h₄⟩, fun ⟨h₁, h₂, h₃, h₄⟩ => ⟨h₁, h₂, h₃, h₄⟩⟩

instance (a b : CivilDate) : Decidable (a.Before b) := by
  unfold Before
  infer_instance

theorem before_trichotomy (a b : CivilDate) : Before a b ∨ a = b ∨ Before b a := by
  obtain ⟨y, m, d⟩ := a
  obtain ⟨y', m', d'⟩ := b
  simp only [Before, CivilDate.mk.injEq]
  omega

end CivilDate

/-! ## Years of an era -/

/-- The year of an era, counted from March, that holds its day `doe`. -/
def yearOfEra (doe : Nat) : Nat := (doe - doe / 1460 + doe / 36524 - doe / 146096) / 365

/-- The days of an era before its year `yoe`, each fourth year but the last
of a century holding a leap day. -/
def daysBeforeYear (yoe : Nat) : Nat := 365 * yoe + yoe / 4 - yoe / 100

/-- The leap day that closes a year counted from March, when the next year
is a leap year. -/
def leapDay (y : Int) : Nat := if isLeapYear (y + 1) then 1 else 0

/-- **The year of a day of an era**, written as whole centuries, four-year
cycles and years before it and the day of its year; only the last year of a
cycle holds a 366th day, and only the last cycle of the era does so at the
end of a century. -/
theorem yearOfEra_parts {c q b j : Nat} (hc : c ≤ 3) (hq : q ≤ 24) (hb : b ≤ 3)
    (hj : j ≤ 364 ∨ j = 365 ∧ b = 3 ∧ (q < 24 ∨ c = 3)) :
    yearOfEra (36524 * c + 1461 * q + 365 * b + j) = 100 * c + 4 * q + b := by
  unfold yearOfEra
  -- each quotient is its parts' count and a carry of at most one, which
  -- the day of the year absorbs
  have h1460 : (36524 * c + 1461 * q + 365 * b + j) / 1460 =
      (24 * c + q + 365 * b + j) / 1460 + (25 * c + q) := by
    rw [← Nat.add_mul_div_left _ _ (by decide : 0 < 1460)]
    congr 1; omega
  have hcarry : (24 * c + q + 365 * b + j) / 1460 ≤ 1 := by omega
  have h36524 : (36524 * c + 1461 * q + 365 * b + j) / 36524 =
      c + (if j = 365 ∧ c = 3 ∧ q = 24 then 1 else 0) := by
    split <;> omega
  have h146096 : (36524 * c + 1461 * q + 365 * b + j) / 146096 =
      (if j = 365 ∧ c = 3 ∧ q = 24 then 1 else 0) := by
    split <;> omega
  rw [h1460, h36524, h146096]
  split <;> omega

theorem daysBeforeYear_parts {c q b : Nat} (hq : q ≤ 24) (hb : b ≤ 3) :
    daysBeforeYear (100 * c + 4 * q + b) = 36524 * c + 1461 * q + 365 * b := by
  unfold daysBeforeYear
  omega

/-- **Every day of an era has its parts**: the centuries, cycles and years
before it, and its day of the year. -/
theorem exists_parts {doe : Nat} (h : doe ≤ 146096) :
    ∃ c q b j, c ≤ 3 ∧ q ≤ 24 ∧ b ≤ 3 ∧ (j ≤ 364 ∨ j = 365 ∧ b = 3 ∧ (q < 24 ∨ c = 3)) ∧
      doe = 36524 * c + 1461 * q + 365 * b + j := by
  -- the last day of the era ends its last century
  by_cases hend : doe = 146096
  · exact ⟨3, 24, 3, 365, by omega⟩
  have hc : doe / 36524 ≤ 3 := by omega
  have hr := Nat.mod_lt doe (show 0 < 36524 by decide)
  have hq : doe % 36524 / 1461 ≤ 24 := by omega
  have hr' := Nat.mod_lt (doe % 36524) (show 0 < 1461 by decide)
  -- the last day of a cycle ends its last year
  by_cases hleap : doe % 36524 % 1461 = 1460
  · refine ⟨doe / 36524, doe % 36524 / 1461, 3, 365, hc, hq, le_refl 3, .inr ⟨rfl, rfl, ?_⟩, ?_⟩
    · omega
    · omega
  · refine ⟨doe / 36524, doe % 36524 / 1461, doe % 36524 % 1461 / 365,
      doe % 36524 % 1461 % 365, hc, hq, by omega, .inl (by omega), by omega⟩

/-- **The day of an era falls in its year**: the year is one of the era's
400, the days before it do not pass the day, and the day of the year is one
of its 365, or the leap day that closes a year before a leap year. -/
theorem dayOfEra_split {doe : Nat} (h : doe ≤ 146096) :
    yearOfEra doe ≤ 399 ∧ daysBeforeYear (yearOfEra doe) ≤ doe ∧
      doe - daysBeforeYear (yearOfEra doe) < 365 + leapDay (yearOfEra doe) := by
  obtain ⟨c, q, b, j, hc, hq, hb, hj, rfl⟩ := exists_parts h
  rw [yearOfEra_parts hc hq hb hj, daysBeforeYear_parts hq hb]
  refine ⟨by omega, by omega, ?_⟩
  rcases hj with hj | ⟨rfl, rfl, hcq⟩
  · unfold leapDay; split <;> omega
  · -- the year after is a leap year: a fourth year, and a century only at the era's end
    have hleap : isLeapYear (((100 * c + 4 * q + 3 : Nat) : Int) + 1) = true := by
      rw [isLeapYear_iff]
      omega
    simp only [leapDay, hleap, if_true]
    omega

/-! ## Months of a year counted from March -/

/-- The days of a year counted from March before its month `mp`, March
being month 0. -/
def monthStart (mp : Nat) : Nat := (153 * mp + 2) / 5

/-- The month of the calendar of a month counted from March. -/
def monthOfIndex (mp : Nat) : Nat := if mp < 10 then mp + 3 else mp - 9

/-- The month counted from March of a month of the calendar. -/
def monthIndex (m : Nat) : Nat := if 2 < m then m - 3 else m + 9

/-- **The day of a year falls in its month**: the month found from the day
starts at or before it, and the next month after it. -/
theorem dayOfYear_split {doy : Nat} (h : doy ≤ 365) :
    (5 * doy + 2) / 153 ≤ 11 ∧ monthStart ((5 * doy + 2) / 153) ≤ doy ∧
      doy < monthStart ((5 * doy + 2) / 153 + 1) := by
  unfold monthStart
  omega

/-- A month before February is as long as the gap to the next month's
start, in every year. -/
theorem monthStart_succ {mp : Nat} (h : mp ≤ 10) (y : Int) :
    monthStart (mp + 1) = monthStart mp + daysInMonth y (monthOfIndex mp) := by
  interval_cases mp <;> rfl

theorem monthStart_eleven : monthStart 11 = 337 := rfl

theorem monthIndex_monthOfIndex {mp : Nat} (h : mp ≤ 11) : monthIndex (monthOfIndex mp) = mp := by
  unfold monthIndex monthOfIndex
  split <;> split <;> omega

theorem monthOfIndex_monthIndex {m : Nat} (h₁ : 1 ≤ m) (h₂ : m ≤ 12) :
    monthOfIndex (monthIndex m) = m := by
  unfold monthIndex monthOfIndex
  split <;> split <;> omega

theorem monthIndex_le {m : Nat} (h₁ : 1 ≤ m) (h₂ : m ≤ 12) : monthIndex m ≤ 11 := by
  unfold monthIndex
  split <;> omega

theorem monthStart_mono {i j : Nat} (h : i ≤ j) : monthStart i ≤ monthStart j :=
  Nat.div_le_div_right (by omega)

/-! ## Dates of day counts -/

/-- Whole eras do not change which years are leap years. -/
theorem isLeapYear_add_era (y k : Int) : isLeapYear (y + k * 400) = isLeapYear y := by
  have h4 : (y + k * 400) % 4 = y % 4 := by omega
  have h100 : (y + k * 400) % 100 = y % 100 := by omega
  have h400 : (y + k * 400) % 400 = y % 400 := by omega
  simp only [isLeapYear, h4, h100, h400]

/-- The date of a count, read from its parts: the era, the day of the era,
the year of the era, the day of the year and the month, all counted from
March. -/
theorem civilOfDays_of_parts {z era : Int} {doe yoe doy mp : Nat}
    (hera : (z + 719468) / 146097 = era) (hdoe : (z + 719468 - era * 146097).toNat = doe)
    (hyoe : yearOfEra doe = yoe) (hdoy : doe - daysBeforeYear yoe = doy)
    (hmp : (5 * doy + 2) / 153 = mp) :
    civilOfDays z = ⟨(yoe : Int) + era * 400 + (if monthOfIndex mp ≤ 2 then 1 else 0),
      monthOfIndex mp, doy - monthStart mp + 1⟩ := by
  subst hera hdoe hyoe hdoy hmp
  rfl

/-- The parts of a count are in range and add up to it. -/
theorem parts_bounds {z era : Int} {doe yoe doy mp : Nat}
    (hera : (z + 719468) / 146097 = era) (hdoe : (z + 719468 - era * 146097).toNat = doe)
    (hyoe : yearOfEra doe = yoe) (hdoy : doe - daysBeforeYear yoe = doy)
    (hmp : (5 * doy + 2) / 153 = mp) :
    z + 719468 = era * 146097 + doe ∧ yoe ≤ 399 ∧ daysBeforeYear yoe + doy = doe ∧
      doy < 365 + leapDay yoe ∧ mp ≤ 11 ∧ monthStart mp ≤ doy ∧ doy < monthStart (mp + 1) := by
  have hera_le : doe ≤ 146096 := by omega
  obtain ⟨hyoe_le, hbefore, hlast⟩ := dayOfEra_split hera_le
  rw [hyoe] at hyoe_le hbefore hlast
  have hdoy_le : doy ≤ 365 := by unfold leapDay at hlast; split at hlast <;> omega
  obtain ⟨hmp_le, hstart, hnext⟩ := dayOfYear_split hdoy_le
  rw [hmp] at hmp_le hstart hnext
  exact ⟨by omega, hyoe_le, by omega, by omega, hmp_le, hstart, hnext⟩

/-- **Every day count gives a valid date.** -/
theorem civilOfDays_valid (z : Int) : (civilOfDays z).Valid := by
  generalize hera : (z + 719468) / 146097 = era
  generalize hdoe : (z + 719468 - era * 146097).toNat = doe
  generalize hyoe : yearOfEra doe = yoe
  generalize hdoy : doe - daysBeforeYear yoe = doy
  generalize hmp : (5 * doy + 2) / 153 = mp
  obtain ⟨-, -, -, hlast, hmp_le, hstart, hnext⟩ := parts_bounds hera hdoe hyoe hdoy hmp
  rw [civilOfDays_of_parts hera hdoe hyoe hdoy hmp]
  refine ⟨?_, ?_, Nat.le_add_left 1 _, ?_⟩ <;> dsimp only
  · unfold monthOfIndex; split <;> omega
  · unfold monthOfIndex; split <;> omega
  -- a month before February has its full length; February ends the year
  -- counted from March, and holds its leap day when the year after is a leap year
  by_cases hfeb : mp = 11
  · subst hfeb
    have hmonth : monthOfIndex 11 = 2 := rfl
    have hyear : (yoe : Int) + era * 400 + 1 = ((yoe : Int) + 1) + era * 400 := by omega
    rw [hmonth, if_pos (le_refl 2), hyear, monthStart_eleven]
    rw [monthStart_eleven] at hstart
    simp only [daysInMonth, if_pos, isLeapYear_add_era]
    unfold leapDay at hlast
    split_ifs at hlast ⊢ <;> omega
  · have hlen := monthStart_succ (show mp ≤ 10 by omega)
      ((yoe : Int) + era * 400 + (if monthOfIndex mp ≤ 2 then 1 else 0))
    omega

/-- The first of March of a year, counted in days from 0000-03-01. -/
def marchFirst (y : Int) : Int := y / 400 * 146097 + daysBeforeYear (y - y / 400 * 400).toNat

theorem marchFirst_era {yoe : Nat} (h : yoe ≤ 399) (era : Int) :
    marchFirst ((yoe : Int) + era * 400) = era * 146097 + daysBeforeYear yoe := by
  have hera : ((yoe : Int) + era * 400) / 400 = era := by omega
  have hyoe : ((yoe : Int) + era * 400 - era * 400).toNat = yoe := by omega
  rw [marchFirst, hera, hyoe]

/-- A date's count is the first of March of its year counted from March,
with the days of that year before it. -/
theorem daysOfCivil_eq (d : CivilDate) :
    daysOfCivil d = marchFirst (d.year - (if d.month ≤ 2 then 1 else 0)) +
      ((monthStart (monthIndex d.month) + d.day - 1 : Nat) : Int) - 719468 := by
  unfold daysOfCivil marchFirst daysBeforeYear monthStart monthIndex
  simp only
  split <;> split <;> omega

/-- **A date's count is the count it came from.** -/
theorem daysOfCivil_civilOfDays (z : Int) : daysOfCivil (civilOfDays z) = z := by
  generalize hera : (z + 719468) / 146097 = era
  generalize hdoe : (z + 719468 - era * 146097).toNat = doe
  generalize hyoe : yearOfEra doe = yoe
  generalize hdoy : doe - daysBeforeYear yoe = doy
  generalize hmp : (5 * doy + 2) / 153 = mp
  obtain ⟨hsum, hyoe_le, hdoe', -, hmp_le, hstart, -⟩ := parts_bounds hera hdoe hyoe hdoy hmp
  rw [civilOfDays_of_parts hera hdoe hyoe hdoy hmp, daysOfCivil_eq]
  dsimp only
  rw [add_sub_cancel_right, marchFirst_era hyoe_le, monthIndex_monthOfIndex hmp_le]
  omega

/-! ## Dates in order -/

/-- **A year counted from March is 365 days long, and one more before a leap
year.** -/
theorem marchFirst_succ (y : Int) : marchFirst (y + 1) = marchFirst y + 365 + leapDay y := by
  unfold marchFirst leapDay daysBeforeYear
  by_cases hend : (y + 1) % 400 = 0
  · -- the year closes an era, and the next one is a leap year
    have hleap : isLeapYear (y + 1) = true := by
      rw [isLeapYear_iff]
      omega
    simp only [hleap, if_true]
    omega
  · have hera : (y + 1) / 400 = y / 400 := by omega
    rw [hera]
    split
    · next hleap =>
      rw [isLeapYear_iff] at hleap
      omega
    · next hleap =>
      rw [isLeapYear_iff] at hleap
      omega

theorem marchFirst_mono (y : Int) (n : Nat) : marchFirst y ≤ marchFirst (y + n) := by
  induction n with
  | zero => simp
  | succ n ih =>
    have hstep := marchFirst_succ (y + n)
    rw [show y + ((n + 1 : Nat) : Int) = y + n + 1 by omega, hstep]
    omega

/-- February holds the leap day that closes a year counted from March. -/
theorem daysInMonth_two (y : Int) : daysInMonth y 2 = 28 + leapDay (y - 1) := by
  simp only [daysInMonth, leapDay, if_pos, Int.sub_add_cancel]
  split <;> rfl

/-- The days of a valid date's year counted from March before it: fewer
than the year holds. -/
theorem dayOfYear_lt {d : CivilDate} (hd : d.Valid) :
    monthStart (monthIndex d.month) + d.day - 1 <
      365 + leapDay (d.year - (if d.month ≤ 2 then 1 else 0)) := by
  obtain ⟨h₁, h₂, h₃, h₄⟩ := hd
  by_cases hfeb : d.month = 2
  · -- February ends the year, 337 days after the first of March
    rw [hfeb, daysInMonth_two] at h₄
    rw [hfeb, if_pos (le_refl 2), show monthIndex 2 = 11 from rfl, monthStart_eleven]
    omega
  · -- any other month ends by the first of February
    have hne : monthIndex d.month ≠ 11 := fun h =>
      hfeb (by rw [← monthOfIndex_monthIndex h₁ h₂, h]; rfl)
    have hlen := monthStart_succ
      (show monthIndex d.month ≤ 10 by have := monthIndex_le h₁ h₂; omega) d.year
    rw [monthOfIndex_monthIndex h₁ h₂] at hlen
    have hmono := monthStart_mono (show monthIndex d.month + 1 ≤ 11 by
      have := monthIndex_le h₁ h₂; omega)
    rw [monthStart_eleven] at hmono
    omega

/-- **Dates in the calendar's order have increasing counts.** -/
theorem daysOfCivil_lt_of_before {a b : CivilDate} (ha : a.Valid) (hb : b.Valid)
    (h : a.Before b) : daysOfCivil a < daysOfCivil b := by
  rw [daysOfCivil_eq, daysOfCivil_eq]
  have hlast := dayOfYear_lt ha
  obtain ⟨ha₁, ha₂, ha₃, ha₄⟩ := ha
  obtain ⟨hb₁, hb₂, hb₃, hb₄⟩ := hb
  generalize hya : a.year - (if a.month ≤ 2 then 1 else 0) = ya at *
  generalize hyb : b.year - (if b.month ≤ 2 then 1 else 0) = yb at *
  -- the years counted from March are in order too
  have hy : ya ≤ yb := by
    unfold CivilDate.Before at h
    split at hya <;> split at hyb <;> omega
  rcases Int.lt_or_eq_of_le hy with hlt | rfl
  · -- a later year starts after the whole of the earlier one
    have hstep := marchFirst_succ ya
    have hmono := marchFirst_mono (ya + 1) (yb - (ya + 1)).toNat
    rw [show ya + 1 + ((yb - (ya + 1)).toNat : Int) = yb by omega] at hmono
    omega
  · -- within one year counted from March, months and days are in order
    have hmonth : monthIndex a.month < monthIndex b.month ∨
        monthIndex a.month = monthIndex b.month ∧ a.day < b.day := by
      unfold CivilDate.Before at h
      unfold monthIndex
      split at hya <;> split at hyb <;> split <;> split <;> omega
    rcases hmonth with hlt | ⟨heq, hday⟩
    · -- an earlier month ends before a later one starts
      have hlen := monthStart_succ
        (show monthIndex a.month ≤ 10 by have := monthIndex_le hb₁ hb₂; omega) a.year
      rw [monthOfIndex_monthIndex ha₁ ha₂] at hlen
      have hmono := monthStart_mono (show monthIndex a.month + 1 ≤ monthIndex b.month by omega)
      omega
    · rw [heq]
      omega

/-- **Counts in order give dates in order.** -/
theorem civilOfDays_before {z z' : Int} (h : z < z') : (civilOfDays z).Before (civilOfDays z') := by
  rcases CivilDate.before_trichotomy (civilOfDays z) (civilOfDays z') with hlt | heq | hgt
  · exact hlt
  · have := congrArg daysOfCivil heq
    rw [daysOfCivil_civilOfDays, daysOfCivil_civilOfDays] at this
    omega
  · have := daysOfCivil_lt_of_before (civilOfDays_valid z') (civilOfDays_valid z) hgt
    rw [daysOfCivil_civilOfDays, daysOfCivil_civilOfDays] at this
    omega

/-- Valid dates with equal counts are equal. -/
theorem eq_of_daysOfCivil_eq {a b : CivilDate} (ha : a.Valid) (hb : b.Valid)
    (h : daysOfCivil a = daysOfCivil b) : a = b := by
  rcases CivilDate.before_trichotomy a b with hab | heq | hba
  · exact absurd h (Int.ne_of_lt (daysOfCivil_lt_of_before ha hb hab))
  · exact heq
  · exact absurd h (Int.ne_of_gt (daysOfCivil_lt_of_before hb ha hba))

/-- **A valid date is the date of its count.** -/
theorem civilOfDays_daysOfCivil {d : CivilDate} (hd : d.Valid) : civilOfDays (daysOfCivil d) = d :=
  eq_of_daysOfCivil_eq (civilOfDays_valid _) hd (daysOfCivil_civilOfDays _)

example : civilOfDays 19675 = ⟨2023, 11, 14⟩ ∧ (civilOfDays 19675).Valid := by decide

end ContentPublish
