import ContentPublish.Proofs.Calendar
import Mathlib

/-
  The text of an instant

  An instant of the years 0 through 9999 is written as seven fields in
  fixed widths, each followed by its separator: `YYYY-MM-DDTHH:MM:SS.mmmZ`.
  Numbers of one width compare as text as they compare as numbers, so the
  text orders as the tuple of its fields. That tuple orders as the instant:
  a later date has a later day count, and within a day the hour, minute,
  second and millisecond count the milliseconds. The text is therefore 24
  characters long, names a valid date and time that add up to the instant,
  and is strictly increasing in the instant, hence injective.

  What is stated here:
    1. `decimal` and `padded_toList` — the digits of a number in a fixed
       width, which `padded` writes for every number that fits.
    2. `fieldsText_lt` — fields in fixed widths compare as text as their
       values compare.
    3. `Stamp`, `Timestamp.stamp` and `Timestamp.format_eq_render` — the
       fields an instant is written with.
    4. `Stamp.fields_lt_of_millis_lt` — valid fields order as their instants.
    5. `Timestamp.mem_fourDigitRange_iff` — the instants whose year is one
       of 0 through 9999.
    6. `Timestamp.format_strictMonoOn` and `Timestamp.format_fields_ordered`
       — the text of such an instant, in order.
-/

namespace ContentPublish

/-! ## Digits in a fixed width -/

/-- The last `w` decimal digits of `n`, most significant first. -/
def decimal : Nat → Nat → List Char
  | 0, _ => []
  | w + 1, n => decimal w (n / 10) ++ [Nat.digitChar (n % 10)]

@[simp] theorem length_decimal (w n : Nat) : (decimal w n).length = w := by
  induction w generalizing n with
  | zero => rfl
  | succ w ih => simp [decimal, ih]

theorem decimal_zero (w : Nat) : decimal w 0 = List.replicate w '0' := by
  induction w with
  | zero => rfl
  | succ w ih => rw [decimal, Nat.zero_div, ih, Nat.zero_mod, List.replicate_succ']; rfl

theorem div_ten_lt {w n : Nat} (hn : n < 10 ^ (w + 1)) : n / 10 < 10 ^ w := by
  rw [Nat.div_lt_iff_lt_mul (by decide), ← Nat.pow_succ]
  exact hn

/-- **Padding writes the digits** of every number that fits its width: the
zeros it puts in front of the shortest digits are the leading digits of the
fixed width. -/
theorem padded_toList {w n : Nat} (hw : 0 < w) (hn : n < 10 ^ w) :
    (Timestamp.padded w n).toList = decimal w n := by
  unfold Timestamp.padded
  rw [String.toList_ofList]
  -- on the width: the last digit is written last, the rest in one place fewer
  induction w generalizing n with
  | zero => omega
  | succ w ih =>
    by_cases hsmall : n < 10
    · rw [Nat.toDigits_of_lt_base hsmall, decimal, Nat.div_eq_of_lt hsmall,
        Nat.mod_eq_of_lt hsmall, decimal_zero]
      simp
    · have hw' : 0 < w := by
        rcases w with _ | w
        · simp at hn; omega
        · omega
      rw [Nat.toDigits_of_base_le (by decide) (by omega), decimal, ← ih hw' (div_ten_lt hn),
        List.length_append, List.length_singleton, ← List.append_assoc, Nat.add_sub_add_right]

theorem digitChar_lt_digitChar {a b : Nat} (hb : b < 10) (h : a < b) :
    a.digitChar < b.digitChar := by
  have hall : ∀ b < 10, ∀ a < b, Nat.digitChar a < Nat.digitChar b := by decide
  exact hall b hb a h

/-- A list that is less than another of its length stays less whatever
follows either. -/
theorem append_lt_append_of_length_eq {α : Type} [LT α] {a b : List α} (x y : List α)
    (hlen : a.length = b.length) (h : a < b) : a ++ x < b ++ y := by
  induction a generalizing b with
  | nil =>
    cases b with
    | nil => exact absurd h (List.not_lt_nil _)
    | cons => simp at hlen
  | cons p a ih =>
    cases b with
    | nil => simp at hlen
    | cons q b =>
      rw [List.cons_lt_cons_iff] at h
      rw [List.cons_append, List.cons_append, List.cons_lt_cons_iff]
      rcases h with hpq | ⟨rfl, hab⟩
      · exact .inl hpq
      · exact .inr ⟨rfl, ih (by simpa using hlen) hab⟩

/-- **Digits in one width compare as the numbers.** -/
theorem decimal_lt_decimal {w n n' : Nat} (h : n < n') (hn' : n' < 10 ^ w) :
    decimal w n < decimal w n' := by
  induction w generalizing n n' with
  | zero => simp at hn'; omega
  | succ w ih =>
    rw [decimal, decimal]
    -- the numbers differ before their last digit, or only in it
    rcases Nat.lt_or_eq_of_le (Nat.div_le_div_right (c := 10) h.le) with hlt | heq
    · exact append_lt_append_of_length_eq _ _ (by simp) (ih hlt (div_ten_lt hn'))
    · rw [heq]
      apply List.append_left_lt
      rw [List.cons_lt_cons_iff]
      exact .inl (digitChar_lt_digitChar (Nat.mod_lt _ (by decide)) (by omega))

/-! ## Fields in fixed widths -/

/-- Values written in the widths of a layout, each followed by the
layout's separator. -/
def fieldsText : List (Nat × Char) → List Nat → List Char
  | (w, c) :: layout, n :: ns => decimal w n ++ c :: fieldsText layout ns
  | _, _ => []

/-- One value for each field of a layout, each fitting its width. -/
def Fits (layout : List (Nat × Char)) (ns : List Nat) : Prop :=
  List.Forall₂ (fun f n => n < 10 ^ f.1) layout ns

/-- **Fields compare as text as their values compare**, the first field
that differs deciding. -/
theorem fieldsText_lt {layout : List (Nat × Char)} {ns ns' : List Nat} (hfit : Fits layout ns)
    (hfit' : Fits layout ns') (h : ns < ns') : fieldsText layout ns < fieldsText layout ns' := by
  induction hfit generalizing ns' with
  | nil =>
    cases hfit'
    exact absurd h (List.not_lt_nil _)
  | @cons f n layout ns hn hrest ih =>
    cases hfit' with
    | @cons _ n' _ ns' hn' hrest' =>
      obtain ⟨w, c⟩ := f
      rw [fieldsText, fieldsText]
      rw [List.cons_lt_cons_iff] at h
      rcases h with hlt | ⟨rfl, hlt⟩
      · exact append_lt_append_of_length_eq _ _ (by simp) (decimal_lt_decimal hlt hn')
      · exact List.append_left_lt (List.cons_lt_cons_iff.mpr (.inr ⟨rfl, ih hrest' hlt⟩))

/-! ## The fields of an instant -/

/-- The fields an instant is written with: its date, and the time of day. -/
structure Stamp where
  date : CivilDate
  hour : Nat
  minute : Nat
  second : Nat
  milli : Nat
  deriving DecidableEq, Repr

namespace Stamp

/-- `YYYY-MM-DDTHH:MM:SS.mmmZ`: the widths of the fields and the separator
after each. -/
def layout : List (Nat × Char) :=
  [(4, '-'), (2, '-'), (2, 'T'), (2, ':'), (2, ':'), (2, '.'), (3, 'Z')]

def fields (s : Stamp) : List Nat :=
  [s.date.year.toNat, s.date.month, s.date.day, s.hour, s.minute, s.second, s.milli]

/-- The text of the fields in their fixed widths. -/
def text (s : Stamp) : List Char := fieldsText layout s.fields

/-- A date of the years 0 through 9999 and a time of day. -/
structure Valid (s : Stamp) : Prop where
  date : s.date.Valid
  year_nonneg : 0 ≤ s.date.year
  year_le : s.date.year ≤ 9999
  hour : s.hour < 24
  minute : s.minute < 60
  second : s.second < 60
  milli : s.milli < 1000

/-- The instant the fields name, in milliseconds from 1970-01-01. -/
def millis (s : Stamp) : Int :=
  daysOfCivil s.date * 86400000 + s.hour * 3600000 + s.minute * 60000 + s.second * 1000 + s.milli

/-- The fields written as an instant's text is. -/
def render (s : Stamp) : String :=
  Timestamp.formatYear s.date.year ++ "-" ++ Timestamp.padded 2 s.date.month ++ "-" ++
    Timestamp.padded 2 s.date.day ++ "T" ++ Timestamp.padded 2 s.hour ++ ":" ++
    Timestamp.padded 2 s.minute ++ ":" ++ Timestamp.padded 2 s.second ++ "." ++
    Timestamp.padded 3 s.milli ++ "Z"

@[simp] theorem length_text (s : Stamp) : s.text.length = 24 := by
  simp [text, fieldsText, layout, fields]

theorem fits {s : Stamp} (hs : s.Valid) : Fits layout s.fields := by
  have hday := daysInMonth_le s.date.year s.date.month
  obtain ⟨⟨-, hmonth, -, hdays⟩, -, hyear, hhour, hminute, hsecond, hmilli⟩ := hs
  simp only [Fits, layout, fields, List.forall₂_cons, List.Forall₂.nil, and_true]
  omega

/-- **Valid fields render as their text.** -/
theorem render_toList {s : Stamp} (hs : s.Valid) : s.render.toList = s.text := by
  have hyear : Timestamp.formatYear s.date.year = Timestamp.padded 4 s.date.year.toNat := by
    unfold Timestamp.formatYear
    rw [if_neg (by have := hs.year_nonneg; omega), if_pos hs.year_le]
  have hday := daysInMonth_le s.date.year s.date.month
  have := hs.date.day_le
  rw [render, hyear]
  simp only [String.toList_append,
    padded_toList (show 0 < 4 by decide) (show s.date.year.toNat < 10 ^ 4 by
      have := hs.year_le; omega),
    padded_toList (show 0 < 2 by decide) (show s.date.month < 10 ^ 2 by
      have := hs.date.month_le; omega),
    padded_toList (show 0 < 2 by decide) (show s.date.day < 10 ^ 2 by omega),
    padded_toList (show 0 < 2 by decide) (show s.hour < 10 ^ 2 by have := hs.hour; omega),
    padded_toList (show 0 < 2 by decide) (show s.minute < 10 ^ 2 by have := hs.minute; omega),
    padded_toList (show 0 < 2 by decide) (show s.second < 10 ^ 2 by have := hs.second; omega),
    padded_toList (show 0 < 3 by decide) (show s.milli < 10 ^ 3 by have := hs.milli; omega)]
  simp [text, fieldsText, layout, fields]

/-- **Valid fields order as their instants**: a later instant has a later
date, or the same date and a later time of day. -/
theorem fields_lt_of_millis_lt {s s' : Stamp} (hs : s.Valid) (hs' : s'.Valid)
    (h : s.millis < s'.millis) : s.fields < s'.fields := by
  obtain ⟨hdate, hyear, -, hhour, hminute, hsecond, hmilli⟩ := hs
  obtain ⟨hdate', hyear', -, hhour', hminute', hsecond', hmilli'⟩ := hs'
  unfold millis at h
  rcases CivilDate.before_trichotomy s.date s'.date with hb | heq | hb
  · -- an earlier date: year, month and day decide
    unfold CivilDate.Before at hb
    simp only [fields, List.cons_lt_cons_iff]
    omega
  · -- the same date: the time of day decides
    rw [heq] at h
    simp only [fields, heq, List.cons_lt_cons_iff, lt_self_iff_false, true_and,
      false_or]
    omega
  · -- a later date starts after the whole of the earlier day
    have := daysOfCivil_lt_of_before hdate' hdate hb
    omega

theorem text_lt_of_millis_lt {s s' : Stamp} (hs : s.Valid) (hs' : s'.Valid)
    (h : s.millis < s'.millis) : s.text < s'.text :=
  fieldsText_lt (fits hs) (fits hs') (fields_lt_of_millis_lt hs hs' h)

end Stamp

/-! ## The text of an instant -/

namespace Timestamp

/-- The fields `format` writes: the date of the instant's day, counted
down to whole days, and the time since its start. -/
def stamp (t : Timestamp) : Stamp :=
  let inDay := (t.millis % 86400000).toNat
  let secs := inDay / 1000
  ⟨civilOfDays (t.millis / 86400000), secs / 3600, secs / 60 % 60, secs % 60, inDay % 1000⟩

theorem format_eq_render (t : Timestamp) : t.format = t.stamp.render := rfl

/-- **The fields add up to the instant.** -/
theorem stamp_millis (t : Timestamp) : t.stamp.millis = t.millis := by
  unfold stamp Stamp.millis
  dsimp only
  rw [daysOfCivil_civilOfDays]
  -- the time of day, in seconds and minutes, taken apart and put back
  generalize hin : (t.millis % 86400000).toNat = inDay
  have hday : t.millis = t.millis / 86400000 * 86400000 + inDay := by omega
  have hsecs := Nat.div_add_mod inDay 1000
  have hmins := Nat.div_add_mod (inDay / 1000) 60
  have hhours := Nat.div_add_mod (inDay / 1000 / 60) 60
  rw [Nat.div_div_eq_div_mul] at hhours
  omega

/-- The instants of the years 0 through 9999. -/
def fourDigitRange : Set Int :=
  {m | daysOfCivil ⟨0, 1, 1⟩ * 86400000 ≤ m ∧ m < daysOfCivil ⟨10000, 1, 1⟩ * 86400000}

theorem valid_zero_one_one : CivilDate.Valid ⟨0, 1, 1⟩ := by decide

theorem valid_ten_thousand_one_one : CivilDate.Valid ⟨10000, 1, 1⟩ := by decide

/-- **The range is the instants of the years 0 through 9999**: an instant
lies in it exactly when the year of its day is one of them. -/
theorem mem_fourDigitRange_iff (m : Int) :
    m ∈ fourDigitRange ↔
      0 ≤ (civilOfDays (m / 86400000)).year ∧ (civilOfDays (m / 86400000)).year ≤ 9999 := by
  have hvalid := civilOfDays_valid (m / 86400000)
  have hfirst := civilOfDays_daysOfCivil valid_zero_one_one
  have hlast := civilOfDays_daysOfCivil valid_ten_thousand_one_one
  have hround := daysOfCivil_civilOfDays (m / 86400000)
  have := hvalid.month_pos
  have := hvalid.day_pos
  simp only [fourDigitRange, Set.mem_ofPred_eq]
  constructor
  · -- a date before the first of year 0, or from the first of year 10000 on,
    -- would have a count outside the range
    rintro ⟨hlo, hhi⟩
    constructor
    · by_contra hneg
      have hb : (civilOfDays (m / 86400000)).Before ⟨0, 1, 1⟩ := .inl (by simp only; omega)
      have := daysOfCivil_lt_of_before hvalid valid_zero_one_one hb
      omega
    · by_contra hbig
      have hle : daysOfCivil ⟨10000, 1, 1⟩ ≤ daysOfCivil (civilOfDays (m / 86400000)) := by
        rcases CivilDate.before_trichotomy ⟨10000, 1, 1⟩ (civilOfDays (m / 86400000))
          with hb | heq | hb
        · exact Int.le_of_lt (daysOfCivil_lt_of_before valid_ten_thousand_one_one hvalid hb)
        · rw [heq]
        · unfold CivilDate.Before at hb
          simp only at hb
          omega
      omega
  · -- a count outside the range has a date before year 0 or from year 10000 on
    rintro ⟨hlo, hhi⟩
    constructor
    · by_contra hneg
      have hb := civilOfDays_before (show m / 86400000 < daysOfCivil ⟨0, 1, 1⟩ by omega)
      rw [hfirst] at hb
      unfold CivilDate.Before at hb
      simp only at hb
      omega
    · by_contra hbig
      have hle : daysOfCivil ⟨10000, 1, 1⟩ ≤ m / 86400000 := by omega
      rcases Int.lt_or_eq_of_le hle with hlt | heq
      · have hb := civilOfDays_before hlt
        rw [hlast] at hb
        unfold CivilDate.Before at hb
        simp only at hb
        omega
      · rw [← heq, hlast] at hhi
        simp only at hhi
        omega

/-- The fields of an instant of the years 0 through 9999 are valid. -/
theorem stamp_valid {m : Int} (hm : m ∈ fourDigitRange) : (⟨m⟩ : Timestamp).stamp.Valid := by
  obtain ⟨hlo, hhi⟩ := (mem_fourDigitRange_iff m).mp hm
  have hin : (m % 86400000).toNat < 86400000 := by omega
  exact ⟨civilOfDays_valid _, hlo, hhi, by dsimp only [stamp]; omega, by dsimp only [stamp]; omega,
    by dsimp only [stamp]; omega, by dsimp only [stamp]; omega⟩

/-- **The text is strictly increasing** on the instants of the years 0
through 9999. -/
theorem format_strictMonoOn : StrictMonoOn (fun m : Int => format ⟨m⟩) fourDigitRange := by
  intro m hm m' hm' hlt
  have hs := stamp_valid hm
  have hs' := stamp_valid hm'
  have hmillis : (⟨m⟩ : Timestamp).stamp.millis < (⟨m'⟩ : Timestamp).stamp.millis := by
    rw [stamp_millis, stamp_millis]
    exact hlt
  dsimp only
  rw [format_eq_render, format_eq_render, String.lt_iff_toList_lt, Stamp.render_toList hs,
    Stamp.render_toList hs']
  exact Stamp.text_lt_of_millis_lt hs hs' hmillis

/-- **The text of an instant of the years 0 through 9999** is 24 characters,
`YYYY-MM-DDTHH:MM:SS.mmmZ`, whose fields are a valid date and time of day
that add up to the instant. Two such instants have the same text only when
they are equal, and their texts are in the order of the instants. -/
theorem format_fields_ordered (m m' : Int) (hm : m ∈ fourDigitRange)
    (hm' : m' ∈ fourDigitRange) :
    (∃ s : Stamp, (format ⟨m⟩).toList = s.text ∧ (format ⟨m⟩).length = 24 ∧ s.Valid ∧
        s.millis = m) ∧
      (format ⟨m⟩ = format ⟨m'⟩ ↔ m = m') ∧ (format ⟨m⟩ < format ⟨m'⟩ ↔ m < m') := by
  have htext : (format ⟨m⟩).toList = (⟨m⟩ : Timestamp).stamp.text := by
    rw [format_eq_render, Stamp.render_toList (stamp_valid hm)]
  refine ⟨⟨_, htext, ?_, stamp_valid hm, stamp_millis _⟩, ?_, ?_⟩
  · rw [← String.length_toList, htext, Stamp.length_text]
  · exact ⟨fun h => format_strictMonoOn.injOn hm hm' h, fun h => h ▸ rfl⟩
  · exact format_strictMonoOn.lt_iff_lt hm hm'

/-- 2023-11-14T22:13:20.123Z, and the epoch. -/
theorem format_fields_ordered_at_instant :
    1700000000123 ∈ fourDigitRange ∧ (0 : Int) ∈ fourDigitRange ∧
    ((∃ s : Stamp, (format ⟨1700000000123⟩).toList = s.text ∧
        (format ⟨1700000000123⟩).length = 24 ∧ s.Valid ∧ s.millis = 1700000000123) ∧
      (format ⟨1700000000123⟩ = format ⟨0⟩ ↔ (1700000000123 : Int) = 0) ∧
      (format ⟨1700000000123⟩ < format ⟨0⟩ ↔ (1700000000123 : Int) < 0)) :=
  have hm : (1700000000123 : Int) ∈ fourDigitRange := ⟨by decide, by decide⟩
  have h0 : (0 : Int) ∈ fourDigitRange := ⟨by decide, by decide⟩
  ⟨hm, h0, format_fields_ordered 1700000000123 0 hm h0⟩

end Timestamp

end ContentPublish
