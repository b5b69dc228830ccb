import ContentPublish.Json.Reader
import Mathlib

/-
  Numbers read before other text

  The reader takes a number one character at a time and never looks more
  than one character past what it has taken, so the text after a number
  counts only as far as it could go on with it. Text that starts with no
  character a number holds (a comma, a closing bracket or brace, the end of
  the text) goes on with none: before it the reader does with a number's text
  what it does with that text alone, giving the same number and leaving the
  text after it unread, or refusing it. This holds of any text, so it holds
  of every double's text whatever its digits and layout, with no need to
  follow how the reader rounds.

  What is stated here:
    1. `Reader.ReadsAlike` — two readings that agree up to the text after a
       number, with one lemma per function of the number reader, up to
       `Reader.number_alike`.
    2. `Number.render_shape` — a written number starts with a sign or a digit
       and holds only characters of numbers.
    3. `Number.reread` and `Reader.value_render_number` — before text that
       ends a number, a written number is read as it is read alone, and
       where it is not read whole alone the reader stops inside it.
-/

namespace ContentPublish.Json

/-- The leading digit of an integer, nonzero unless the integer is. -/
theorem toDigits_head (n : Nat) :
    ∃ d tail, d < 10 ∧ Nat.toDigits 10 n = Nat.digitChar d :: tail ∧ (0 < n → 0 < d) := by
  induction n using Nat.strong_induction_on with
  | _ n ih =>
  by_cases hsmall : n < 10
  · exact ⟨n, [], hsmall, Nat.toDigits_of_lt_base hsmall, id⟩
  · obtain ⟨d, tail, hd, hdigits, hpos⟩ := ih (n / 10) (by omega)
    refine ⟨d, tail ++ [Nat.digitChar (n % 10)], hd, ?_, fun _ => hpos (by omega)⟩
    rw [Nat.toDigits_of_base_le (by decide) (by omega), hdigits, List.cons_append]

namespace Reader

theorem digitValue?_digitChar : ∀ d, d < 10 → digitValue? (Nat.digitChar d) = some d := by
  decide

/-- A character a number's text holds: a digit, a point, an exponent mark or
a sign. -/
def numberChar (ch : Char) : Bool :=
  (digitValue? ch).isSome || ch == '.' || ch == 'e' || ch == 'E' || ch == '+' || ch == '-'

/-- The first character of a number: a minus sign or a digit. -/
def startsNumber (ch : Char) : Prop := ch = '-' ∨ (digitValue? ch).isSome = true

/-- Text that cannot go on with a number: it is empty, or its first
character is none that a number holds. -/
def endsNumber (rest : List Char) : Bool :=
  rest.head?.all fun ch => !numberChar ch

theorem not_numberChar {ch : Char} (h : numberChar ch = false) :
    digitValue? ch = none ∧ ch ≠ '.' ∧ ch ≠ 'e' ∧ ch ≠ 'E' ∧ ch ≠ '+' ∧ ch ≠ '-' := by
  simp only [numberChar, Bool.or_eq_false_iff, beq_eq_false_iff_ne, Option.isSome_eq_false_iff,
    Option.isNone_iff_eq_none] at h
  obtain ⟨⟨⟨⟨⟨hd, hp⟩, he⟩, hE⟩, hplus⟩, hminus⟩ := h
  exact ⟨hd, hp, he, hE, hplus, hminus⟩

theorem endsNumber_cases {rest : List Char} (h : endsNumber rest = true) :
    rest = [] ∨ ∃ ch tail, rest = ch :: tail ∧ numberChar ch = false := by
  rcases rest with _ | ⟨ch, tail⟩
  · exact .inl rfl
  · exact .inr ⟨ch, tail, rfl, by simpa [endsNumber] using h⟩

/-- A comma, a closing bracket or a closing brace goes on with no number. -/
theorem endsNumber_delimiter {ch : Char} (h : ch = ',' ∨ ch = ']' ∨ ch = '\x7d')
    (tail : List Char) : endsNumber (ch :: tail) = true := by
  rcases h with rfl | rfl | rfl <;> rfl

theorem numberChar_of_mem_toDigits {c : Char} {m : Nat} (h : c ∈ Nat.toDigits 10 m) :
    numberChar c = true := by
  have hc := Nat.isDigit_of_mem_toDigits (by decide) (by decide) h
  simp only [Char.isDigit, Bool.and_eq_true, decide_eq_true_eq] at hc
  simp only [numberChar, digitValue?, Char.le_def, Bool.or_eq_true]
  simp at hc
  simp [hc.1, hc.2]

/-- A digit is no blank and starts no word and no minus sign. -/
theorem digit_ne {ch : Char} (hd : (digitValue? ch).isSome = true) :
    isSpace ch = false ∧ ch ≠ 'n' ∧ ch ≠ 't' ∧ ch ≠ 'f' ∧ ch ≠ '-' := by
  have hrange : '0' ≤ ch ∧ ch ≤ '9' := by
    by_contra hn
    simp [digitValue?, hn] at hd
  obtain ⟨h₁, h₂⟩ := hrange
  refine ⟨?_, ?_, ?_, ?_, ?_⟩
  · simp only [isSpace, Bool.or_eq_false_iff, decide_eq_false_iff_not]
    refine ⟨⟨⟨?_, ?_⟩, ?_⟩, ?_⟩ <;> (rintro rfl; exact absurd h₁ (by decide))
  all_goals (rintro rfl; first | exact absurd h₁ (by decide) | exact absurd h₂ (by decide))

/-- A character of a number is no blank, comma or closing bracket. -/
theorem numberChar_ne {ch : Char} (h : numberChar ch = true) :
    isSpace ch = false ∧ ch ≠ ']' ∧ ch ≠ ',' ∧ ch ≠ '\x7d' := by
  simp only [numberChar, Bool.or_eq_true, beq_iff_eq] at h
  rcases h with ((((hd | rfl) | rfl) | rfl) | rfl) | rfl
  · -- a digit lies between `0` and `9`, apart from all four
    have hrange : '0' ≤ ch ∧ ch ≤ '9' := by
      by_contra hn
      simp [digitValue?, hn] at hd
    obtain ⟨h₁, h₂⟩ := hrange
    refine ⟨(digit_ne hd).1, ?_, ?_, ?_⟩ <;>
      (rintro rfl; first | exact absurd h₁ (by decide) | exact absurd h₂ (by decide))
  all_goals decide

/-! ### Two readings that agree -/

/-- Reading `cs` then `rest` goes as reading `cs` alone: a result gives the
same result with `rest` still to read after what was left of `cs`, and a
refusal gives a refusal. The two readings may count bytes from different
places. -/
structure ReadsAlike {α : Type} (r r' : Step α) (cs rest : List Char) : Prop where
  ok : ∀ a c, r = .ok (a, c) → c.rest <:+ cs ∧ ∃ o, r' = .ok (a, ⟨c.rest ++ rest, o⟩)
  error : ∀ e, r = .error e → ∃ e', r' = .error e'

namespace ReadsAlike

variable {α : Type} {r r' : Step α} {cs rest : List Char}

theorem of_ok {a : α} {c c' : Cursor} (hs : c.rest <:+ cs) (h : c'.rest = c.rest ++ rest) :
    ReadsAlike (.ok (a, c)) (.ok (a, c')) cs rest := by
  refine ⟨fun a' d hd => ?_, fun e he => by cases he⟩
  obtain ⟨rfl, rfl⟩ := Prod.mk.inj (Except.ok.inj hd)
  exact ⟨hs, c'.offset, by rw [← h]⟩

theorem of_error (e e' : Stop) : ReadsAlike (.error e : Step α) (.error e') cs rest :=
  ⟨fun _ _ h => (by cases h), fun _ _ => ⟨e', rfl⟩⟩

/-- What is read alike within a part of the text is read alike within all of it. -/
theorem mono {cs' : List Char} (h : ReadsAlike r r' cs rest) (hs : cs <:+ cs') :
    ReadsAlike r r' cs' rest := by
  refine ⟨fun a c hr => ?_, h.error⟩
  obtain ⟨hc, hr'⟩ := h.ok a c hr
  exact ⟨hc.trans hs, hr'⟩

end ReadsAlike

/-! ### The number reader, function by function -/

section Alike

variable {cs rest : List Char}

theorem finishFloat_alike {c c' : Cursor} (hs : c.rest <:+ cs) (h : c'.rest = c.rest ++ rest)
    (positive : Bool) (sig : Nat) (exp : Int) :
    ReadsAlike (finishFloat c positive sig exp) (finishFloat c' positive sig exp) cs rest := by
  unfold finishFloat
  cases fromParts sig exp with
  | some f => exact .of_ok hs h
  | none => exact .of_error _ _

variable (hrest : endsNumber rest = true)
include hrest

/-- Digits are skipped alike before text that ends a number. -/
theorem skipDigits_append : ∀ (cs : List Char) (o₁ o₂ : Nat),
    (skipDigits cs o₁).rest <:+ cs ∧
      (skipDigits (cs ++ rest) o₂).rest = (skipDigits cs o₁).rest ++ rest
  | [], o₁, o₂ => by
    refine ⟨List.suffix_refl _, ?_⟩
    rcases endsNumber_cases hrest with rfl | ⟨ch, tail, rfl, hch⟩
    · rfl
    · simp [skipDigits, (not_numberChar hch).1]
  | ch :: cs, o₁, o₂ => by
    by_cases hd : (digitValue? ch).isSome
    · obtain ⟨hs, h⟩ := skipDigits_append cs (o₁ + 1) (o₂ + 1)
      simp only [List.cons_append, skipDigits, hd, if_true]
      exact ⟨hs.trans (List.suffix_cons ch cs), h⟩
    · simp [skipDigits, hd]

theorem exponentOverflow_alike {c c' : Cursor} (hs : c.rest <:+ cs)
    (h : c'.rest = c.rest ++ rest) (positive zeroSig positiveExp : Bool) :
    ReadsAlike (exponentOverflow c positive zeroSig positiveExp)
      (exponentOverflow c' positive zeroSig positiveExp) cs rest := by
  obtain ⟨hs', h'⟩ := skipDigits_append hrest c.rest c.offset c'.offset
  unfold exponentOverflow
  by_cases hbig : (!zeroSig && positiveExp) = true
  · rw [if_pos hbig, if_pos hbig]
    exact .of_error _ _
  · -- a small exponent gives zero after skipping its digits
    rw [if_neg hbig, if_neg hbig]
    exact .of_ok (hs'.trans hs) (by rw [h]; exact h')

theorem exponentDigits_alike (positive : Bool) (sig : Nat) (start : Int) (positiveExp : Bool) :
    ∀ (cs : List Char) (o₁ o₂ e : Nat),
      ReadsAlike (exponentDigits positive sig start positiveExp cs o₁ e)
        (exponentDigits positive sig start positiveExp (cs ++ rest) o₂ e) cs rest
  | [], o₁, o₂, e => by
    rcases endsNumber_cases hrest with rfl | ⟨ch, tail, rfl, hch⟩
    · exact finishFloat_alike (List.suffix_refl []) rfl _ _ _
    · simp only [List.nil_append, exponentDigits, (not_numberChar hch).1]
      exact finishFloat_alike (List.suffix_refl []) rfl _ _ _
  | ch :: cs, o₁, o₂, e => by
    rw [List.cons_append]
    cases hd : digitValue? ch with
    | none =>
      simp only [exponentDigits, hd]
      exact finishFloat_alike (List.suffix_refl _) rfl _ _ _
    | some d =>
      simp only [exponentDigits, hd]
      by_cases hover : exponentOverflows e d = true
      · rw [if_pos hover, if_pos hover]
        exact exponentOverflow_alike hrest (List.suffix_cons ch cs) rfl _ _ _
      · rw [if_neg hover, if_neg hover]
        exact (exponentDigits_alike positive sig start positiveExp cs _ _ _).mono
          (List.suffix_cons ch cs)

theorem exponentStart_alike {c c' : Cursor} (hs : c.rest <:+ cs) (h : c'.rest = c.rest ++ rest)
    (positive : Bool) (sig : Nat) (start : Int) (positiveExp : Bool) :
    ReadsAlike (exponentStart c positive sig start positiveExp)
      (exponentStart c' positive sig start positiveExp) cs rest := by
  obtain ⟨r, o⟩ := c
  obtain ⟨r', o'⟩ := c'
  simp only at hs h
  subst h
  rcases r with _ | ⟨ch, t⟩
  · -- no digit after the sign: refused alone, and before text that ends a number
    rcases endsNumber_cases hrest with rfl | ⟨ch, tail, rfl, hch⟩
    · exact .of_error _ _
    · simp only [List.nil_append, exponentStart, (not_numberChar hch).1]
      exact .of_error _ _
  · cases hd : digitValue? ch with
    | none =>
      simp only [List.cons_append, exponentStart, hd]
      exact .of_error _ _
    | some d =>
      simp only [List.cons_append, exponentStart, hd, Cursor.bump]
      exact (exponentDigits_alike hrest positive sig start positiveExp t _ _ d).mono
        ((List.suffix_cons ch t).trans hs)

/-- An exponent is read alike; the cursor is on its mark. -/
theorem exponentPart_alike {m : Char} {t : List Char} (hs : m :: t <:+ cs) (o₁ o₂ : Nat)
    (positive : Bool) (sig : Nat) (start : Int) :
    ReadsAlike (exponentPart ⟨m :: t, o₁⟩ positive sig start)
      (exponentPart ⟨m :: t ++ rest, o₂⟩ positive sig start) cs rest := by
  have ht : t <:+ cs := (List.suffix_cons m t).trans hs
  rcases t with _ | ⟨s, t⟩
  · -- nothing after the mark: the text after it is no sign
    rcases endsNumber_cases hrest with rfl | ⟨ch, tail, rfl, hch⟩
    · exact .of_error _ _
    · obtain ⟨-, -, -, -, hplus, hminus⟩ := not_numberChar hch
      simp only [exponentPart, Cursor.bump, Cursor.peek]
      simp [hplus, hminus]
      exact exponentStart_alike hrest ht rfl _ _ _ _
  · have hst : t <:+ cs := (List.suffix_cons s t).trans ht
    by_cases hplus : s = '+'
    · subst hplus
      exact exponentStart_alike hrest hst rfl _ _ _ _
    · by_cases hminus : s = '-'
      · subst hminus
        exact exponentStart_alike hrest hst rfl _ _ _ _
      · simp only [exponentPart, Cursor.bump, Cursor.peek, List.cons_append, List.head?_cons]
        simp [hplus, hminus]
        exact exponentStart_alike hrest ht rfl _ _ _ _

theorem afterOverflow_alike {c c' : Cursor} (hs : c.rest <:+ cs) (h : c'.rest = c.rest ++ rest)
    (positive : Bool) (sig : Nat) (exp : Int) :
    ReadsAlike (afterOverflow c positive sig exp) (afterOverflow c' positive sig exp) cs rest := by
  obtain ⟨hs', h'⟩ := skipDigits_append hrest c.rest c.offset c'.offset
  rw [← h] at h'
  unfold afterOverflow
  generalize skipDigits c.rest c.offset = d at hs' h'
  generalize skipDigits c'.rest c'.offset = d' at h'
  obtain ⟨r, o⟩ := d
  obtain ⟨r', o'⟩ := d'
  simp only at hs' h'
  subst h'
  have hr := hs'.trans hs
  rcases r with _ | ⟨ch, t⟩
  · -- the digits run to the end: the text after them is no exponent
    rcases endsNumber_cases hrest with rfl | ⟨ch, tail, rfl, hch⟩
    · exact finishFloat_alike hr rfl _ _ _
    · obtain ⟨-, -, he, hE, -, -⟩ := not_numberChar hch
      simp only [Cursor.peek, List.nil_append, List.head?_cons]
      simp [he, hE]
      exact finishFloat_alike hr rfl _ _ _
  · by_cases he : ch = 'e'
    · subst he
      exact exponentPart_alike hrest hr _ _ _ _ _
    · by_cases hE : ch = 'E'
      · subst hE
        exact exponentPart_alike hrest hr _ _ _ _ _
      · simp only [Cursor.peek, List.cons_append, List.head?_cons]
        simp [he, hE]
        exact finishFloat_alike hr rfl _ _ _

theorem fractionDigits_alike (positive : Bool) (start : Int) :
    ∀ (cs : List Char) (o₁ o₂ sig count : Nat),
      ReadsAlike (fractionDigits positive start cs o₁ sig count)
        (fractionDigits positive start (cs ++ rest) o₂ sig count) cs rest
  | [], o₁, o₂, sig, count => by
    rcases endsNumber_cases hrest with rfl | ⟨ch, tail, rfl, hch⟩
    · by_cases hc : count = 0
      · simp only [List.nil_append, fractionDigits, hc, if_true]
        exact .of_error _ _
      · simp only [List.nil_append, fractionDigits, hc, if_false]
        exact finishFloat_alike (List.suffix_refl []) rfl _ _ _
    · -- the text after the digits is no digit and no exponent mark
      obtain ⟨hd, -, he, hE, -, -⟩ := not_numberChar hch
      by_cases hc : count = 0
      · simp only [List.nil_append, fractionDigits, hd, hc, if_true]
        exact .of_error _ _
      · simp only [List.nil_append, fractionDigits, hd, hc, he, hE, or_self, if_false]
        exact finishFloat_alike (List.suffix_refl []) rfl _ _ _
  | ch :: cs, o₁, o₂, sig, count => by
    rw [List.cons_append]
    cases hd : digitValue? ch with
    | some d =>
      simp only [fractionDigits, hd]
      by_cases hover : overflows sig d = true
      · rw [if_pos hover, if_pos hover]
        exact afterOverflow_alike hrest (List.suffix_refl _) rfl _ _ _
      · rw [if_neg hover, if_neg hover]
        exact (fractionDigits_alike positive start cs _ _ _ _).mono (List.suffix_cons ch cs)
    | none =>
      simp only [fractionDigits, hd]
      by_cases hc : count = 0
      · rw [if_pos hc, if_pos hc]
        exact .of_error _ _
      · rw [if_neg hc, if_neg hc]
        by_cases hexp : ch = 'e' ∨ ch = 'E'
        · rw [if_pos hexp, if_pos hexp]
          exact exponentPart_alike hrest (List.suffix_refl _) _ _ _ _ _
        · rw [if_neg hexp, if_neg hexp]
          exact finishFloat_alike (List.suffix_refl _) rfl _ _ _

/-- A fraction is read alike; the cursor is on its point. -/
theorem fractionPart_alike {m : Char} {t : List Char} (hs : m :: t <:+ cs) (o₁ o₂ : Nat)
    (positive : Bool) (sig : Nat) (start : Int) :
    ReadsAlike (fractionPart ⟨m :: t, o₁⟩ positive sig start)
      (fractionPart ⟨m :: t ++ rest, o₂⟩ positive sig start) cs rest :=
  (fractionDigits_alike hrest positive start t _ _ sig 0).mono ((List.suffix_cons m t).trans hs)

theorem longDigits_alike (positive : Bool) (sig : Nat) :
    ∀ (cs : List Char) (o₁ o₂ extra : Nat),
      ReadsAlike (longDigits positive sig cs o₁ extra)
        (longDigits positive sig (cs ++ rest) o₂ extra) cs rest
  | [], o₁, o₂, extra => by
    rcases endsNumber_cases hrest with rfl | ⟨ch, tail, rfl, hch⟩
    · exact finishFloat_alike (List.suffix_refl []) rfl _ _ _
    · obtain ⟨hd, hp, he, hE, -, -⟩ := not_numberChar hch
      simp only [List.nil_append, longDigits, hd, Option.isSome_none, Bool.false_eq_true,
        if_false, hp, he, hE, or_self]
      exact finishFloat_alike (List.suffix_refl []) rfl _ _ _
  | ch :: cs, o₁, o₂, extra => by
    rw [List.cons_append]
    by_cases hd : (digitValue? ch).isSome = true
    · simp only [longDigits, hd, if_true]
      exact (longDigits_alike positive sig cs _ _ _).mono (List.suffix_cons ch cs)
    · simp only [longDigits, hd]
      by_cases hp : ch = '.'
      · rw [if_pos hp, if_pos hp]
        exact fractionPart_alike hrest (List.suffix_refl _) _ _ _ _ _
      · rw [if_neg hp, if_neg hp]
        by_cases hexp : ch = 'e' ∨ ch = 'E'
        · rw [if_pos hexp, if_pos hexp]
          exact exponentPart_alike hrest (List.suffix_refl _) _ _ _ _ _
        · rw [if_neg hexp, if_neg hexp]
          exact finishFloat_alike (List.suffix_refl _) rfl _ _ _

theorem afterInteger_alike {c c' : Cursor} (hs : c.rest <:+ cs) (h : c'.rest = c.rest ++ rest)
    (positive : Bool) (sig : Nat) :
    ReadsAlike (afterInteger c positive sig) (afterInteger c' positive sig) cs rest := by
  obtain ⟨r, o⟩ := c
  obtain ⟨r', o'⟩ := c'
  simp only at hs h
  subst h
  rcases r with _ | ⟨ch, t⟩
  · -- the integer runs to the end: the text after it is no fraction or exponent
    rcases endsNumber_cases hrest with rfl | ⟨ch, tail, rfl, hch⟩
    · exact .of_ok hs rfl
    · obtain ⟨-, hp, he, hE, -, -⟩ := not_numberChar hch
      simp only [afterInteger, Cursor.peek, List.nil_append, List.head?_cons]
      simp [hp, he, hE]
      exact .of_ok hs rfl
  · by_cases hp : ch = '.'
    · subst hp
      exact fractionPart_alike hrest hs _ _ _ _ _
    · by_cases he : ch = 'e'
      · subst he
        exact exponentPart_alike hrest hs _ _ _ _ _
      · by_cases hE : ch = 'E'
        · subst hE
          exact exponentPart_alike hrest hs _ _ _ _ _
        · simp only [afterInteger, Cursor.peek, List.cons_append, List.head?_cons]
          simp [hp, he, hE]
          exact .of_ok hs rfl

theorem integerDigits_alike (positive : Bool) :
    ∀ (cs : List Char) (o₁ o₂ sig : Nat),
      ReadsAlike (integerDigits positive cs o₁ sig)
        (integerDigits positive (cs ++ rest) o₂ sig) cs rest
  | [], o₁, o₂, sig => by
    rcases endsNumber_cases hrest with rfl | ⟨ch, tail, rfl, hch⟩
    · exact afterInteger_alike hrest (List.suffix_refl []) rfl _ _
    · simp only [List.nil_append, integerDigits, (not_numberChar hch).1]
      exact afterInteger_alike hrest (List.suffix_refl []) rfl _ _
  | ch :: cs, o₁, o₂, sig => by
    rw [List.cons_append]
    cases hd : digitValue? ch with
    | none =>
      simp only [integerDigits, hd]
      exact afterInteger_alike hrest (List.suffix_refl _) rfl _ _
    | some d =>
      simp only [integerDigits, hd]
      by_cases hover : overflows sig d = true
      · rw [if_pos hover, if_pos hover]
        exact longDigits_alike hrest positive sig (ch :: cs) _ _ 0
      · rw [if_neg hover, if_neg hover]
        exact (integerDigits_alike positive cs _ _ _).mono (List.suffix_cons ch cs)

/-- **A number is read alike alone and before text that ends it.** -/
theorem number_alike {c c' : Cursor} (hs : c.rest <:+ cs) (h : c'.rest = c.rest ++ rest)
    (positive : Bool) : ReadsAlike (number c positive) (number c' positive) cs rest := by
  obtain ⟨r, o⟩ := c
  obtain ⟨r', o'⟩ := c'
  simp only at hs h
  subst h
  rcases r with _ | ⟨ch, t⟩
  · -- no digit at all: the text after it starts with none either
    rcases endsNumber_cases hrest with rfl | ⟨ch, tail, rfl, hch⟩
    · exact .of_error _ _
    · have hd := (not_numberChar hch).1
      have h0 : ch ≠ '0' := by
        rintro rfl
        exact absurd hd (by decide)
      simp only [List.nil_append, number, h0, if_false, hd]
      exact .of_error _ _
  · have ht : t <:+ cs := (List.suffix_cons ch t).trans hs
    by_cases h0 : ch = '0'
    · -- a leading zero, which no digit may follow
      subst h0
      rcases t with _ | ⟨n, t⟩
      · rcases endsNumber_cases hrest with rfl | ⟨ch, tail, rfl, hch⟩
        · simp only [List.cons_append, List.nil_append, number, if_true, List.head?_nil]
          exact afterInteger_alike hrest ht rfl _ _
        · simp only [List.cons_append, List.nil_append, number, if_true, List.head?_cons,
            (not_numberChar hch).1, Option.isSome_none, Bool.false_eq_true, if_false]
          exact afterInteger_alike hrest ht rfl _ _
      · by_cases hn : (digitValue? n).isSome = true
        · simp only [List.cons_append, number, if_true, List.head?_cons, hn]
          exact .of_error _ _
        · simp only [List.cons_append, number, if_true, List.head?_cons, hn]
          exact afterInteger_alike hrest ht rfl _ _
    · cases hd : digitValue? ch with
      | none =>
        simp only [List.cons_append, number, h0, if_false, hd]
        exact .of_error _ _
      | some d =>
        simp only [List.cons_append, number, h0, if_false, hd, Cursor.bump]
        exact (integerDigits_alike hrest positive t _ _ d).mono ht

end Alike

/-! ### Numbers as values -/

/-- A value led by a minus sign is a negative number. -/
theorem value_minus (fuel room : Nat) (cs : List Char) (off : Nat) :
    value (fuel + 1) room ⟨'-' :: cs, off⟩ =
      (number ⟨cs, off + 1⟩ false).map fun p => (.number p.1, p.2) := by
  have hsize : '-'.utf8Size = 1 := by decide
  rcases h : number ⟨cs, off + 1⟩ false with e | ⟨n, c⟩ <;>
    simp [value, Cursor.skipSpace, skipSpace, isSpace, Cursor.bump, hsize, h, Except.map]

/-- A value led by a digit is a number. -/
theorem value_digit {ch : Char} (hd : (digitValue? ch).isSome = true) (fuel room : Nat)
    (cs : List Char) (off : Nat) :
    value (fuel + 1) room ⟨ch :: cs, off⟩ =
      (number ⟨ch :: cs, off⟩ true).map fun p => (.number p.1, p.2) := by
  obtain ⟨hspace, hn, ht, hf, hminus⟩ := digit_ne hd
  rcases h : number ⟨ch :: cs, off⟩ true with e | ⟨n, c⟩ <;>
    simp [value, Cursor.skipSpace, skipSpace, hspace, hn, ht, hf, hminus, hd, h, Except.map]

/-- The text of a value that starts a number is read as a number, alike alone
and before text that ends a number. -/
theorem value_number_text {ch : Char} {cs rest : List Char} (hch : startsNumber ch)
    (hrest : endsNumber rest = true) (fuel room off : Nat) :
    ∃ (positive : Bool) (c c' : Cursor),
      value 1 0 ⟨ch :: cs, 0⟩ = (number c positive).map (fun p => (.number p.1, p.2)) ∧
      value (fuel + 1) room ⟨ch :: cs ++ rest, off⟩ =
        (number c' positive).map (fun p => (.number p.1, p.2)) ∧
      ReadsAlike (number c positive) (number c' positive) (ch :: cs) rest := by
  rcases hch with rfl | hd
  · exact ⟨false, ⟨cs, 1⟩, ⟨cs ++ rest, off + 1⟩, value_minus 0 0 cs 0, value_minus fuel room _ off,
      number_alike hrest (List.suffix_cons '-' cs) rfl false⟩
  · exact ⟨true, ⟨ch :: cs, 0⟩, ⟨ch :: cs ++ rest, off⟩, value_digit hd 0 0 cs 0,
      value_digit hd fuel room _ off, number_alike hrest (List.suffix_refl _) rfl true⟩

/-- The reader stops inside a number's text before `rest`: it refuses the
text, or it leaves a character of the number unread. -/
def StopsInside {α : Type} (r : Step α) (rest : List Char) : Prop :=
  (∃ e, r = .error e) ∨
    ∃ a ch tail o, numberChar ch = true ∧ r = .ok (a, ⟨ch :: tail ++ rest, o⟩)

end Reader

open Reader

/-! ### Written numbers -/

/-- The characters of a written double are characters of numbers. -/
theorem renderFloat_chars (layout : FloatLayout) (x : Binary64) :
    ∀ c ∈ (renderFloat layout x).toList, numberChar c = true := by
  have hdigits : ∀ m, ∀ c ∈ Nat.toDigits 10 m, numberChar c = true :=
    fun _ _ h => numberChar_of_mem_toDigits h
  have htake : ∀ m n, ∀ c ∈ (Nat.toDigits 10 m).take n, numberChar c = true :=
    fun m _ _ h => hdigits m _ (List.mem_of_mem_take h)
  have hdrop : ∀ m n, ∀ c ∈ (Nat.toDigits 10 m).drop n, numberChar c = true :=
    fun m _ _ h => hdigits m _ (List.mem_of_mem_drop h)
  have hmarks : numberChar '-' ∧ numberChar '+' ∧ numberChar '.' ∧ numberChar 'e' ∧
      numberChar '0' := by decide
  unfold renderFloat
  generalize x.shortestDigits = dp
  obtain ⟨d, p⟩ := dp
  dsimp only
  -- each layout is made of the digits, zeros, a point, a mark and signs
  split_ifs <;> intro c hc <;>
    simp only [String.toList_append, zeros, String.toList_ofList, List.mem_append,
      List.mem_replicate] at hc <;> grind

/-- A written double starts with its sign or its first digit. -/
theorem renderFloat_head (layout : FloatLayout) (x : Binary64) :
    ∃ ch cs, (renderFloat layout x).toList = ch :: cs ∧ startsNumber ch := by
  unfold renderFloat
  generalize x.shortestDigits = dp
  obtain ⟨d, p⟩ := dp
  obtain ⟨d₀, tail, hd₀, hdig, -⟩ := toDigits_head d
  have h₀ : startsNumber d₀.digitChar := .inr (by simp [digitValue?_digitChar d₀ hd₀])
  have hmarks : startsNumber '-' ∧ startsNumber '0' := ⟨.inl rfl, .inr rfl⟩
  dsimp only
  simp only [hdig, List.length_cons]
  -- a positional layout with digits before the point cuts after at least one
  split_ifs <;> simp (disch := omega) [String.toList_append, zeros, h₀, hmarks, List.take_cons]

/-- **The text of a number** starts with a sign or a digit and holds only
characters of numbers. -/
theorem Number.render_shape (n : Number) :
    ∃ ch cs, n.render.toList = ch :: cs ∧ startsNumber ch ∧
      ∀ c ∈ ch :: cs, numberChar c = true := by
  cases n with
  | nat n =>
    obtain ⟨d, tail, hd, hdig, -⟩ := toDigits_head n
    refine ⟨_, tail, by rw [Number.render, String.toList_ofList, hdig],
      .inr (by simp [digitValue?_digitChar d hd]), fun c hc => ?_⟩
    exact numberChar_of_mem_toDigits (hdig ▸ hc)
  | negative n =>
    refine ⟨'-', Nat.toDigits 10 n.natAbs, by simp [Number.render], .inl rfl, fun c hc => ?_⟩
    rcases List.mem_cons.mp hc with rfl | hc
    · rfl
    · exact numberChar_of_mem_toDigits hc
  | float x =>
    obtain ⟨ch, cs, htext, hch⟩ := renderFloat_head FloatLayout.standard x
    exact ⟨ch, cs, htext, hch, htext ▸ renderFloat_chars FloatLayout.standard x⟩

/-- The number the reader takes a written number for, read alone: `none`
where it refuses the text or stops inside it. -/
def Number.reread (n : Number) : Option Number :=
  match Reader.value 1 0 ⟨n.render.toList, 0⟩ with
  | .ok (.number m, ⟨[], _⟩) => some m
  | _ => none

namespace Reader

/-- **A written number is read before text that ends it as it is read
alone**: as the number it is reread as, that text left to read, or, where it
is not read whole alone, the reader stops inside it. -/
theorem value_render_number (n : Number) {rest : List Char} (hrest : endsNumber rest = true)
    (fuel room off : Nat) :
    (∀ m, n.reread = some m → ∃ o,
      value (fuel + 1) room ⟨n.render.toList ++ rest, off⟩ = .ok (.number m, ⟨rest, o⟩)) ∧
    (n.reread = none → StopsInside (value (fuel + 1) room ⟨n.render.toList ++ rest, off⟩) rest) := by
  obtain ⟨ch, cs, htext, hch, hall⟩ := n.render_shape
  obtain ⟨positive, c, c', halone, hctx, halike⟩ := value_number_text hch hrest fuel room off
  have hvalue : value 1 0 ⟨n.render.toList, 0⟩ =
      (number c positive).map (fun p => (.number p.1, p.2)) := htext ▸ halone
  rw [htext, hctx]
  rcases hr : number c positive with e | ⟨m, ⟨r, o⟩⟩
  · -- refused alone, so refused before the text
    have hnone : n.reread = none := by simp [Number.reread, hvalue, hr, Except.map]
    obtain ⟨e', he'⟩ := halike.error e hr
    refine ⟨fun m' h => by simp [hnone] at h, fun _ => .inl ⟨e', by simp [he', Except.map]⟩⟩
  · obtain ⟨hsuf, o', he'⟩ := halike.ok m ⟨r, o⟩ hr
    rcases r with _ | ⟨x, xs⟩
    · -- read whole alone: the same number, the text after it left
      have hsome : n.reread = some m := by simp [Number.reread, hvalue, hr, Except.map]
      refine ⟨fun m' h => ⟨o', ?_⟩, fun h => by simp [hsome] at h⟩
      rw [hsome, Option.some.injEq] at h
      subst h
      simp [he', Except.map]
    · -- stopped inside alone, before a character of the number
      have hnone : n.reread = none := by simp [Number.reread, hvalue, hr, Except.map]
      refine ⟨fun m' h => by simp [hnone] at h,
        fun _ => .inr ⟨.number m, x, xs, o', hall x (hsuf.mem List.mem_cons_self), ?_⟩⟩
      simp [he', Except.map]

end Reader

end ContentPublish.Json
