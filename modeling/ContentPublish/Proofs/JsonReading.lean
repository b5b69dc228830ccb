import ContentPublish.Proofs.JsonNumbers

/-
  Reading JSON text, piece by piece

  What the reader does with each piece of a written value. A string literal
  is read character by character, each escape standing for the character it
  was written for; an integer digit by digit into a significand that never
  overflows, up to text that ends a number; `null`, `true`, `false` and the
  empty containers as themselves. The items of an array and the members of
  an object are read one at a time, the first straight after the opening
  bracket and each further one behind its comma, and one step reads whatever
  value the item's text is read as; so the read-back of whole values is a
  single induction over them, in `Proofs/JsonReadBack`.

  What is stated here:
    1. `escapedChars`, `itemsTail` and `membersTail` — the written
       characters of strings, items and members; `Value.render_starts` —
       every value's text starts with a character that ends no container.
    2. `string_quote` — a string literal is read back as its text.
    3. `Reader.value_nat` and `Reader.value_negative` — an integer is read
       back from its digits, up to text that ends a number.
    4. `Reader.value_null` and its kin — the values with nothing inside are
       read as themselves.
    5. `Reader.items_first_step` and its kin — one step of reading a
       container, whatever its item is read as.
-/

namespace ContentPublish.Json

open Reader

/-! ## The written characters -/

/-- The characters of a string literal between its quotes. -/
def escapedChars (cs : List Char) : List Char := cs.flatMap fun c => (escapeChar c).toList

/-- Array items after the first, each behind a comma. -/
def itemsTail (vs : List Value) : List Char := vs.flatMap fun v => ',' :: v.render.toList

/-- Object members after the first, each behind a comma. -/
def membersTail (ms : List (String × Value)) : List Char :=
  ms.flatMap fun m => ',' :: ((quote m.1).toList ++ ':' :: m.2.render.toList)

theorem itemsTail_cons (v : Value) (vs : List Value) :
    itemsTail (v :: vs) = ',' :: (v.render.toList ++ itemsTail vs) := by
  simp [itemsTail]

theorem membersTail_cons (k : String) (w : Value) (ms : List (String × Value)) :
    membersTail ((k, w) :: ms) =
      ',' :: ((quote k).toList ++ ':' :: (w.render.toList ++ membersTail ms)) := by
  simp [membersTail]

theorem quote_toList (s : String) : (quote s).toList = '"' :: escapedChars s.toList ++ ['"'] := by
  simp [quote, escapedChars, List.flatMap_map]

theorem renderItems_cons (v : Value) (vs : List Value) :
    (Value.renderItems (v :: vs)).toList = v.render.toList ++ itemsTail vs := by
  induction vs generalizing v with
  | nil => simp [Value.renderItems, itemsTail]
  | cons w ws ih =>
    have hcons : Value.renderItems (v :: w :: ws) = v.render ++ "," ++ Value.renderItems (w :: ws) := by
      simp [Value.renderItems]
    rw [hcons, String.toList_append, String.toList_append, ih]
    simp [itemsTail]

theorem renderMembers_cons (k : String) (v : Value) (ms : List (String × Value)) :
    (Value.renderMembers ((k, v) :: ms)).toList =
      (quote k).toList ++ ':' :: v.render.toList ++ membersTail ms := by
  induction ms generalizing k v with
  | nil => simp [Value.renderMembers, membersTail]
  | cons m ms ih =>
    obtain ⟨k', w⟩ := m
    have hcons : Value.renderMembers ((k, v) :: (k', w) :: ms) =
        quote k ++ ":" ++ v.render ++ "," ++ Value.renderMembers ((k', w) :: ms) := by
      simp [Value.renderMembers]
    rw [hcons, String.toList_append, String.toList_append, ih]
    simp [membersTail]

/-- The text of an array with a first item, and the text after it. -/
theorem render_array_cons (v : Value) (vs : List Value) (rest : List Char) :
    (Value.array (v :: vs)).render.toList ++ rest =
      '[' :: (v.render.toList ++ (itemsTail vs ++ ']' :: rest)) := by
  simp [Value.render, renderItems_cons]

/-- The text of an object with a first member, and the text after it. -/
theorem render_object_cons (k : String) (w : Value) (ms : List (String × Value))
    (rest : List Char) :
    (Value.object ((k, w) :: ms)).render.toList ++ rest =
      '\x7b' :: ((quote k).toList ++ ':' :: (w.render.toList ++
        (membersTail ms ++ '\x7d' :: rest))) := by
  simp [Value.render, renderMembers_cons]

theorem length_render_array_cons (v : Value) (vs : List Value) :
    (Value.array (v :: vs)).render.toList.length =
      v.render.toList.length + (itemsTail vs).length + 2 := by
  have h := congrArg List.length (render_array_cons v vs [])
  simp only [List.append_nil, List.length_cons, List.length_append, List.length_nil] at h
  omega

theorem length_render_object_cons (k : String) (w : Value) (ms : List (String × Value)) :
    (Value.object ((k, w) :: ms)).render.toList.length =
      (quote k).toList.length + w.render.toList.length + (membersTail ms).length + 3 := by
  have h := congrArg List.length (render_object_cons k w ms [])
  simp only [List.append_nil, List.length_cons, List.length_append, List.length_nil] at h
  omega


/-- The text of every value starts with a character that no blank, closing
bracket or comma is. -/
theorem Value.render_starts (v : Value) :
    ∃ ch tail, v.render.toList = ch :: tail ∧ isSpace ch = false ∧ ch ≠ ']' ∧
      ch ≠ '\x7d' ∧ ch ≠ ',' := by
  cases v with
  | null => exact ⟨'n', ['u', 'l', 'l'], by simp [Value.render], by decide⟩
  | bool b =>
    cases b
    · exact ⟨'f', ['a', 'l', 's', 'e'], by simp [Value.render], by decide⟩
    · exact ⟨'t', ['r', 'u', 'e'], by simp [Value.render], by decide⟩
  | number n =>
    obtain ⟨ch, cs, htext, -, hall⟩ := n.render_shape
    obtain ⟨hsp, hbr, hcomma, hbrace⟩ := numberChar_ne (hall ch List.mem_cons_self)
    exact ⟨ch, cs, htext, hsp, hbr, hbrace, hcomma⟩
  | string s =>
    exact ⟨'"', escapedChars s.toList ++ ['"'], by simp [Value.render, quote_toList], by decide⟩
  | array items =>
    exact ⟨'[', (Value.renderItems items).toList ++ [']'], by simp [Value.render], by decide⟩
  | object fields =>
    exact ⟨'\x7b', (Value.renderMembers fields).toList ++ ['\x7d'], by simp [Value.render],
      by decide⟩

theorem Value.render_length_pos (v : Value) : 0 < v.render.toList.length := by
  obtain ⟨ch, tail, h, -⟩ := v.render_starts
  simp [h]

theorem length_quote (k : String) : 2 ≤ (quote k).toList.length := by
  simp [quote_toList]

theorem endsNumber_itemsTail (vs : List Value) (rest : List Char) :
    endsNumber (itemsTail vs ++ ']' :: rest) = true := by
  rcases vs with _ | ⟨v, vs⟩
  · exact endsNumber_delimiter (.inr (.inl rfl)) rest
  · rw [itemsTail_cons, List.cons_append]
    exact endsNumber_delimiter (.inl rfl) _

theorem endsNumber_membersTail (ms : List (String × Value)) (rest : List Char) :
    endsNumber (membersTail ms ++ '\x7d' :: rest) = true := by
  rcases ms with _ | ⟨⟨k, w⟩, ms⟩
  · exact endsNumber_delimiter (.inr (.inr rfl)) rest
  · rw [membersTail_cons, List.cons_append]
    exact endsNumber_delimiter (.inl rfl) _

/-! ## Reading strings -/

namespace Reader

/-- Blanks are skipped only where there are some. -/
theorem skipSpace_of_not_space {ch : Char} (h : isSpace ch = false) (rest : List Char)
    (off : Nat) : skipSpace (ch :: rest) off = ⟨ch :: rest, off⟩ := by
  simp [skipSpace, h]

theorem hexValue?_hexDigit : ∀ d, d < 16 →
    hexValue? (if d < 10 then Char.ofNat (48 + d) else Char.ofNat (87 + d)) = some d := by
  decide

/-- A control character escaped as `\u00XX` is read back. -/
theorem stringBody_hexEscape (c : Char) (hc : c.toNat < 0x20) (tail : List Char)
    (fuel off : Nat) (acc : List Char) :
    ∃ off', stringBody (fuel + 1) ⟨("\\u00" ++ hexByte c.toNat).toList ++ tail, off⟩ acc =
      stringBody fuel ⟨tail, off'⟩ (c :: acc) := by
  have hhi := hexValue?_hexDigit (c.toNat / 16 % 16) (Nat.mod_lt _ (by decide))
  have hlo := hexValue?_hexDigit (c.toNat % 16) (Nat.mod_lt _ (by decide))
  have hzero : hexValue? '0' = some 0 := by decide
  have hcode : c.toNat / 16 % 16 * 16 + c.toNat % 16 = c.toNat := by omega
  have hnot : ¬ (0xDC00 ≤ c.toNat ∧ c.toNat ≤ 0xDFFF) := by omega
  have hlow : c.toNat < 0xD800 ∨ 0xDBFF < c.toNat := .inl (by omega)
  simp only [hexByte, String.toList_append, String.toList_ofList]
  simp [stringBody, escape, Cursor.bump, unicodeEscape, hexEscape, hhi, hlo, hzero, hcode]
  rw [if_neg hnot, if_pos hlow]
  exact ⟨_, rfl⟩

/-- **One written character is read back.** -/
theorem stringBody_escapeChar (c : Char) (tail : List Char) (fuel off : Nat) (acc : List Char) :
    ∃ off', stringBody (fuel + 1) ⟨(escapeChar c).toList ++ tail, off⟩ acc =
      stringBody fuel ⟨tail, off'⟩ (c :: acc) := by
  unfold escapeChar
  split_ifs with hq hb hn hr ht hbs hff hctl
  · subst hq; exact ⟨_, by simp [stringBody, escape, Cursor.bump]; rfl⟩
  · subst hb; exact ⟨_, by simp [stringBody, escape, Cursor.bump]; rfl⟩
  · subst hn; exact ⟨_, by simp [stringBody, escape, Cursor.bump]; rfl⟩
  · subst hr; exact ⟨_, by simp [stringBody, escape, Cursor.bump]; rfl⟩
  · subst ht; exact ⟨_, by simp [stringBody, escape, Cursor.bump]; rfl⟩
  · subst hbs; exact ⟨_, by simp [stringBody, escape, Cursor.bump]; rfl⟩
  · subst hff; exact ⟨_, by simp [stringBody, escape, Cursor.bump]; rfl⟩
  · exact stringBody_hexEscape c hctl tail fuel off acc
  · -- any other character stands for itself
    exact ⟨_, by simp [stringBody, hq, hb, hctl]; rfl⟩

/-- **The body of a string literal is read back**, up to its closing quote. -/
theorem stringBody_escapedChars (cs tail : List Char) (fuel off : Nat) (acc : List Char)
    (hfuel : cs.length < fuel) :
    ∃ off', stringBody fuel ⟨escapedChars cs ++ '"' :: tail, off⟩ acc =
      .ok (String.ofList (acc.reverse ++ cs), ⟨tail, off'⟩) := by
  induction cs generalizing fuel off acc with
  | nil =>
    obtain ⟨f, rfl⟩ : ∃ f, fuel = f + 1 := ⟨fuel - 1, by simp at hfuel; omega⟩
    exact ⟨_, by simp [escapedChars, stringBody, Cursor.bump]; rfl⟩
  | cons c cs ih =>
    obtain ⟨f, rfl⟩ : ∃ f, fuel = f + 1 := ⟨fuel - 1, by simp at hfuel; omega⟩
    obtain ⟨off₁, h₁⟩ := stringBody_escapeChar c (escapedChars cs ++ '"' :: tail) f off acc
    obtain ⟨off₂, h₂⟩ := ih f off₁ (c :: acc) (by simp at hfuel; omega)
    refine ⟨off₂, ?_⟩
    rw [escapedChars, List.flatMap_cons, List.append_assoc, ← escapedChars, h₁, h₂]
    simp

end Reader

/-- Every character is written as at least one. -/
theorem length_le_escapedChars (cs : List Char) : cs.length ≤ (escapedChars cs).length := by
  induction cs with
  | nil => simp [escapedChars]
  | cons c cs ih =>
    have hc : (escapeChar c).toList ≠ [] := by
      unfold escapeChar
      split_ifs <;> simp [hexByte]
    have hpos : 0 < (escapeChar c).toList.length := List.length_pos_iff.mpr hc
    simp only [escapedChars, List.flatMap_cons, List.length_append, List.length_cons] at ih ⊢
    omega

/-- **A string literal is read back as its text.** -/
theorem string_quote (s : String) (tail : List Char) (off : Nat) :
    ∃ off', Reader.string ⟨escapedChars s.toList ++ '"' :: tail, off⟩ = .ok (s, ⟨tail, off'⟩) := by
  have hlen : s.toList.length < (escapedChars s.toList ++ '"' :: tail).length + 1 := by
    have := length_le_escapedChars s.toList
    simp only [List.length_append, List.length_cons]
    omega
  obtain ⟨off', h⟩ := Reader.stringBody_escapedChars s.toList tail _ off [] hlen
  exact ⟨off', by simpa [Reader.string] using h⟩

/-! ## Reading integers -/

namespace Reader

/-- A digit overflows the significand only when the word cannot hold it. -/
theorem overflows_eq_false {sig d : Nat} (h : sig * 10 + d < 2 ^ 64) :
    overflows sig d = false := by
  simp [overflows, wordTenth]
  omega

/-- **The digits of an integer are read into the significand**, while it
fits in a word. -/
theorem integerDigits_toDigits (positive : Bool) (m : Nat) :
    ∀ (sig : Nat) (rest : List Char) (off : Nat),
      sig * 10 ^ (Nat.toDigits 10 m).length + m < 2 ^ 64 →
      ∃ off', integerDigits positive (Nat.toDigits 10 m ++ rest) off sig =
        integerDigits positive rest off' (sig * 10 ^ (Nat.toDigits 10 m).length + m) := by
  -- on the integer: its leading digits first, then its last one
  induction m using Nat.strong_induction_on with
  | _ m ih =>
  intro sig rest off hfit
  by_cases hsmall : m < 10
  · rw [Nat.toDigits_of_lt_base hsmall] at hfit ⊢
    refine ⟨off + 1, ?_⟩
    rw [List.length_singleton, Nat.pow_one] at hfit ⊢
    rw [List.singleton_append, integerDigits, digitValue?_digitChar m hsmall]
    simp only [overflows_eq_false hfit, Bool.false_eq_true, if_false]
  · have hdm := Nat.div_add_mod m 10
    have hdigits := Nat.toDigits_of_base_le (b := 10) (n := m) (by decide) (by omega)
    obtain ⟨off₁, h₁⟩ := ih (m / 10) (by omega) sig (Nat.digitChar (m % 10) :: rest) off (by
      rw [hdigits, List.length_append, List.length_singleton, Nat.pow_succ, ← Nat.mul_assoc]
        at hfit
      omega)
    rw [hdigits, List.length_append, List.length_singleton, Nat.pow_succ, ← Nat.mul_assoc]
      at hfit ⊢
    generalize (Nat.toDigits 10 (m / 10)).length = L at hfit h₁ ⊢
    generalize sig * 10 ^ L = P at hfit h₁ ⊢
    refine ⟨off₁ + 1, ?_⟩
    rw [List.append_assoc, List.singleton_append, h₁, integerDigits,
      digitValue?_digitChar _ (Nat.mod_lt _ (by decide))]
    simp only [overflows_eq_false (show (P + m / 10) * 10 + m % 10 < 2 ^ 64 by omega),
      Bool.false_eq_true, if_false]
    congr 1
    omega

theorem integerDigits_stop {positive : Bool} {rest : List Char} (hrest : endsNumber rest = true)
    (off sig : Nat) :
    integerDigits positive rest off sig = afterInteger ⟨rest, off⟩ positive sig := by
  rcases endsNumber_cases hrest with rfl | ⟨ch, tail, rfl, hch⟩
  · rfl
  · simp [integerDigits, (not_numberChar hch).1]

theorem afterInteger_stop {positive : Bool} {rest : List Char} (hrest : endsNumber rest = true)
    (off sig : Nat) :
    afterInteger ⟨rest, off⟩ positive sig = .ok (integer positive sig, ⟨rest, off⟩) := by
  rcases endsNumber_cases hrest with rfl | ⟨ch, tail, rfl, hch⟩
  · rfl
  · obtain ⟨-, hpoint, he, hE, -⟩ := not_numberChar hch
    simp [afterInteger, Cursor.peek, hpoint, he, hE]

/-- **An integer that fits a word is read from its digits**, up to the text
that ends it. -/
theorem number_toDigits (positive : Bool) {n : Nat} (hn : n < 2 ^ 64) {rest : List Char}
    (hrest : endsNumber rest = true) (off : Nat) :
    ∃ off', number ⟨Nat.toDigits 10 n ++ rest, off⟩ positive =
      .ok (integer positive n, ⟨rest, off'⟩) := by
  obtain ⟨d, tail, hd, hdigits, hpos⟩ := toDigits_head n
  by_cases hzero : n = 0
  · -- a lone zero, which no digit may follow
    subst hzero
    refine ⟨off + '0'.utf8Size, ?_⟩
    rcases endsNumber_cases hrest with rfl | ⟨ch, tail, rfl, hch⟩
    · simp [number, Nat.toDigits_zero, Cursor.bump, afterInteger_stop hrest]
    · simp [number, Nat.toDigits_zero, Cursor.bump, (not_numberChar hch).1, afterInteger_stop hrest]
  · -- a leading digit other than zero, then the digits after it
    have hd0 : Nat.digitChar d ≠ '0' := by
      rw [Ne, Nat.digitChar_eq_zero]
      have := hpos (by omega)
      omega
    have hsize := Char.utf8Size_pos (Nat.digitChar d)
    obtain ⟨off₁, h₁⟩ := integerDigits_toDigits positive n 0 rest
      (off + (Nat.digitChar d).utf8Size - 1) (by simpa using hn)
    rw [Nat.zero_mul, Nat.zero_add, integerDigits_stop hrest, afterInteger_stop hrest, hdigits,
      List.cons_append, integerDigits, digitValue?_digitChar d hd] at h₁
    simp only [overflows_eq_false (show 0 * 10 + d < 2 ^ 64 by omega), Bool.false_eq_true,
      if_false, Nat.zero_mul, Nat.zero_add] at h₁
    rw [Nat.sub_add_cancel (by omega)] at h₁
    refine ⟨off₁, ?_⟩
    rw [hdigits, List.cons_append]
    simp [number, hd0, digitValue?_digitChar d hd, Cursor.bump, h₁]


/-- A non-negative integer below `2 ^ 64` is read as itself. -/
theorem value_nat {n : Nat} (hn : n < 2 ^ 64) {rest : List Char} (hrest : endsNumber rest = true)
    (fuel room off : Nat) :
    ∃ off', value (fuel + 1) room ⟨Nat.toDigits 10 n ++ rest, off⟩ =
      .ok (.number (.nat n), ⟨rest, off'⟩) := by
  obtain ⟨d, tail, hd, hdigits, -⟩ := toDigits_head n
  obtain ⟨off', h⟩ := number_toDigits true hn hrest off
  refine ⟨off', ?_⟩
  rw [hdigits, List.cons_append] at h ⊢
  rw [value_digit (by simp [digitValue?_digitChar d hd]), h]
  simp [Except.map, integer]

/-- A negative integer down to `-2 ^ 63` is read as itself. -/
theorem value_negative {n : Int} (hneg : n < 0) (hlow : n.natAbs ≤ 2 ^ 63) {rest : List Char}
    (hrest : endsNumber rest = true) (fuel room off : Nat) :
    ∃ off', value (fuel + 1) room ⟨'-' :: (Nat.toDigits 10 n.natAbs ++ rest), off⟩ =
      .ok (.number (.negative n), ⟨rest, off'⟩) := by
  obtain ⟨off', h⟩ := number_toDigits false (n := n.natAbs) (by omega) hrest (off + 1)
  have hint : integer false n.natAbs = .negative n := by
    have hpos : n.natAbs ≠ 0 := by omega
    have hle : n.natAbs ≤ Nat.pow 2 63 := by
      rw [Nat.pow_eq]
      omega
    simp only [integer, Bool.false_eq_true, if_false, hpos, hle, if_true]
    congr 1
    omega
  refine ⟨off', ?_⟩
  rw [value_minus, h]
  simp [Except.map, hint]

end Reader

/-! ## One step of reading a container -/

namespace Reader

variable (fuel room : Nat) (X rest : List Char)

/-- A closing bracket ends the items. -/
theorem items_close (first : Bool) (acc : List Value) (off : Nat) :
    items (fuel + 1) room ⟨']' :: rest, off⟩ first acc = .ok (acc.reverse, ⟨']' :: rest, off⟩) := by
  simp [items, Cursor.skipSpace, skipSpace, isSpace]

/-- The first item is read as a value, whatever it is read as. -/
theorem items_first_step (v : Value) (off : Nat) :
    items (fuel + 1) room ⟨v.render.toList ++ X, off⟩ true [] =
      (value fuel room ⟨v.render.toList ++ X, off⟩).bind
        fun p => items fuel room p.2 false [p.1] := by
  obtain ⟨ch, tail, hct, hsp, hbr, -⟩ := v.render_starts
  rw [hct, List.cons_append]
  rcases h : value fuel room ⟨ch :: (tail ++ X), off⟩ with e | ⟨w, c⟩ <;>
    simp [items, Cursor.skipSpace, skipSpace_of_not_space hsp, hbr, h, Except.bind]

/-- A further item is read as a value behind its comma. -/
theorem items_comma_step (v : Value) (acc : List Value) (off : Nat) :
    items (fuel + 1) room ⟨',' :: (v.render.toList ++ X), off⟩ false acc =
      (value fuel room ⟨v.render.toList ++ X, off + ','.utf8Size⟩).bind
        fun p => items fuel room p.2 false (p.1 :: acc) := by
  obtain ⟨ch, tail, hct, hsp, hbr, -⟩ := v.render_starts
  rw [hct, List.cons_append]
  rcases h : value fuel room ⟨ch :: (tail ++ X), off + ','.utf8Size⟩ with e | ⟨w, c⟩ <;>
    simp [items, Cursor.skipSpace, Cursor.bump, skipSpace, isSpace, skipSpace_of_not_space hsp,
      hbr, h, Except.bind]

/-- Items stuck inside a number are refused: no comma or bracket follows. -/
theorem items_stuck {ch : Char} (hch : numberChar ch = true) (tail : List Char)
    (acc : List Value) (off : Nat) : ∃ e, items fuel room ⟨ch :: tail, off⟩ false acc = .error e := by
  obtain ⟨hsp, hbr, hcomma, -⟩ := numberChar_ne hch
  cases fuel with
  | zero => exact ⟨_, rfl⟩
  | succ f =>
    simp [items, Cursor.skipSpace, skipSpace_of_not_space hsp, hbr, hcomma, stopNext]

/-- A closing brace ends the members. -/
theorem members_close (first : Bool) (acc : Object) (off : Nat) :
    members (fuel + 1) room ⟨'\x7d' :: rest, off⟩ first acc = .ok (acc, ⟨'\x7d' :: rest, off⟩) := by
  simp [members, Cursor.skipSpace, skipSpace, isSpace]

/-- The first member is a key's literal, a colon and a value, whatever the
value is read as. -/
theorem members_first_step (k : String) (off : Nat) :
    ∃ o, members (fuel + 1) room ⟨(quote k).toList ++ ':' :: X, off⟩ true [] =
      (value fuel room ⟨X, o⟩).bind fun p => members fuel room p.2 false (Object.insert [] k p.1) := by
  obtain ⟨off₁, hstr⟩ := string_quote k (':' :: X) (off + '"'.utf8Size)
  refine ⟨off₁ + ':'.utf8Size, ?_⟩
  rcases h : value fuel room ⟨X, off₁ + ':'.utf8Size⟩ with e | ⟨v, c⟩ <;>
    simp [members, quote_toList, Cursor.skipSpace, skipSpace, isSpace, Cursor.bump, hstr, h,
      Except.bind]

/-- A further member is read behind its comma. -/
theorem members_comma_step (k : String) (acc : Object) (off : Nat) :
    ∃ o, members (fuel + 1) room ⟨',' :: ((quote k).toList ++ ':' :: X), off⟩ false acc =
      (value fuel room ⟨X, o⟩).bind fun p => members fuel room p.2 false (acc.insert k p.1) := by
  obtain ⟨off₁, hstr⟩ := string_quote k (':' :: X) (off + ','.utf8Size + '"'.utf8Size)
  refine ⟨off₁ + ':'.utf8Size, ?_⟩
  rcases h : value fuel room ⟨X, off₁ + ':'.utf8Size⟩ with e | ⟨v, c⟩ <;>
    simp [members, quote_toList, Cursor.skipSpace, skipSpace, isSpace, Cursor.bump, hstr, h,
      Except.bind]

/-- Members stuck inside a number are refused: no comma or brace follows. -/
theorem members_stuck {ch : Char} (hch : numberChar ch = true) (tail : List Char)
    (acc : Object) (off : Nat) :
    ∃ e, members fuel room ⟨ch :: tail, off⟩ false acc = .error e := by
  obtain ⟨hsp, -, hcomma, hbrace⟩ := numberChar_ne hch
  cases fuel with
  | zero => exact ⟨_, rfl⟩
  | succ f => simp [members, Cursor.skipSpace, skipSpace_of_not_space hsp, hbrace, hcomma]

/-- An array is its items between brackets, when there is room for them. -/
theorem value_array {vs : List Value} {off off₁ : Nat} (hroom : 1 < room)
    (h : items fuel (room - 1) ⟨X, off + '['.utf8Size⟩ true [] = .ok (vs, ⟨']' :: rest, off₁⟩)) :
    value (fuel + 1) room ⟨'[' :: X, off⟩ = .ok (.array vs, ⟨rest, off₁ + ']'.utf8Size⟩) := by
  simp [value, Cursor.skipSpace, skipSpace, isSpace, digitValue?, Cursor.bump, h,
    Nat.not_le.mpr hroom]

/-- An object is its members between braces, when there is room for them. -/
theorem value_object {ms : Object} {off off₁ : Nat} (hroom : 1 < room)
    (h : members fuel (room - 1) ⟨X, off + '\x7b'.utf8Size⟩ true [] =
      .ok (ms, ⟨'\x7d' :: rest, off₁⟩)) :
    value (fuel + 1) room ⟨'\x7b' :: X, off⟩ =
      .ok (.object ms, ⟨rest, off₁ + '\x7d'.utf8Size⟩) := by
  simp [value, Cursor.skipSpace, skipSpace, isSpace, digitValue?, Cursor.bump, h,
    Nat.not_le.mpr hroom]

/-- An array whose items fail is refused. -/
theorem value_array_error {off : Nat} {e : Stop} (hroom : 1 < room)
    (h : items fuel (room - 1) ⟨X, off + '['.utf8Size⟩ true [] = .error e) :
    value (fuel + 1) room ⟨'[' :: X, off⟩ = .error e := by
  simp [value, Cursor.skipSpace, skipSpace, isSpace, digitValue?, Cursor.bump, h,
    Nat.not_le.mpr hroom]

/-- An object whose members fail is refused. -/
theorem value_object_error {off : Nat} {e : Stop} (hroom : 1 < room)
    (h : members fuel (room - 1) ⟨X, off + '\x7b'.utf8Size⟩ true [] = .error e) :
    value (fuel + 1) room ⟨'\x7b' :: X, off⟩ = .error e := by
  simp [value, Cursor.skipSpace, skipSpace, isSpace, digitValue?, Cursor.bump, h,
    Nat.not_le.mpr hroom]

/-- An array is refused where no room is left for it. -/
theorem value_array_full (hroom : room ≤ 1) (off : Nat) :
    ∃ e, value (fuel + 1) room ⟨'[' :: X, off⟩ = .error e := by
  simp [value, Cursor.skipSpace, skipSpace, isSpace, digitValue?, hroom, stopNext]

/-- An object is refused where no room is left for it. -/
theorem value_object_full (hroom : room ≤ 1) (off : Nat) :
    ∃ e, value (fuel + 1) room ⟨'\x7b' :: X, off⟩ = .error e := by
  simp [value, Cursor.skipSpace, skipSpace, isSpace, digitValue?, hroom, stopNext]

end Reader

/-! ## Values with nothing inside -/

namespace Reader

section Plain

variable {fuel : Nat} (room : Nat) (rest : List Char) (off : Nat)

/-- `null` is read as itself. -/
theorem value_null (hfuel : Value.null.render.toList.length ≤ fuel) :
    ∃ off', value fuel room ⟨Value.null.render.toList ++ rest, off⟩ = .ok (.null, ⟨rest, off'⟩) := by
  obtain ⟨f, rfl⟩ : ∃ f, fuel = f + 1 := ⟨fuel - 1, by simp [Value.render] at hfuel; omega⟩
  exact ⟨_, by simp [Value.render, value, Cursor.skipSpace, skipSpace, isSpace, word,
    Cursor.bump]; rfl⟩

/-- `true` and `false` are read as themselves. -/
theorem value_bool (b : Bool) (hfuel : (Value.bool b).render.toList.length ≤ fuel) :
    ∃ off', value fuel room ⟨(Value.bool b).render.toList ++ rest, off⟩ =
      .ok (.bool b, ⟨rest, off'⟩) := by
  obtain ⟨f, rfl⟩ : ∃ f, fuel = f + 1 :=
    ⟨fuel - 1, by cases b <;> simp [Value.render] at hfuel <;> omega⟩
  cases b
  · exact ⟨_, by simp [Value.render, value, Cursor.skipSpace, skipSpace, isSpace, word,
      Cursor.bump]; rfl⟩
  · exact ⟨_, by simp [Value.render, value, Cursor.skipSpace, skipSpace, isSpace, word,
      Cursor.bump]; rfl⟩

/-- A string is read as itself. -/
theorem value_string (s : String) (hfuel : (Value.string s).render.toList.length ≤ fuel) :
    ∃ off', value fuel room ⟨(Value.string s).render.toList ++ rest, off⟩ =
      .ok (.string s, ⟨rest, off'⟩) := by
  obtain ⟨f, rfl⟩ : ∃ f, fuel = f + 1 :=
    ⟨fuel - 1, by have := length_quote s; simp only [Value.render] at hfuel; omega⟩
  obtain ⟨off', h⟩ := string_quote s rest (off + '"'.utf8Size)
  exact ⟨off', by simp [Value.render, quote_toList, value, Cursor.skipSpace, skipSpace, isSpace,
    digitValue?, Cursor.bump, h]⟩

/-- The empty array is read as itself, where there is room for an array. -/
theorem value_emptyArray (hroom : 1 < room)
    (hfuel : (Value.array []).render.toList.length ≤ fuel) :
    ∃ off', value fuel room ⟨(Value.array []).render.toList ++ rest, off⟩ =
      .ok (.array [], ⟨rest, off'⟩) := by
  obtain ⟨f, rfl⟩ : ∃ f, fuel = f + 2 :=
    ⟨fuel - 2, by simp [Value.render, Value.renderItems] at hfuel; omega⟩
  exact ⟨_, by
    simpa [Value.render, Value.renderItems] using
      value_array _ _ _ _ hroom (items_close f (room - 1) rest true [] _)⟩

/-- The empty object is read as itself, where there is room for an object. -/
theorem value_emptyObject (hroom : 1 < room)
    (hfuel : (Value.object []).render.toList.length ≤ fuel) :
    ∃ off', value fuel room ⟨(Value.object []).render.toList ++ rest, off⟩ =
      .ok (.object [], ⟨rest, off'⟩) := by
  obtain ⟨f, rfl⟩ : ∃ f, fuel = f + 2 :=
    ⟨fuel - 2, by simp [Value.render, Value.renderMembers] at hfuel; omega⟩
  exact ⟨_, by
    simpa [Value.render, Value.renderMembers] using
      value_object _ _ _ _ hroom (members_close f (room - 1) rest true [] _)⟩

end Plain

end Reader

end ContentPublish.Json
