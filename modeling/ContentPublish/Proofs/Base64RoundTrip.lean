import ContentPublish.Codec
import ContentPublish.Proofs.UrlLaw

/-
  Base64 reads back what it wrote

  Every byte string written as padded base64 is read back unchanged, and a
  binary payload so written is recovered by the payload reader, blanks
  trimmed and all.

  The proof follows the groups. The writer takes three bytes at a time into
  a 24-bit value and writes its four six-bit values as symbols; the last
  group of one or two bytes is written with its low six-bit values zero and
  padded with `=`. The reader takes the whole groups before the last with
  the body decoder and the last with the tail decoder, whose check on the
  unused bits is passed because the writer left them zero. The bit
  operations of both are turned into sums, quotients and remainders so that
  `omega` settles the arithmetic of a group.

  What is stated here:
    1. `symbolValue?_symbolByte` — each symbol is read as its value.
    2. `bytesOfQuad_groupValue` — the six-bit values of a group give its
       bytes back.
    3. `decodeTail_last` and `decodeBody_encodeList` — the last group and the
       whole groups before it are read back.
    4. `decode_encode` — reading base64 inverts writing it.
    5. `decodeBinary_encode` — a payload written as base64 is read back.
-/

namespace ContentPublish.Base64

/-! ## Symbols -/

/-- The byte of the symbol for a six-bit value. -/
def symbolByte (v : Nat) : UInt8 := UInt8.ofNat (symbol v).toNat

theorem symbol_lt (v : Nat) (hv : v < 64) : (symbol v).toNat < 0x80 := by
  revert v; decide

theorem symbolValue?_symbolByte (v : Nat) (hv : v < 64) : symbolValue? (symbolByte v) = some v := by
  revert v; decide

theorem symbolByte_ne_padByte (v : Nat) (hv : v < 64) : symbolByte v ≠ padByte := by
  revert v; decide

theorem isBlank_symbol (v : Nat) (hv : v < 64) : Text.isBlank (symbol v) = false := by
  revert v; decide

theorem utf8EncodeChar_symbol {v : Nat} (hv : v < 64) :
    String.utf8EncodeChar (symbol v) = [symbolByte v] :=
  Url.utf8EncodeChar_of_lt (symbol_lt v hv)

theorem utf8EncodeChar_pad : String.utf8EncodeChar '=' = [padByte] := by decide

/-- Symbols are ASCII: their UTF-8 bytes are their symbol bytes. -/
theorem flatMap_symbols {vs : List Nat} (h : ∀ v ∈ vs, v < 64) :
    (vs.map symbol).flatMap String.utf8EncodeChar = vs.map symbolByte := by
  induction vs with
  | nil => rfl
  | cons v vs ih =>
    rw [List.map_cons, List.flatMap_cons, utf8EncodeChar_symbol (h v List.mem_cons_self),
      ih (fun w hw => h w (List.mem_cons_of_mem _ hw)), List.map_cons, List.singleton_append]

theorem isBlank_of_mem_symbols {vs : List Nat} (h : ∀ v ∈ vs, v < 64) {c : Char}
    (hc : c ∈ vs.map symbol) : Text.isBlank c = false := by
  obtain ⟨v, hv, rfl⟩ := List.mem_map.mp hc
  exact isBlank_symbol v (h v hv)

/-! ## The bits of a group -/

/-- Joining a multiple of `2 ^ k` with a value below `2 ^ k` adds them. -/
theorem or_eq_add {x y : Nat} (k : Nat) (hx : 2 ^ k ∣ x) (hy : y < 2 ^ k) : x ||| y = x + y := by
  obtain ⟨q, rfl⟩ := hx
  have hq : 2 ^ k * q = q <<< k := by rw [Nat.shiftLeft_eq, Nat.mul_comm]
  rw [hq, Nat.shiftLeft_add_eq_or_of_lt hy]

theorem and_63 (n : Nat) : n &&& 63 = n % 64 := Nat.and_two_pow_sub_one_eq_mod n 6

theorem and_255 (n : Nat) : n &&& 255 = n % 256 := Nat.and_two_pow_sub_one_eq_mod n 8

theorem and_65535 (n : Nat) : n &&& 65535 = n % 65536 := Nat.and_two_pow_sub_one_eq_mod n 16

/-- The 24 bits of a group of three bytes, the first byte highest. -/
def groupValue (a b c : UInt8) : Nat := a.toNat * 65536 + b.toNat * 256 + c.toNat

theorem groupValue_lt (a b c : UInt8) : groupValue a b c < 2 ^ 24 := by
  have ha := a.toNat_lt; have hb := b.toNat_lt; have hc := c.toNat_lt
  unfold groupValue; omega

/-- The writer's shifts and joins compute the group's value. -/
theorem groupValue_eq (a b c : UInt8) :
    a.toNat <<< 16 ||| b.toNat <<< 8 ||| c.toNat = groupValue a b c := by
  have hb := b.toNat_lt; have hc := c.toNat_lt
  rw [Nat.shiftLeft_eq, Nat.shiftLeft_eq,
    @or_eq_add (a.toNat * 2 ^ 16) (b.toNat * 2 ^ 8) 16 (by omega) (by omega),
    or_eq_add 8 (by omega) (by omega)]
  rfl

/-- The four six-bit values of a 24-bit group, most significant first. -/
def sextets (n : Nat) : List Nat := [n / 262144, n / 4096 % 64, n / 64 % 64, n % 64]

theorem sextets_lt {n : Nat} (hn : n < 2 ^ 24) : ∀ v ∈ sextets n, v < 64 := by
  simp only [sextets, List.mem_cons, List.not_mem_nil, or_false]
  rintro v (rfl | rfl | rfl | rfl) <;> omega

/-- The reader's shifts and joins of the six-bit values give the group back. -/
theorem join_sextets (n : Nat) :
    (n / 262144) <<< 18 ||| (n / 4096 % 64) <<< 12 ||| (n / 64 % 64) <<< 6 ||| n % 64 = n := by
  have h₁ : n / 4096 / 64 = n / 262144 := Nat.div_div_eq_div_mul n 4096 64
  have h₂ : n / 64 / 64 = n / 4096 := Nat.div_div_eq_div_mul n 64 64
  rw [Nat.shiftLeft_eq, Nat.shiftLeft_eq, Nat.shiftLeft_eq,
    @or_eq_add (n / 262144 * 2 ^ 18) (n / 4096 % 64 * 2 ^ 12) 18 (by omega) (by omega),
    @or_eq_add (n / 262144 * 2 ^ 18 + n / 4096 % 64 * 2 ^ 12) (n / 64 % 64 * 2 ^ 6) 12
      (by omega) (by omega),
    or_eq_add 6 (by omega) (by omega)]
  omega

/-- **The six-bit values of a group give its bytes back.** The last two
values are left open, so that a padded group, whose low values are zero,
can be read with the same lemma. -/
theorem bytesOfQuad_groupValue (a b c : UInt8) {v₂ v₃ : Nat}
    (h₂ : groupValue a b c / 64 % 64 = v₂) (h₃ : groupValue a b c % 64 = v₃) :
    bytesOfQuad (groupValue a b c / 262144) (groupValue a b c / 4096 % 64) v₂ v₃ = [a, b, c] := by
  subst h₂ h₃
  have ha := a.toNat_lt; have hb := b.toNat_lt; have hc := c.toNat_lt
  have hjoin := join_sextets (groupValue a b c)
  have h₀ : groupValue a b c / 65536 = a.toNat := by unfold groupValue; omega
  have h₁ : groupValue a b c / 256 % 256 = b.toNat := by unfold groupValue; omega
  have h₂ : groupValue a b c % 256 = c.toNat := by unfold groupValue; omega
  rw [bytesOfQuad, hjoin, and_255, and_255]
  simp only [Nat.shiftRight_eq_div_pow, Nat.reducePow, h₀, h₁, h₂, UInt8.ofNat_toNat]

/-! ## Groups -/

theorem encodeGroup_three (a b c : UInt8) :
    encodeGroup [a, b, c] = (sextets (groupValue a b c)).map symbol := by
  rw [encodeGroup, groupValue_eq, and_63, and_63, and_63]
  simp only [sextets, List.map_cons, List.map_nil, Nat.shiftRight_eq_div_pow, Nat.reducePow]

/-- Two bytes are written as the first three values of the group they start,
then one `=`. -/
theorem encodeGroup_two (a b : UInt8) :
    encodeGroup [a, b] = ((sextets (groupValue a b 0)).take 3).map symbol ++ ['='] := by
  have h := groupValue_eq a b 0
  rw [UInt8.toNat_zero, Nat.or_zero] at h
  rw [encodeGroup, h, and_63, and_63]
  simp only [sextets, List.take_succ_cons, List.take_zero, List.map_cons, List.map_nil,
    List.cons_append, List.nil_append, Nat.shiftRight_eq_div_pow, Nat.reducePow]

/-- One byte is written as the first two values of the group it starts, then
two `=`. -/
theorem encodeGroup_one (a : UInt8) :
    encodeGroup [a] = ((sextets (groupValue a 0 0)).take 2).map symbol ++ ['=', '='] := by
  have h := groupValue_eq a 0 0
  rw [UInt8.toNat_zero, Nat.zero_shiftLeft, Nat.or_zero, Nat.or_zero] at h
  rw [encodeGroup, h, and_63]
  simp only [sextets, List.take_succ_cons, List.take_zero, List.map_cons, List.map_nil,
    List.cons_append, List.nil_append, Nat.shiftRight_eq_div_pow, Nat.reducePow]

/-- Four symbols are read as the three bytes their values make. The tail
decoder is run here on values left open, where it is cheap to check. -/
theorem decodeTail_four_symbols {v₀ v₁ v₂ v₃ : Nat} (h₀ : v₀ < 64) (h₁ : v₁ < 64) (h₂ : v₂ < 64)
    (h₃ : v₃ < 64) (start : Nat) :
    decodeTail start [symbolByte v₀, symbolByte v₁, symbolByte v₂, symbolByte v₃] true =
      .ok (bytesOfQuad v₀ v₁ v₂ v₃) := by
  simp (disch := first | omega | simp) [decodeTail, scanTail, List.zipIdx,
    symbolValue?_symbolByte, symbolByte_ne_padByte, bytesOfQuad]

/-- Three symbols and a pad are read as the first two bytes their values
make, when they leave the bits of the third byte zero. -/
theorem decodeTail_three_symbols {v₀ v₁ v₂ : Nat} (h₀ : v₀ < 64) (h₁ : v₁ < 64) (h₂ : v₂ < 64)
    (hlow : (v₀ <<< 18 ||| v₁ <<< 12 ||| v₂ <<< 6) % 256 = 0) (start : Nat) :
    decodeTail start [symbolByte v₀, symbolByte v₁, symbolByte v₂, padByte] true =
      .ok ((bytesOfQuad v₀ v₁ v₂ 0).take 2) := by
  simp (disch := first | omega | simp) [decodeTail, scanTail, List.zipIdx,
    symbolValue?_symbolByte, symbolByte_ne_padByte, and_255, hlow]

/-- Two symbols and two pads are read as the first byte their values make,
when they leave the bits of the other two zero. -/
theorem decodeTail_two_symbols {v₀ v₁ : Nat} (h₀ : v₀ < 64) (h₁ : v₁ < 64)
    (hlow : (v₀ <<< 18 ||| v₁ <<< 12) % 65536 = 0) (start : Nat) :
    decodeTail start [symbolByte v₀, symbolByte v₁, padByte, padByte] true =
      .ok ((bytesOfQuad v₀ v₁ 0 0).take 1) := by
  simp (disch := first | omega | simp) [decodeTail, scanTail, List.zipIdx,
    symbolValue?_symbolByte, symbolByte_ne_padByte, and_65535, hlow]

theorem decodeTail_three (a b c : UInt8) (start : Nat) :
    decodeTail start ((encodeGroup [a, b, c]).flatMap String.utf8EncodeChar) true = .ok [a, b, c] := by
  have hn := groupValue_lt a b c
  rw [encodeGroup_three, flatMap_symbols (sextets_lt hn)]
  simp only [sextets, List.map_cons, List.map_nil]
  rw [decodeTail_four_symbols (by omega) (by omega) (by omega) (by omega),
    bytesOfQuad_groupValue a b c rfl rfl]

theorem decodeTail_two (a b : UInt8) (start : Nat) :
    decodeTail start ((encodeGroup [a, b]).flatMap String.utf8EncodeChar) true = .ok [a, b] := by
  have hn := groupValue_lt a b 0
  -- the writer left the last six bits zero, so the unused bits check passes
  have hlow : groupValue a b 0 % 64 = 0 := by simp only [groupValue, UInt8.toNat_zero]; omega
  have hbyte : groupValue a b 0 % 256 = 0 := by simp only [groupValue, UInt8.toNat_zero]; omega
  have hjoin := join_sextets (groupValue a b 0)
  rw [hlow, Nat.or_zero] at hjoin
  rw [encodeGroup_two, List.flatMap_append,
    flatMap_symbols (fun v hv => sextets_lt hn v (List.mem_of_mem_take hv))]
  simp only [sextets, List.take_succ_cons, List.take_zero, List.map_cons, List.map_nil,
    List.flatMap_cons, List.flatMap_nil, utf8EncodeChar_pad, List.cons_append, List.nil_append,
    List.append_nil]
  rw [decodeTail_three_symbols (by omega) (by omega) (by omega) (by rw [hjoin]; exact hbyte),
    bytesOfQuad_groupValue a b 0 rfl hlow]
  rfl

theorem decodeTail_one (a : UInt8) (start : Nat) :
    decodeTail start ((encodeGroup [a]).flatMap String.utf8EncodeChar) true = .ok [a] := by
  have hn := groupValue_lt a 0 0
  -- here the last twelve bits are zero
  have hlow : groupValue a 0 0 % 64 = 0 := by simp only [groupValue, UInt8.toNat_zero]; omega
  have hmid : groupValue a 0 0 / 64 % 64 = 0 := by simp only [groupValue, UInt8.toNat_zero]; omega
  have hbytes : groupValue a 0 0 % 65536 = 0 := by simp only [groupValue, UInt8.toNat_zero]; omega
  have hjoin := join_sextets (groupValue a 0 0)
  rw [hlow, hmid, Nat.zero_shiftLeft, Nat.or_zero, Nat.or_zero] at hjoin
  rw [encodeGroup_one, List.flatMap_append,
    flatMap_symbols (fun v hv => sextets_lt hn v (List.mem_of_mem_take hv))]
  simp only [sextets, List.take_succ_cons, List.take_zero, List.map_cons, List.map_nil,
    List.flatMap_cons, List.flatMap_nil, utf8EncodeChar_pad, List.cons_append, List.nil_append,
    List.append_nil]
  rw [decodeTail_two_symbols (by omega) (by omega) (by rw [hjoin]; exact hbytes),
    bytesOfQuad_groupValue a 0 0 hmid hlow]
  rfl

/-- **The last group is read back**, whichever of one to three bytes it holds. -/
theorem decodeTail_last (last : List UInt8) (h₁ : last ≠ []) (h₃ : last.length ≤ 3) (start : Nat) :
    decodeTail start ((encodeGroup last).flatMap String.utf8EncodeChar) true = .ok last := by
  rcases last with _ | ⟨a, _ | ⟨b, _ | ⟨c, _ | ⟨d, rest⟩⟩⟩⟩
  · exact absurd rfl h₁
  · exact decodeTail_one a start
  · exact decodeTail_two a b start
  · exact decodeTail_three a b c start
  · simp only [List.length_cons] at h₃; omega

/-- Every group of one to three bytes is written as four symbol bytes. -/
theorem length_groupBytes (g : List UInt8) (h₁ : g ≠ []) (h₃ : g.length ≤ 3) :
    ((encodeGroup g).flatMap String.utf8EncodeChar).length = 4 := by
  rcases g with _ | ⟨a, _ | ⟨b, _ | ⟨c, _ | ⟨d, rest⟩⟩⟩⟩
  · exact absurd rfl h₁
  · rw [encodeGroup_one, List.flatMap_append,
      flatMap_symbols (fun v hv => sextets_lt (groupValue_lt a 0 0) v (List.mem_of_mem_take hv))]
    simp [sextets, utf8EncodeChar_pad]
  · rw [encodeGroup_two, List.flatMap_append,
      flatMap_symbols (fun v hv => sextets_lt (groupValue_lt a b 0) v (List.mem_of_mem_take hv))]
    simp [sextets, utf8EncodeChar_pad]
  · rw [encodeGroup_three, flatMap_symbols (sextets_lt (groupValue_lt a b c))]
    simp [sextets]
  · simp only [List.length_cons] at h₃; omega

/-! ## Whole byte strings -/

/-- A byte string splits into whole groups and a last group of one to three
bytes, written one after the other. -/
theorem encodeList_split : ∀ bs : List UInt8, bs ≠ [] → ∃ full last, bs = full ++ last ∧
    full.length % 3 = 0 ∧ last ≠ [] ∧ last.length ≤ 3 ∧
    encodeList bs = encodeList full ++ encodeGroup last
  | [a], _ => ⟨[], [a], rfl, rfl, List.cons_ne_nil _ _, by simp, rfl⟩
  | [a, b], _ => ⟨[], [a, b], rfl, rfl, List.cons_ne_nil _ _, by simp, rfl⟩
  | [a, b, c], _ =>
    ⟨[], [a, b, c], rfl, rfl, List.cons_ne_nil _ _, by simp, by simp [encodeList, encodeGroup]⟩
  | a :: b :: c :: d :: rest, _ => by
    obtain ⟨full, last, heq, hfull, hne, hle, henc⟩ :=
      encodeList_split (d :: rest) (List.cons_ne_nil _ _)
    refine ⟨a :: b :: c :: full, last, by simp [heq], by simp only [List.length_cons]; omega,
      hne, hle, ?_⟩
    rw [encodeList, henc, encodeList, List.append_assoc]

/-- **Whole groups are read back by the body decoder.** -/
theorem decodeBody_encodeList : ∀ (full : List UInt8), full.length % 3 = 0 → ∀ off,
    decodeBody ((encodeList full).flatMap String.utf8EncodeChar) off = .ok full
  | [], _, _ => by simp [encodeList, encodeGroup, decodeBody]
  | a :: b :: c :: rest, h, off => by
    have hrest : rest.length % 3 = 0 := by simp only [List.length_cons] at h; omega
    have hn := groupValue_lt a b c
    rw [encodeList, List.flatMap_append, encodeGroup_three, flatMap_symbols (sextets_lt hn)]
    simp (disch := first | omega | simp) only [sextets, List.map_cons, List.map_nil,
      List.cons_append, List.nil_append, decodeBody, symbolValue?_symbolByte,
      decodeBody_encodeList rest hrest (off + 4), bytesOfQuad_groupValue a b c rfl rfl]
  | [_], h, _ => by simp at h
  | [_, _], h, _ => by simp at h

theorem length_encodeBytes_of_mod : ∀ (full : List UInt8), full.length % 3 = 0 →
    ((encodeList full).flatMap String.utf8EncodeChar).length = full.length / 3 * 4
  | [], _ => rfl
  | a :: b :: c :: rest, h => by
    have hrest : rest.length % 3 = 0 := by simp only [List.length_cons] at h; omega
    rw [encodeList, List.flatMap_append, List.length_append,
      length_groupBytes [a, b, c] (List.cons_ne_nil _ _) (by simp),
      length_encodeBytes_of_mod rest hrest, List.length_cons, List.length_cons, List.length_cons]
    omega
  | [_], h => by simp at h
  | [_, _], h => by simp at h

/-- **Reading base64 inverts writing it.** The text is a whole number of
groups, so the reader takes all but the last with the body decoder and the
last, with its padding, with the tail decoder. -/
theorem decode_encode (bs : List UInt8) : decode (Text.utf8 (encode bs)) = .ok bs := by
  have hutf : Text.utf8 (encode bs) = (encodeList bs).flatMap String.utf8EncodeChar := by
    simp [Text.utf8, encode]
  rw [hutf]
  rcases eq_or_ne bs [] with rfl | hne
  · rfl
  obtain ⟨full, last, rfl, hfull, hne', hle, henc⟩ := encodeList_split bs hne
  rw [henc, List.flatMap_append]
  have hF := length_encodeBytes_of_mod full hfull
  have hL := length_groupBytes last hne' hle
  have hrem : (full.length / 3 * 4 + 4) % 4 = 0 := by omega
  unfold decode
  simp [hF, hL, hrem, List.take_left' hF, List.drop_left' hF,
    decodeBody_encodeList full hfull, decodeTail_last last hne' hle]
  -- no lone symbol is left over, whatever the last byte is
  split <;> rfl

/-- No symbol of base64 text is blank. -/
theorem isBlank_of_mem_encodeList : ∀ (bs : List UInt8) {c : Char}, c ∈ encodeList bs →
    Text.isBlank c = false
  | a :: b :: c :: rest, x, hx => by
    rw [encodeList, List.mem_append, encodeGroup_three] at hx
    rcases hx with hx | hx
    · exact isBlank_of_mem_symbols (sextets_lt (groupValue_lt a b c)) hx
    · exact isBlank_of_mem_encodeList rest hx
  | [], _, hx => by simp [encodeList, encodeGroup] at hx
  | [a], x, hx => by
    have henc : encodeList [a] = encodeGroup [a] := rfl
    rw [henc, encodeGroup_one, List.mem_append] at hx
    rcases hx with hx | hx
    · exact isBlank_of_mem_symbols
        (fun v hv => sextets_lt (groupValue_lt a 0 0) v (List.mem_of_mem_take hv)) hx
    · simp only [List.mem_cons, List.not_mem_nil, or_false, or_self] at hx
      subst hx; decide
  | [a, b], x, hx => by
    have henc : encodeList [a, b] = encodeGroup [a, b] := rfl
    rw [henc, encodeGroup_two, List.mem_append] at hx
    rcases hx with hx | hx
    · exact isBlank_of_mem_symbols
        (fun v hv => sextets_lt (groupValue_lt a b 0) v (List.mem_of_mem_take hv)) hx
    · simp only [List.mem_cons, List.not_mem_nil, or_false] at hx
      subst hx; decide

theorem trimBlank_encode (bs : List UInt8) : Text.trimBlank (encode bs) = encode bs := by
  have hkeep : ∀ l : List Char, (∀ c ∈ l, Text.isBlank c = false) → l.dropWhile Text.isBlank = l := by
    intro l hl
    cases l with
    | nil => rfl
    | cons c l => simp [List.dropWhile, hl c List.mem_cons_self]
  have hall : ∀ c ∈ encodeList bs, Text.isBlank c = false := fun c hc =>
    isBlank_of_mem_encodeList bs hc
  rw [Text.trimBlank, encode, String.toList_ofList, Text.trimBlankList, hkeep _ hall,
    hkeep _ (by simpa using hall), List.reverse_reverse]

end ContentPublish.Base64

namespace ContentPublish

/-- **A payload written as base64 is read back.** -/
theorem decodeBinary_encode (bytes : List UInt8) :
    decodeBinary (Base64.encode bytes) = .ok bytes := by
  rw [decodeBinary, Base64.trimBlank_encode, Base64.decode_encode]

end ContentPublish
