import ContentPublish.Proofs.Base64RoundTrip

/-
  Base64 text has one form

  The reader accepts a text only when it is the writer's text of what it
  reads. Each symbol it accepts is the symbol of the value it reads it as, a
  whole group of four symbols is the writing of the three bytes it reads,
  and the last group is read only when it has its padding and its unused
  bits are zero, which is how the writer leaves them. So no byte string has
  a second spelling, and a payload is read from a text exactly when the
  text, its surrounding blanks trimmed, is the payload's base64.

  What is stated here:
    1. `symbolByte_of_symbolValue?` — an accepted symbol is the symbol of its
       value.
    2. `encodeGroup_bytesOfQuad`, `encodeGroup_take_two` and
       `encodeGroup_take_one` — the bytes read from a group are written as
       that group.
    3. `scanTail_shape` and `decodeTail_shape` — the last group accepted is
       symbols then padding, and is the writing of the bytes it gives.
    4. `decodeBody_shape` — the whole groups accepted are the writing of
       their bytes.
    5. `encode_of_decode` — accepted text is the writing of what it gives.
    6. `decodeBinary_accepts_exactly_encodings` — a payload is read exactly
       from its own base64, blanks around it aside.
-/

namespace ContentPublish.Base64

/-! ## Symbols -/

/-- The byte `n` is read as a value whose symbol is that byte again. -/
def readsBack (n : Nat) : Bool :=
  match symbolValue? (UInt8.ofNat n) with
  | some v => decide (v < 64) && symbolByte v == UInt8.ofNat n
  | none => true

set_option maxRecDepth 2000 in
theorem readsBack_all : ∀ n, n < 256 → readsBack n = true := by decide

/-- **An accepted symbol is the symbol of its value.** -/
theorem symbolByte_of_symbolValue? {b : UInt8} {v : Nat} (h : symbolValue? b = some v) :
    v < 64 ∧ symbolByte v = b := by
  have hb := readsBack_all b.toNat b.toNat_lt
  rw [readsBack, UInt8.ofNat_toNat, h] at hb
  simpa using hb

/-! ## Groups read back -/

section Quad

variable {va vb vc vd : Nat}

/-- The 24-bit value of four six-bit values, the first highest. -/
def quadValue (va vb vc vd : Nat) : Nat := va * 262144 + vb * 4096 + vc * 64 + vd

/-- The six-bit values of a quad are read off its value. -/
theorem quadValue_digits (hb : vb < 64) (hc : vc < 64) (hd : vd < 64) :
    quadValue va vb vc vd / 262144 = va ∧ quadValue va vb vc vd / 4096 % 64 = vb ∧
      quadValue va vb vc vd / 64 % 64 = vc ∧ quadValue va vb vc vd % 64 = vd := by
  unfold quadValue; omega

theorem sextets_quadValue (hb : vb < 64) (hc : vc < 64) (hd : vd < 64) :
    sextets (quadValue va vb vc vd) = [va, vb, vc, vd] := by
  obtain ⟨h₀, h₁, h₂, h₃⟩ := quadValue_digits hb hc hd
  rw [sextets, h₀, h₁, h₂, h₃]

/-- The reader's shifts and joins of four six-bit values give their value. -/
theorem join_quad (hb : vb < 64) (hc : vc < 64) (hd : vd < 64) :
    va <<< 18 ||| vb <<< 12 ||| vc <<< 6 ||| vd = quadValue va vb vc vd := by
  obtain ⟨h₀, h₁, h₂, h₃⟩ := quadValue_digits hb hc hd
  have h := join_sextets (quadValue va vb vc vd)
  rwa [h₀, h₁, h₂, h₃] at h

theorem ofNat_zero : UInt8.ofNat 0 = 0 := rfl

/-- The three bytes of a 24-bit value give that value back. -/
theorem groupValue_bytes {n : Nat} (hn : n < 2 ^ 24) :
    groupValue (UInt8.ofNat (n / 65536)) (UInt8.ofNat (n / 256 % 256)) (UInt8.ofNat (n % 256)) = n := by
  simp only [groupValue, UInt8.toNat_ofNat', Nat.reducePow]
  omega

/-- The bytes a quad is read as: those of its value. -/
theorem bytesOfQuad_eq (hb : vb < 64) (hc : vc < 64) (hd : vd < 64) :
    bytesOfQuad va vb vc vd = [UInt8.ofNat (quadValue va vb vc vd / 65536),
      UInt8.ofNat (quadValue va vb vc vd / 256 % 256), UInt8.ofNat (quadValue va vb vc vd % 256)] := by
  rw [bytesOfQuad, join_quad hb hc hd, and_255, and_255]
  simp only [Nat.shiftRight_eq_div_pow, Nat.reducePow]

/-- **A whole group read is written back as itself.** -/
theorem encodeGroup_bytesOfQuad (ha : va < 64) (hb : vb < 64) (hc : vc < 64) (hd : vd < 64) :
    encodeGroup (bytesOfQuad va vb vc vd) = [va, vb, vc, vd].map symbol := by
  have hn : quadValue va vb vc vd < 2 ^ 24 := by unfold quadValue; omega
  rw [bytesOfQuad_eq hb hc hd, encodeGroup_three, groupValue_bytes hn, sextets_quadValue hb hc hd]

/-- A group read from three symbols and `=`, whose last symbol leaves its
low two bits zero, is written back as itself. -/
theorem encodeGroup_take_two (ha : va < 64) (hb : vb < 64) (hc : vc < 64) (hlow : vc % 4 = 0) :
    encodeGroup ((bytesOfQuad va vb vc 0).take 2) = [va, vb, vc].map symbol ++ ['='] := by
  have hn : quadValue va vb vc 0 < 2 ^ 24 := by unfold quadValue; omega
  -- the third byte is zero, so the group of the first two has the same value
  have hzero : quadValue va vb vc 0 % 256 = 0 := by unfold quadValue; omega
  have hgroup := groupValue_bytes hn
  rw [hzero, ofNat_zero] at hgroup
  rw [bytesOfQuad_eq hb hc (by decide), List.take_succ_cons, List.take_succ_cons, List.take_zero,
    encodeGroup_two, hgroup, sextets_quadValue hb hc (by decide)]
  rfl

/-- A group read from two symbols and `==`, whose last symbol leaves its
low four bits zero, is written back as itself. -/
theorem encodeGroup_take_one (ha : va < 64) (hb : vb < 64) (hlow : vb % 16 = 0) :
    encodeGroup ((bytesOfQuad va vb 0 0).take 1) = [va, vb].map symbol ++ ['=', '='] := by
  have hn : quadValue va vb 0 0 < 2 ^ 24 := by unfold quadValue; omega
  -- the second and third bytes are zero
  have hzero₁ : quadValue va vb 0 0 / 256 % 256 = 0 := by unfold quadValue; omega
  have hzero₂ : quadValue va vb 0 0 % 256 = 0 := by unfold quadValue; omega
  have hgroup := groupValue_bytes hn
  rw [hzero₁, hzero₂, ofNat_zero] at hgroup
  rw [bytesOfQuad_eq hb (by decide) (by decide), List.take_succ_cons, List.take_zero,
    encodeGroup_one, hgroup, sextets_quadValue hb (by decide) (by decide)]
  rfl

end Quad

/-! ## The last group -/

section Tail

variable {start : Nat}

/-- Once padding has begun, only padding is accepted, and it is counted. -/
theorem scanTail_padded : ∀ {l : List (Nat × UInt8)} {t t' : Tail}, 0 < t.pads →
    scanTail start t l = .ok t' →
      l.map Prod.snd = List.replicate l.length padByte ∧ t'.values = t.values ∧
        t'.pads = t.pads + l.length
  | [], t, t', _, h => by
    simp only [scanTail, Except.ok.injEq] at h
    subst h
    simp
  | (i, b) :: rest, t, t', hpads, h => by
    unfold scanTail at h
    by_cases hb : b = padByte
    · have hi : ¬ i < 2 := fun hi => by simp [hb, hi] at h
      have hkeep : t.pads ≠ 0 := Nat.pos_iff_ne_zero.mp hpads
      simp only [hb, if_true, hi, if_false, hkeep] at h
      obtain ⟨hrest, hvalues, hcount⟩ := scanTail_padded (Nat.succ_pos _) h
      dsimp only at hcount
      refine ⟨?_, hvalues, ?_⟩
      · rw [List.map_cons, hrest, hb, List.length_cons, List.replicate_succ]
      · rw [hcount, List.length_cons]; omega
    · simp [hb, hpads] at h

/-- **The last group accepted is symbols, then padding.** Read from a state
without padding, it adds the values of its symbols, which are the bytes it
starts with, and counts the `=` that end it. -/
theorem scanTail_shape : ∀ {l : List (Nat × UInt8)} {t t' : Tail}, t.pads = 0 →
    scanTail start t l = .ok t' → ∃ vs, (∀ v ∈ vs, v < 64) ∧ t'.values = t.values ++ vs ∧
      l.map Prod.snd = vs.map symbolByte ++ List.replicate t'.pads padByte
  | [], t, t', hpads, h => by
    simp only [scanTail, Except.ok.injEq] at h
    subst h
    exact ⟨[], by simp, by simp, by simp [hpads]⟩
  | (i, b) :: rest, t, t', hpads, h => by
    unfold scanTail at h
    by_cases hb : b = padByte
    · -- the padding begins here, so the rest is padding
      have hi : ¬ i < 2 := fun hi => by simp [hb, hi] at h
      simp only [hb, if_true, hi, if_false, hpads] at h
      obtain ⟨hrest, hvalues, hcount⟩ := scanTail_padded (Nat.succ_pos _) h
      dsimp only at hvalues hcount
      refine ⟨[], by simp, by simpa using hvalues, ?_⟩
      rw [List.map_cons, hrest, hb, hcount, Nat.zero_add, Nat.add_comm, List.replicate_succ]
      rfl
    · -- a symbol: its value is kept and reading goes on without padding
      have hno : ¬ 0 < t.pads := by omega
      cases hv : symbolValue? b with
      | none => simp [hb, hno, hv] at h
      | some v =>
        simp only [hb, if_false, hno, hv] at h
        obtain ⟨vs, hlt, hvalues, hrest⟩ := scanTail_shape (by exact hpads) h
        obtain ⟨hv64, hbyte⟩ := symbolByte_of_symbolValue? hv
        refine ⟨v :: vs, ?_, by simpa using hvalues, ?_⟩
        · intro w hw
          rcases List.mem_cons.mp hw with rfl | hw
          · exact hv64
          · exact hlt w hw
        · rw [List.map_cons, hrest, List.map_cons, hbyte, List.cons_append]

/-- Symbols followed by padding are written as their bytes. -/
theorem flatMap_padded {vs : List Nat} (h : ∀ v ∈ vs, v < 64) (n : Nat) :
    (vs.map symbol ++ List.replicate n '=').flatMap String.utf8EncodeChar =
      vs.map symbolByte ++ List.replicate n padByte := by
  rw [List.flatMap_append, flatMap_symbols h]
  congr 1
  induction n with
  | zero => rfl
  | succ n ih => rw [List.replicate_succ, List.flatMap_cons, utf8EncodeChar_pad, ih]; rfl

theorem map_snd_indexed (group : List UInt8) :
    (group.zipIdx.map fun (b, i) => (i, b)).map Prod.snd = group := by
  rw [List.map_map]
  exact List.zipIdx_map_fst 0 group

/-- **The last group accepted is the writing of the bytes it gives.** A
last group of four bytes is accepted only with two to four symbols, padded
to four, and with the unused bits of its last symbol zero; it gives one to
three bytes, and writing them gives the group back. -/
theorem decodeTail_shape {group tb : List UInt8} (h : decodeTail start group true = .ok tb)
    (hne : group ≠ []) (hle : group.length ≤ 4) :
    group.length = 4 ∧ tb ≠ [] ∧ tb.length ≤ 3 ∧
      (encodeGroup tb).flatMap String.utf8EncodeChar = group := by
  unfold decodeTail at h
  split at h
  · simp at h
  · next t ht =>
    obtain ⟨vs, hlt, hvalues, hgroup⟩ := scanTail_shape rfl ht
    rw [map_snd_indexed] at hgroup
    simp only [List.nil_append] at hvalues
    have hlen : group.length = vs.length + t.pads := by rw [hgroup]; simp
    have hpos : 0 < group.length := List.length_pos_iff.mpr hne
    dsimp only at h
    rw [hvalues] at h
    split_ifs at h with hshort hpad hunused
    have h4 : group.length = 4 := by omega
    refine ⟨h4, ?_⟩
    -- two to four symbols; the padding makes up the rest
    rcases vs with _ | ⟨v₀, _ | ⟨v₁, _ | ⟨v₂, _ | ⟨v₃, _ | ⟨v₄, vs⟩⟩⟩⟩⟩
    · simp at hshort
    · simp at hshort
    all_goals simp only [List.getD_cons_zero, List.getD_cons_succ, List.getD_nil, List.length_cons,
      List.length_nil, Nat.reduceAdd, Nat.reduceMul, Nat.reduceDiv, Nat.reduceSub,
      Except.ok.injEq] at h hunused hlen
    all_goals subst h
    · -- `xx==`: the second symbol leaves its low four bits zero
      have hpads : t.pads = 2 := by omega
      rw [join_quad (hlt v₁ (by simp)) (by decide) (by decide)] at hunused
      simp only [Nat.reduceShiftLeft, Nat.reduceSub, and_65535] at hunused
      have hlow : v₁ % 16 = 0 := by unfold quadValue at hunused; omega
      rw [encodeGroup_take_one (hlt v₀ (by simp)) (hlt v₁ (by simp)) hlow, hgroup, hpads]
      exact ⟨by simp [bytesOfQuad], by simp [bytesOfQuad], flatMap_padded hlt 2⟩
    · -- `xxx=`: the third symbol leaves its low two bits zero
      have hpads : t.pads = 1 := by omega
      rw [join_quad (hlt v₁ (by simp)) (hlt v₂ (by simp)) (by decide)] at hunused
      simp only [Nat.reduceShiftLeft, Nat.reduceSub, and_255] at hunused
      have hlow : v₂ % 4 = 0 := by unfold quadValue at hunused; omega
      rw [encodeGroup_take_two (hlt v₀ (by simp)) (hlt v₁ (by simp)) (hlt v₂ (by simp)) hlow,
        hgroup, hpads]
      exact ⟨by simp [bytesOfQuad], by simp [bytesOfQuad], flatMap_padded hlt 1⟩
    · -- `xxxx`: four symbols, no padding and no unused bits
      have hpads : t.pads = 0 := by omega
      rw [List.take_of_length_le (by simp [bytesOfQuad]),
        encodeGroup_bytesOfQuad (hlt v₀ (by simp)) (hlt v₁ (by simp)) (hlt v₂ (by simp))
          (hlt v₃ (by simp)), hgroup, hpads]
      refine ⟨by simp [bytesOfQuad], by simp [bytesOfQuad], ?_⟩
      simpa using flatMap_padded hlt 0
    · omega

end Tail

/-! ## Whole groups -/

/-- **The whole groups accepted are the writing of the bytes they give.**
The reader takes the text four symbols at a time, each group giving three
bytes. -/
theorem decodeBody_shape : ∀ (xs : List UInt8) (off : Nat) {body : List UInt8},
    xs.length % 4 = 0 → decodeBody xs off = .ok body →
      body.length % 3 = 0 ∧ (encodeList body).flatMap String.utf8EncodeChar = xs
  | [], _, body, _, h => by
    simp only [decodeBody, Except.ok.injEq] at h
    subst h
    exact ⟨rfl, rfl⟩
  | a :: b :: c :: d :: rest, off, body, hlen, h => by
    have hrest : rest.length % 4 = 0 := by simp only [List.length_cons] at hlen; omega
    cases ha : symbolValue? a <;> cases hb : symbolValue? b <;> cases hc : symbolValue? c <;>
      cases hd : symbolValue? d <;> simp [decodeBody, ha, hb, hc, hd] at h
    next va vb vc vd =>
    cases hr : decodeBody rest (off + 4) with
    | error e => simp [hr] at h
    | ok tail =>
      simp only [hr, Except.ok.injEq] at h
      subst h
      obtain ⟨htail, henc⟩ := decodeBody_shape rest (off + 4) hrest hr
      obtain ⟨hva, hab⟩ := symbolByte_of_symbolValue? ha
      obtain ⟨hvb, hbb⟩ := symbolByte_of_symbolValue? hb
      obtain ⟨hvc, hcb⟩ := symbolByte_of_symbolValue? hc
      obtain ⟨hvd, hdb⟩ := symbolByte_of_symbolValue? hd
      have hquad := encodeGroup_bytesOfQuad hva hvb hvc hvd
      rw [bytesOfQuad_eq hvb hvc hvd] at hquad ⊢
      refine ⟨by simp only [List.cons_append, List.nil_append, List.length_cons]; omega, ?_⟩
      have hall : ∀ v ∈ [va, vb, vc, vd], v < 64 := by simp [hva, hvb, hvc, hvd]
      rw [List.cons_append, List.cons_append, List.cons_append, List.nil_append, encodeList,
        hquad, List.flatMap_append, flatMap_symbols hall, henc]
      simp [hab, hbb, hcb, hdb]
  | [_], _, _, hlen, _ => by simp at hlen
  | [_, _], _, _, hlen, _ => by simp at hlen
  | [_, _, _], _, _, hlen, _ => by simp at hlen

/-- Whole groups followed by a last group of one to three bytes are written
one after the other. -/
theorem encodeList_append_group : ∀ (full : List UInt8) {last : List UInt8},
    full.length % 3 = 0 → last ≠ [] → last.length ≤ 3 →
      encodeList (full ++ last) = encodeList full ++ encodeGroup last
  | [], last, _, hne, hle => by
    rcases last with _ | ⟨a, _ | ⟨b, _ | ⟨c, _ | ⟨d, rest⟩⟩⟩⟩
    · exact absurd rfl hne
    · rfl
    · rfl
    · simp [encodeList, encodeGroup]
    · simp only [List.length_cons] at hle; omega
  | a :: b :: c :: rest, last, hlen, hne, hle => by
    have hrest : rest.length % 3 = 0 := by simp only [List.length_cons] at hlen; omega
    rw [List.cons_append, List.cons_append, List.cons_append, encodeList, encodeList,
      encodeList_append_group rest hrest hne hle, List.append_assoc]
  | [_], _, hlen, _, _ => by simp at hlen
  | [_, _], _, hlen, _, _ => by simp at hlen

/-! ## Whole texts -/

/-- **Accepted text is the writing of what it gives.** The text is a whole
number of groups: the last one, read by the tail decoder, has four bytes,
and the ones before it are read by the body decoder. -/
theorem encode_of_decode {input bytes : List UInt8} (h : decode input = .ok bytes) :
    Text.utf8 (encode bytes) = input := by
  have hutf : Text.utf8 (encode bytes) = (encodeList bytes).flatMap String.utf8EncodeChar := by
    simp [Text.utf8, encode]
  rw [hutf]
  rcases eq_or_ne input [] with rfl | hne
  · have hnil : decode [] = .ok [] := rfl
    rw [hnil, Except.ok.injEq] at h
    subst h
    rfl
  have hpos : 0 < input.length := List.length_pos_iff.mpr hne
  unfold decode at h
  dsimp only at h
  -- the body is all but the last group: all but the leftover bytes, or all
  -- but the last four when nothing is left over
  generalize hk : input.length - input.length % 4 -
    (if input.length % 4 = 0 then 4 else 0) = k at h
  have hsplit : (input.length % 4 = 0 ∧ k + 4 = input.length) ∨
      (input.length % 4 ≠ 0 ∧ k + input.length % 4 = input.length) := by
    split_ifs at hk <;> omega
  split_ifs at h with hlast
  split at h
  · simp at h
  next body hbody =>
  split at h
  · simp at h
  next tail htail =>
  simp only [Except.ok.injEq] at h
  subst h
  simp only [ne_eq, List.length_eq_zero_iff, hne, not_false_eq_true, decide_true] at htail
  -- the last group has one to four bytes; being accepted, it has four
  have hgroup : 0 < (input.drop k).length ∧ (input.drop k).length ≤ 4 := by
    rw [List.length_drop]; omega
  obtain ⟨h4, htne, htle, htenc⟩ :=
    decodeTail_shape htail (List.length_pos_iff.mp hgroup.1) hgroup.2
  have hbodylen : (input.take k).length % 4 = 0 := by
    rw [List.length_drop] at h4; rw [List.length_take]; omega
  obtain ⟨hbm, hbenc⟩ := decodeBody_shape _ 0 hbodylen hbody
  rw [encodeList_append_group body hbm htne htle, List.flatMap_append, hbenc, htenc,
    List.take_append_drop]

end ContentPublish.Base64

namespace ContentPublish

/-- A payload is read exactly when its trimmed text is accepted. -/
theorem decodeBinary_eq_ok_iff {s : String} {bytes : List UInt8} :
    decodeBinary s = .ok bytes ↔ Base64.decode (Text.utf8 (Text.trimBlank s)) = .ok bytes := by
  unfold decodeBinary
  split <;> simp_all

/-- **A payload is read exactly from its own base64.** Writing then reading
gives the bytes back, and a text is read as a byte string exactly when,
with its surrounding blanks trimmed, it is the base64 of that string: the
reader accepts padded text in the standard alphabet whose unused bits are
zero, and nothing else. -/
theorem decodeBinary_accepts_exactly_encodings :
    (∀ bytes : List UInt8, decodeBinary (Base64.encode bytes) = .ok bytes) ∧
      ∀ (s : String) (bytes : List UInt8),
        decodeBinary s = .ok bytes ↔ Text.trimBlank s = Base64.encode bytes := by
  refine ⟨decodeBinary_encode, fun s bytes => ⟨fun h => ?_, fun h => ?_⟩⟩
  · exact (Url.utf8_injective (Base64.encode_of_decode (decodeBinary_eq_ok_iff.mp h))).symm
  · rw [decodeBinary_eq_ok_iff, h, Base64.decode_encode]

/-- `QR==` spells the byte `A` with a stray low bit, and `QQ` lacks its
padding; only `QQ==` is read. -/
example : decodeBinary "QR==" = .error (.base64 (.invalidLastSymbol 1 82)) ∧
    decodeBinary "QQ" = .error (.base64 .invalidPadding) := by
  decide

end ContentPublish
