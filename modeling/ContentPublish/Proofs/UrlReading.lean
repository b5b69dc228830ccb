import ContentPublish.Proofs.UrlLaw

/-
  What a URL holds before its query

  The reader writes every part of a URL that stands before its query with
  characters above U+0020 other than `?` and `#`, whenever the path is made
  of segments. The scheme is letters, digits and `+-.`, lowercased. The user
  information, the segments and an opaque host are escaped with sets that
  escape every control, the space, `?` and `#`, or keep only characters that
  are none of them. A domain name keeps labels free of them, and writes a
  label beyond ASCII as `xn--` and Punycode, whose digits are letters and
  digits. Addresses are written in digits, dots, colons and brackets.

  What is stated here:
    1. `plainChar` and `PlainText` — the characters a URL holds as they are
       before its query.
    2. `Host.plainText_of_parseSpecial` and `Host.plainText_of_parseOther` —
       a host as read is written plain; for a domain name through
       `plainText_domainToAscii` and `Punycode.plainText_encode`.
    3. `Reading.plainText_pathSegments` — the segments read are plain.
    4. `PlainParts` and `parse_plainParts` — every URL the reader returns
       has plain parts; `plainText_serialize` — such a URL without query and
       fragment is written plain.
-/

namespace ContentPublish.Url

/-! ## Plain characters -/

/-- A character a URL holds as it is before its query: above U+0020, and
neither `?` (U+003F) nor `#` (U+0023). -/
def plainChar (c : Char) : Bool := decide (0x20 < c.toNat ∧ c.toNat ≠ 0x3F ∧ c.toNat ≠ 0x23)

/-- Text made of plain characters. -/
def PlainText (cs : List Char) : Prop := ∀ c ∈ cs, plainChar c = true

instance : DecidablePred PlainText := fun cs =>
  decidable_of_iff (cs.all plainChar = true) (by simp [PlainText])

section PlainText

variable {a b cs : List Char} {c : Char}

@[simp] theorem plainText_nil : PlainText [] := nofun

@[simp] theorem plainText_cons : PlainText (c :: cs) ↔ plainChar c = true ∧ PlainText cs := by
  simp [PlainText]

@[simp] theorem plainText_append : PlainText (a ++ b) ↔ PlainText a ∧ PlainText b := by
  simp only [PlainText, List.mem_append, or_imp, forall_and]

theorem PlainText.subset (h : PlainText a) (hsub : b ⊆ a) : PlainText b := fun c hc => h c (hsub hc)

theorem plainText_intercalate {sep : List Char} {l : List (List Char)} (hsep : PlainText sep)
    (h : ∀ x ∈ l, PlainText x) : PlainText (sep.intercalate l) := by
  induction l with
  | nil => exact plainText_nil
  | cons x l ih =>
    cases l with
    | nil => simpa using h x List.mem_cons_self
    | cons y l =>
      rw [List.intercalate_cons_cons, plainText_append, plainText_append]
      exact ⟨⟨h x List.mem_cons_self, hsep⟩, ih fun z hz => h z (List.mem_cons_of_mem x hz)⟩

theorem toNat_ne_of_ne {d : Char} (h : c ≠ d) : c.toNat ≠ d.toNat :=
  fun e => h (Char.toNat_inj.mp e)

theorem plainChar_of_isDigit (h : c.isDigit = true) : plainChar c = true := by
  have hv : c.toNat = c.val.toNat := rfl
  simp only [Char.isDigit, Bool.and_eq_true, decide_eq_true_eq, UInt32.le_iff_toNat_le, ← hv] at h
  have h0 : '0'.val.toNat = 48 := rfl
  have h9 : '9'.val.toNat = 57 := rfl
  simp only [plainChar, decide_eq_true_eq]
  omega

end PlainText

/-! ## Escapes and numbers -/

theorem plainChar_upperHex : ∀ d, d < 16 → plainChar (upperHex d) = true := by decide

theorem plainText_escapeByte {b : Nat} (hb : b < 256) : PlainText (escapeByte b) := by
  simp only [escapeByte, plainText_cons, plainText_nil, and_true]
  exact ⟨by decide, plainChar_upperHex _ (by omega), plainChar_upperHex _ (by omega)⟩

/-- Escaping writes plain text when every character the set keeps is plain:
the others become escapes. -/
theorem plainText_encodeWith {set : EncodeSet} {cs : List Char}
    (h : ∀ c ∈ cs, c.toNat < 0x80 → set c.toNat = false → plainChar c = true) :
    PlainText (encodeWith set cs) := by
  intro c hc
  obtain ⟨x, hx, hcx⟩ := List.mem_flatMap.mp hc
  unfold encodeChar at hcx
  split at hcx
  · next hkept =>
    rw [List.mem_singleton.mp hcx]
    exact h x hx hkept.1 hkept.2
  · obtain ⟨b, -, hb⟩ := List.mem_flatMap.mp hcx
    exact plainText_escapeByte (UInt8.toNat_lt_size b) c hb

/-- A set that escapes every control, the space, `?` and `#`. -/
def EscapesUnplain (set : EncodeSet) : Prop :=
  ∀ b, b < 0x80 → set b = false → 0x20 < b ∧ b ≠ 0x3F ∧ b ≠ 0x23

theorem plainText_encodeWith_of_escapes {set : EncodeSet} (hset : EscapesUnplain set)
    (cs : List Char) : PlainText (encodeWith set cs) :=
  plainText_encodeWith fun c _ hc hkept => by simpa [plainChar] using hset c.toNat hc hkept

theorem escapesUnplain_pathSet : EscapesUnplain pathSet := by
  intro b _ h
  simp only [pathSet, querySet, controls, Bool.or_eq_false_iff, beq_eq_false_iff_ne,
    decide_eq_false_iff_not] at h
  omega

theorem escapesUnplain_userinfoSet : EscapesUnplain userinfoSet := by
  intro b hb h
  simp only [userinfoSet, Bool.or_eq_false_iff] at h
  exact escapesUnplain_pathSet b hb h.1.1.1.1.1.1.1.1.1.1

theorem plainText_toDigits_ten (n : Nat) : PlainText (Nat.toDigits 10 n) := fun _ hc =>
  plainChar_of_isDigit (Nat.isDigit_of_mem_toDigits (by decide) (by decide) hc)

theorem plainText_toString (n : Nat) : PlainText (toString n).toList := by
  rw [Nat.toString_eq_repr, Nat.repr_eq_ofList_toDigits, String.toList_ofList]
  exact plainText_toDigits_ten n

theorem plainText_toDigits_hex (n : Nat) : PlainText (Nat.toDigits 16 n) := by
  have hdigit : ∀ d, d < 16 → plainChar (Nat.digitChar d) = true := by decide
  induction n using Nat.strong_induction_on with
  | _ n ih =>
    rw [Nat.toDigits_eq_if (by decide)]
    split
    · next h => simpa using hdigit n h
    · rw [plainText_append, plainText_cons]
      exact ⟨ih (n / 16) (by omega), hdigit _ (Nat.mod_lt _ (by decide)), plainText_nil⟩

/-! ## Hosts -/

/-- The results of a lookup over a list, all found: each comes from a member. -/
theorem exists_mem_of_mapM_eq_some {α β : Type} {f : α → Option β} :
    ∀ {l : List α} {r : List β}, l.mapM f = some r → ∀ b ∈ r, ∃ a ∈ l, f a = some b
  | [], r, h => by
    rw [List.mapM_nil] at h
    cases h
    simp
  | a :: l, r, h => by
    rw [List.mapM_cons] at h
    simp only [bind, Option.bind_eq_some_iff, pure, Option.some.injEq] at h
    obtain ⟨b, hb, bs, hbs, rfl⟩ := h
    intro x hx
    rcases List.mem_cons.mp hx with rfl | hx
    · exact ⟨a, List.mem_cons_self, hb⟩
    · obtain ⟨y, hy, hfy⟩ := exists_mem_of_mapM_eq_some hbs x hx
      exact ⟨y, List.mem_cons_of_mem a hy, hfy⟩

namespace Punycode

theorem plainChar_digit : ∀ d, d < 36 → plainChar (digit d) = true := by decide

/-- Punycode digits are letters and digits. -/
theorem plainText_digits (bias : Nat) (k q : Nat) : PlainText (digits bias k q) := by
  induction q using Nat.strong_induction_on generalizing k with
  | _ q ih =>
    have hpos := threshold_pos k bias
    have hle := threshold_le k bias
    rw [digits]
    split
    · next h => simpa using plainChar_digit q (by omega)
    · next h =>
      have hbase : base = 36 := rfl
      have hmod := Nat.mod_lt (q - threshold k bias) (show 0 < base - threshold k bias by omega)
      have hdiv := Nat.div_le_self (q - threshold k bias) (base - threshold k bias)
      rw [plainText_cons]
      exact ⟨plainChar_digit _ (by omega), ih _ (by omega) _⟩

theorem plainText_foldl_pass (basicCount m : Nat) :
    ∀ (codes : List Nat) (st : Writing), PlainText st.out →
      PlainText (codes.foldl (Writing.pass basicCount m) st).out
  | [], _, h => h
  | c :: codes, st, h => by
    rw [List.foldl_cons]
    apply plainText_foldl_pass basicCount m codes
    unfold Writing.pass
    split
    · exact h
    · split
      · exact plainText_append.mpr ⟨h, plainText_digits _ _ _⟩
      · exact h

theorem plainText_insertAll (codes : List Nat) (basicCount : Nat) :
    ∀ (ms : List Nat) (n : Nat) (st : Writing), PlainText st.out →
      PlainText (Writing.insertAll codes basicCount ms n st).out
  | [], _, _, h => h
  | m :: ms, n, st, h => by
    rw [Writing.insertAll]
    exact plainText_insertAll codes basicCount ms _ _ (plainText_foldl_pass basicCount m codes _ h)

/-- **The Punycode of a plain label is plain**: its ASCII characters, a
hyphen, and digits. -/
theorem plainText_encode {label : List Char} (h : PlainText label) : PlainText (encode label) := by
  unfold encode
  apply plainText_insertAll
  dsimp only
  split
  · exact plainText_nil
  · rw [plainText_append]
    exact ⟨h.subset List.filter_sublist.subset, by decide⟩

end Punycode

theorem plainChar_of_not_forbiddenInDomain {c : Char} (h : forbiddenInDomain c = false) :
    plainChar c = true := by
  simp only [forbiddenInDomain, Bool.or_eq_false_iff, beq_eq_false_iff_ne, ne_eq,
    decide_eq_false_iff_not] at h
  have hq := toNat_ne_of_ne h.1.1.1.1.1.1.2
  have hh := toNat_ne_of_ne h.1.1.1.1.1.1.1.1.1.1.1.1.2
  simp only [plainChar, decide_eq_true_eq]
  exact ⟨by omega, hq, hh⟩

theorem plainText_asciiLabel {label ascii : List Char} (hl : PlainText label)
    (h : asciiLabel label = some ascii) : PlainText ascii := by
  unfold asciiLabel at h
  split_ifs at h
  · cases h
    exact hl
  · cases h
    exact plainText_append.mpr ⟨by decide, Punycode.plainText_encode hl⟩

/-- **A domain name in ASCII form is plain**: its labels hold no forbidden
character, and each is written as it is or as Punycode. -/
theorem plainText_domainToAscii {name ascii : String} (h : domainToAscii name = some ascii) :
    PlainText ascii.toList := by
  unfold domainToAscii at h
  split at h
  · cases h
  · next labels _ =>
    split_ifs at h with _ hforbidden
    obtain ⟨asc, hasc, rfl⟩ := Option.map_eq_some_iff.mp h
    have hlabels : ∀ l ∈ labels, PlainText l := by
      intro l hl c hc
      simp only [List.any_eq_true, not_exists, not_and, Bool.not_eq_true] at hforbidden
      exact plainChar_of_not_forbiddenInDomain (hforbidden l hl c hc)
    rw [String.toList_ofList]
    apply plainText_intercalate (by decide)
    intro a ha
    obtain ⟨l, hl, hla⟩ := exists_mem_of_mapM_eq_some hasc a ha
    exact plainText_asciiLabel (hlabels l hl) hla

namespace Host

theorem plainText_ipv6Text (ps : List Nat) : PlainText (ipv6Text ps).toList := by
  have hjoin : ∀ l : List Nat, PlainText (":".intercalate (l.map pieceHex)).toList := by
    intro l
    rw [String.toList_intercalate]
    apply plainText_intercalate (by decide)
    intro x hx
    obtain ⟨s, hs, rfl⟩ := List.mem_map.mp hx
    obtain ⟨p, -, rfl⟩ := List.mem_map.mp hs
    simpa [pieceHex] using plainText_toDigits_hex p
  unfold ipv6Text
  split
  · exact hjoin _
  · simp only [String.toList_append, plainText_append]
    exact ⟨⟨hjoin _, by decide⟩, hjoin _⟩

/-- A host is written plain when its name is; addresses always are. -/
theorem plainText_serialize {h : Host} (hname : ∀ name, h = .domain name → PlainText name.toList) :
    PlainText h.serialize.toList := by
  have hdot : plainChar '.' = true := by decide
  cases h with
  | domain name => exact hname name rfl
  | ipv4 addr => simp [serialize, plainText_toDigits_ten, hdot]
  | ipv6 ps =>
    simp only [serialize, String.toList_append, plainText_append]
    exact ⟨⟨by decide, plainText_ipv6Text ps⟩, by decide⟩

theorem ipv6_ne_domain {r : Except ParseError (List Nat)} {name : String} :
    r.map ipv6 ≠ .ok (.domain name) := by
  cases r <;> simp [Except.map]

/-- **A host of a special URL is written plain**: a domain name is brought
to its plain ASCII form, and the rest are addresses. -/
theorem plainText_of_parseSpecial {text : List Char} {h : Host} (hp : parseSpecial text = .ok h) :
    PlainText h.serialize.toList := by
  apply plainText_serialize
  rintro name rfl
  unfold parseSpecial at hp
  split at hp
  · split_ifs at hp
    · exact absurd hp ipv6_ne_domain
  · dsimp only at hp
    split at hp
    · cases hp
    · split at hp
      · cases hp
      · next ascii hascii =>
        split_ifs at hp
        · cases hq : parseIpv4 ascii.toList <;> simp [hq, Except.map] at hp
        · cases hp
          exact plainText_domainToAscii hascii

/-- **An opaque host is written plain**: it holds no space, `?` or `#`, and
its controls are escaped. -/
theorem plainText_of_parseOther {text : List Char} {h : Host} (hp : parseOther text = .ok h) :
    PlainText h.serialize.toList := by
  apply plainText_serialize
  rintro name rfl
  unfold parseOther at hp
  split at hp
  · split_ifs at hp
    · exact absurd hp ipv6_ne_domain
  · split_ifs at hp with hforbidden
    cases hp
    rw [String.toList_ofList]
    apply plainText_encodeWith
    intro c hc _ hkept
    simp only [List.any_eq_true, not_exists, not_and, Bool.not_eq_true] at hforbidden
    have hnf := hforbidden c hc
    simp only [forbiddenInOtherHost, Bool.or_eq_false_iff, beq_eq_false_iff_ne, ne_eq] at hnf
    simp only [controls, Bool.or_eq_false_iff, beq_eq_false_iff_ne, decide_eq_false_iff_not] at hkept
    have hspace := toNat_ne_of_ne hnf.1.1.1.1.1.1.1.1.1.1.1.1.2
    have hhash := toNat_ne_of_ne hnf.1.1.1.1.1.1.1.1.1.1.1.2
    have hquery := toNat_ne_of_ne hnf.1.1.1.1.1.1.2
    simp only [plainChar, decide_eq_true_eq]
    refine ⟨?_, hquery, hhash⟩
    have : (' ').toNat = 0x20 := rfl
    omega

end Host

/-! ## Paths -/

namespace Reading

/-- Whether what follows a segment starts with a slash. -/
def slashNext (special : Bool) (rest : List Char) : Bool :=
  match rest with
  | c :: _ => isSlash special c
  | [] => false

/-- The characters of the segment that starts the text: up to a slash, `?`,
`#` or the end. -/
def segmentChars (special : Bool) (cs : List Char) : List Char :=
  cs.takeWhile fun c => !(isSlash special c || c == '?' || c == '#')

/-- The path after the segment of raw characters `raw` is read onto `st`.
`split` says whether a drive letter that starts a first segment is cut from
the rest, and `slash` whether a slash follows. -/
def readSegment (file split slash : Bool) (st : PathState) (raw : List Char) : PathState :=
  let seg := String.ofList (encodeWith pathSet raw)
  let (path, seg) :=
    match (if file && st.segments.isEmpty && split then splitDrive seg else none) with
    | some (drive, more) => ([drive], more)
    | none => (st.segments, seg)
  if isDoubleDot seg then
    let path := dropLastSegment path
    { st with segments := if slash then path else path ++ [""] }
  else if isSingleDot seg then
    { st with segments := if slash then path else path ++ [""] }
  else if file && path.isEmpty && isDriveLetter seg then
    { segments := [String.ofList (seg.toList.take 1 ++ [':'])], drive := true }
  else { st with segments := path ++ [seg] }

/-- One step of reading a path: a segment is read, and after a slash the
next. -/
theorem pathSegments_succ (special file : Bool) (breaks : List Nat) (fuel : Nat) (st : PathState)
    (cs : List Char) :
    pathSegments special file breaks (fuel + 1) st cs =
      let raw := segmentChars special cs
      let rest := cs.drop raw.length
      let st' := readSegment file (breaks.contains (cs.length - 2)) (slashNext special rest) st raw
      if slashNext special rest then pathSegments special file breaks fuel st' (rest.drop 1)
      else (st', rest) := rfl

theorem plainText_splitDrive {seg drive more : String} (h : splitDrive seg = some (drive, more))
    (hseg : PlainText seg.toList) : PlainText drive.toList ∧ PlainText more.toList := by
  unfold splitDrive at h
  split at h
  · next a c more' heq =>
    split_ifs at h
    cases h
    rw [heq] at hseg
    simp only [String.toList_ofList, plainText_cons, plainText_nil, and_true] at hseg ⊢
    exact ⟨⟨hseg.1, hseg.2.1⟩, hseg.2.2⟩
  · cases h

/-- The segments of a path that are plain stay plain after a segment is
read: it is escaped with the path set, or cut from a plain one. -/
theorem plainText_readSegment {file split slash : Bool} {st : PathState} {raw : List Char}
    (h : ∀ s ∈ st.segments, PlainText s.toList) :
    ∀ s ∈ (readSegment file split slash st raw).segments, PlainText s.toList := by
  have hseg : PlainText (String.ofList (encodeWith pathSet raw)).toList := by
    rw [String.toList_ofList]
    exact plainText_encodeWith_of_escapes escapesUnplain_pathSet raw
  -- the path and segment after a drive letter is cut, or as they were
  obtain ⟨path, seg, hpair, hpath, hseg'⟩ : ∃ path seg,
      (match (if file && st.segments.isEmpty && split then
          splitDrive (String.ofList (encodeWith pathSet raw)) else none) with
        | some (drive, more) => ([drive], more)
        | none => (st.segments, String.ofList (encodeWith pathSet raw))) = (path, seg) ∧
      (∀ s ∈ path, PlainText s.toList) ∧ PlainText seg.toList := by
    split
    · next drive more hsplit =>
      split_ifs at hsplit
      obtain ⟨hd, hm⟩ := plainText_splitDrive hsplit hseg
      exact ⟨_, _, rfl, by simpa using hd, hm⟩
    · exact ⟨_, _, rfl, h, hseg⟩
  have hdrop : ∀ s ∈ dropLastSegment path, PlainText s.toList := by
    unfold dropLastSegment
    split
    · exact hpath
    · exact fun s hs => hpath s (List.dropLast_subset path hs)
  have hempty : PlainText "".toList := plainText_nil
  have hdrive : PlainText (seg.toList.take 1 ++ [':']) :=
    plainText_append.mpr ⟨hseg'.subset (List.take_subset _ _), by decide⟩
  unfold readSegment
  simp only [hpair]
  split_ifs <;> simp_all [or_imp]

/-- **The segments read are plain.** -/
theorem plainText_pathSegments (special file : Bool) (breaks : List Nat) :
    ∀ (fuel : Nat) (st : PathState) (cs : List Char), (∀ s ∈ st.segments, PlainText s.toList) →
      ∀ s ∈ (pathSegments special file breaks fuel st cs).1.segments, PlainText s.toList
  | 0, _, _, h => h
  | fuel + 1, st, cs, h => by
    rw [pathSegments_succ]
    dsimp only
    split
    · exact plainText_pathSegments special file breaks fuel _ _ (plainText_readSegment h)
    · exact plainText_readSegment h

theorem plainText_pathStart (special file : Bool) (breaks : List Nat) (cs : List Char) :
    ∀ s ∈ (pathStart special file breaks cs).1.segments, PlainText s.toList := by
  have hpath : ∀ sp cs, ∀ s ∈ (path sp file breaks cs).1.segments, PlainText s.toList :=
    fun sp cs => plainText_pathSegments sp file breaks _ _ cs (by simp)
  unfold pathStart
  split
  · split
    · split
      · exact hpath true _
      · exact hpath true _
    · exact hpath true _
  · split
    all_goals first | exact hpath false _ | simp

theorem plainText_userinfo {special : Bool} {cs rest : List Char} {user : String}
    {password : Option String} (h : userinfo special cs = .ok (user, password, rest)) :
    PlainText user.toList ∧ ∀ p, password = some p → PlainText p.toList := by
  unfold userinfo at h
  dsimp only at h
  split at h
  · cases h
    simp
  · split_ifs at h
    · split at h
      · split at h
        · cases h
        · cases h
          simp
      · cases h
        simp
    · cases h
      refine ⟨by simpa using plainText_encodeWith_of_escapes escapesUnplain_userinfoSet _, ?_⟩
      intro p hp
      split at hp
      · cases hp
        simpa using plainText_encodeWith_of_escapes escapesUnplain_userinfoSet _
      · cases hp

theorem lt_of_isSchemeChar {c : Char} (h : isSchemeChar c = true) : c.toNat < 0x80 := by
  have hv : c.toNat = c.val.toNat := rfl
  delta isSchemeChar Char.isAlphanum Char.isAlpha Char.isUpper Char.isLower Char.isDigit at h
  simp only [Bool.or_eq_true, Bool.and_eq_true, decide_eq_true_eq, beq_iff_eq,
    UInt32.le_iff_toNat_le, ← hv] at h
  rcases h with ((((h | h) | h) | rfl) | rfl) | rfl
  · exact Nat.lt_of_le_of_lt h.2 (by decide)
  · exact Nat.lt_of_le_of_lt h.2 (by decide)
  · exact Nat.lt_of_le_of_lt h.2 (by decide)
  all_goals decide

/-- A character of a scheme is plain once lowercased. -/
theorem plainChar_toLower {c : Char} (h : isSchemeChar c = true) : plainChar c.toLower = true := by
  -- scheme characters are ASCII, so the claim is checked over the ASCII range
  have hascii : ∀ n, n < 0x80 → isSchemeChar (Char.ofNat n) = true →
      plainChar (Char.ofNat n).toLower = true := by
    decide
  have := hascii c.toNat (lt_of_isSchemeChar h)
  rw [Char.ofNat_toNat] at this
  exact this h

theorem plainText_scheme? {cs rest : List Char} {scheme : String}
    (h : scheme? cs = some (scheme, rest)) : PlainText scheme.toList := by
  unfold scheme? at h
  split at h
  · split_ifs at h
    dsimp only at h
    split at h
    · cases h
      intro c hc
      simp only [String.toList_ofList, List.mem_map] at hc
      obtain ⟨x, hx, rfl⟩ := hc
      exact plainChar_toLower (List.mem_takeWhile_imp hx)
    · cases h
  · cases h

end Reading

/-! ## Whole URLs -/

/-- The parts of a URL before its query are plain: its scheme, user name,
password and host, and its segments when it has them. -/
structure PlainParts (u : Url) : Prop where
  scheme : PlainText u.scheme.toList
  username : PlainText u.username.toList
  password : ∀ p, u.password = some p → PlainText p.toList
  host : ∀ h, u.host = some h → PlainText h.serialize.toList
  segments : ∀ ss, u.path = .segments ss → ∀ s ∈ ss, PlainText s.toList

open Reading in
theorem authority_plainParts {scheme : String} {cs : List Char} {u : Url}
    (hs : PlainText scheme.toList) (h : authority scheme cs = .ok u) : PlainParts u := by
  unfold authority at h
  dsimp only at h
  split at h
  · cases h
  · next user password rest huser =>
    obtain ⟨hu, hpw⟩ := plainText_userinfo huser
    -- the host is read by the special or the opaque reader
    split_ifs at h
    all_goals
      split at h
      · cases h
      · next host hhost =>
        have hplain : PlainText host.serialize.toList := by
          first
            | exact Host.plainText_of_parseSpecial hhost
            | exact Host.plainText_of_parseOther hhost
        split_ifs at h
        split at h
        · cases h
        · cases h
          refine ⟨hs, hu, hpw, ?_, ?_⟩
          · rintro _ ⟨⟩
            exact hplain
          · rintro _ ⟨⟩
            exact plainText_pathStart _ _ _ _

theorem mem_fileSegments {segs : List String} {s : String} (h : s ∈ Reading.fileSegments segs) :
    s = "" ∨ s ∈ segs := by
  unfold Reading.fileSegments at h
  split at h
  · exact .inl (List.mem_singleton.mp h)
  · exact .inr (List.dropWhile_subset _ h)

/-- A `file` URL is plain when its host and the segments read are. -/
theorem plainParts_fileUrl {segs : List String} {host : Host}
    (hsegs : ∀ s ∈ segs, PlainText s.toList) (hhost : PlainText host.serialize.toList)
    (query fragment : Option String) :
    PlainParts
      { scheme := "file", username := "", password := none, host := some host, port := none,
        path := .segments (Reading.fileSegments segs), query := query, fragment := fragment } := by
  refine ⟨(by decide : PlainText "file".toList), plainText_nil, nofun, ?_, ?_⟩
  · rintro _ ⟨⟩
    exact hhost
  · rintro _ ⟨⟩ s hs
    rcases mem_fileSegments hs with rfl | hs
    · exact plainText_nil
    · exact hsegs s hs

open Reading in
theorem file_plainParts {breaks : List Nat} {cs : List Char} {u : Url} (h : file breaks cs = .ok u) :
    PlainParts u := by
  have hempty : PlainText (Host.domain "").serialize.toList := plainText_nil
  have hstart := plainText_pathStart true true breaks
  have hpath : ∀ cs, ∀ s ∈ (Reading.path true true breaks cs).1.segments, PlainText s.toList :=
    fun cs => plainText_pathSegments true true breaks _ _ cs (by simp)
  unfold file at h
  dsimp only at h
  -- every branch builds a URL from the path read and an empty, dropped or read host
  split at h <;> split_ifs at h
  all_goals
    first
      | cases h
        first
          | exact plainParts_fileUrl (hpath _) hempty _ _
          | exact plainParts_fileUrl (hstart _) hempty _ _
      | split at h
        · cases h
        · next host hhost =>
          cases h
          split_ifs
          all_goals first
            | exact plainParts_fileUrl (hpath _) hempty _ _
            | exact plainParts_fileUrl (hstart _) hempty _ _
            | exact plainParts_fileUrl (hstart _) (Host.plainText_of_parseSpecial hhost) _ _

/-- **Every URL the reader returns has plain parts.** -/
theorem parse_plainParts {s : String} {u : Url} (h : parse s = .ok u) : PlainParts u := by
  unfold parse at h
  dsimp only at h
  split at h
  · cases h
  · next scheme rest hscheme =>
    have hs := Reading.plainText_scheme? hscheme
    split_ifs at h
    · exact file_plainParts h
    · exact authority_plainParts hs h
    · split at h
      · exact authority_plainParts hs h
      · cases h
        exact ⟨hs, plainText_nil, nofun, nofun, by rintro _ ⟨⟩; exact Reading.plainText_pathStart _ _ _ _⟩
      · cases h
        exact ⟨hs, plainText_nil, nofun, nofun, nofun⟩

theorem PlainParts.plainText_userinfoText {u : Url} (hu : PlainParts u) :
    PlainText u.userinfoText.toList := by
  unfold userinfoText
  split
  · next pw hpw =>
    simp only [String.toList_append, plainText_append]
    exact ⟨⟨⟨hu.username, by decide⟩, hu.password pw hpw⟩, by decide⟩
  · split
    · exact plainText_nil
    · simp only [String.toList_append, plainText_append]
      exact ⟨hu.username, by decide⟩

theorem PlainParts.plainText_pathText {u : Url} {ss : List String} (hu : PlainParts u)
    (hpath : u.path = .segments ss) : PlainText u.pathText.toList := by
  unfold pathText
  rw [hpath]
  intro c hc
  rw [String.toList_join] at hc
  obtain ⟨l, hl, hc⟩ := List.mem_flatten.mp hc
  obtain ⟨x, hx, rfl⟩ := List.mem_map.mp hl
  obtain ⟨s, hs, rfl⟩ := List.mem_map.mp hx
  rw [String.toList_append] at hc
  exact (plainText_append.mpr ⟨by decide, hu.segments ss hpath s hs⟩) c hc

/-- **A URL with plain parts, a path of segments, and neither query nor
fragment is written plain.** -/
theorem PlainParts.plainText_serialize {u : Url} {ss : List String} (hu : PlainParts u)
    (hpath : u.path = .segments ss) (hquery : u.query = none) (hfragment : u.fragment = none) :
    PlainText u.serialize.toList := by
  unfold serialize
  simp only [hquery, hfragment, String.toList_append, plainText_append]
  refine ⟨⟨⟨⟨⟨hu.scheme, by decide⟩, ?_⟩, hu.plainText_pathText hpath⟩, plainText_nil⟩,
    plainText_nil⟩
  -- the authority: a host with its user information and port, or the mark
  -- that keeps a path from reading as one
  split
  · next h hh =>
    simp only [String.toList_append, plainText_append]
    refine ⟨⟨⟨by decide, hu.plainText_userinfoText⟩, hu.host h hh⟩, ?_⟩
    split
    · simp only [String.toList_append, plainText_append]
      exact ⟨by decide, plainText_toString _⟩
    · exact plainText_nil
  · split
    · decide
    · exact plainText_nil

end ContentPublish.Url
