import ContentPublish.Proofs.UrlQuery

/-
  A path written on after a URL

  The text of a URL that ends in no slash, followed by `/` and more of a
  path, reads as that URL with its path read on. Each stage of the reader
  before the path stops at `/` as it stops at the end of the text, and the
  path reader goes on from the segments it had read: the last segment of
  the text is followed by a slash where the text had ended, so a `.` or
  `..` there leaves no empty segment behind, and every other segment is
  kept as it was.

  What is stated here:
    1. `Reading.readOnto` — the segments read on from given ones, and
       `Reading.dropEmptyLast` — the segments before an empty last one.
    2. `pathSegments_append_slash`, `path_append_slash`,
       `pathStart_append_slash` — the path reader goes on after a slash from
       what it had read, its empty last segment dropped.
    3. `afterHost_append_slash`, `authority_append_slash`,
       `rootedUrl_append_slash` — an authority or a path from `/` read on:
       `readOn`.
    4. `Reading.stem` and `Reading.readOnSlashes` — what a URL text reads as
       before its last slashes, and that URL read on after them.
    5. `parse_append_segment` — a URL text cut of the slashes that end it,
       followed by `/` and one segment, reads as the URL with that segment
       after its path, less the empty segments those slashes made, or less
       an empty last segment when there were none.
-/

namespace ContentPublish.Url

namespace Reading

/-- The text does not end in a slash of the scheme. -/
def EndsOffSlash (special : Bool) (cs : List Char) : Prop :=
  ∀ c, cs.getLast? = some c → isSlash special c = false

theorem EndsOffSlash.suffix {special : Bool} {cs rest : List Char} (h : EndsOffSlash special cs)
    (hsuf : rest <:+ cs) : EndsOffSlash special rest := by
  obtain ⟨pre, rfl⟩ := hsuf
  intro c hc
  exact h c (by rw [List.getLast?_append, hc]; rfl)

/-- A text that ends in neither `/` nor `\` ends in no slash of any scheme. -/
theorem EndsOffSlash.of_special {special : Bool} {cs : List Char} (h : EndsOffSlash true cs) :
    EndsOffSlash special cs := by
  intro c hc
  have := h c hc
  cases special
  · simp only [isSlash, Bool.true_and, Bool.or_eq_false_iff] at this
    simp [isSlash, this.1]
  · exact this

/-- The segments read from `cs` on from the segments `segs`, outside a
`file` URL. -/
def readOnto (special : Bool) (segs : List String) (cs : List Char) : List String :=
  (pathSegments special false [] (cs.length + 1) ⟨segs, false⟩ cs).1.segments

/-- The segments before a last one that is empty. -/
def dropEmptyLast (segs : List String) : List String :=
  if segs.getLast? = some "" then segs.dropLast else segs

@[simp] theorem dropEmptyLast_append_empty (segs : List String) :
    dropEmptyLast (segs ++ [""]) = segs := by
  simp [dropEmptyLast]

theorem dropEmptyLast_append_of_ne {seg : String} (h : seg ≠ "") (segs : List String) :
    dropEmptyLast (segs ++ [seg]) = segs ++ [seg] := by
  simp [dropEmptyLast, h]

@[simp] theorem dropEmptyLast_nil : dropEmptyLast [] = [] := rfl

/-! ## The path reader, one segment at a time -/

/-- More fuel than characters reads the same. -/
theorem pathSegments_fuel {special file : Bool} {breaks : List Nat} :
    ∀ (n m : Nat) (st : PathState) (cs : List Char), cs.length < n → cs.length < m →
      pathSegments special file breaks n st cs = pathSegments special file breaks m st cs
  | 0, _, _, _, hn, _ => absurd hn (Nat.not_lt_zero _)
  | _ + 1, 0, _, _, _, hm => absurd hm (Nat.not_lt_zero _)
  | n + 1, m + 1, st, cs, hn, hm => by
    rw [pathSegments_succ, pathSegments_succ]
    dsimp only
    split
    · next hslash =>
      -- a slash follows the segment, so what is left after it is shorter
      have hlen : ((cs.drop (segmentChars special cs).length).drop 1).length < cs.length := by
        cases hrest : cs.drop (segmentChars special cs).length with
        | nil => simp [hrest, slashNext] at hslash
        | cons c r =>
          simp only [List.drop_succ_cons, List.drop_zero]
          exact length_lt_of_drop_eq_cons hrest
      exact pathSegments_fuel n m _ _ (by omega) (by omega)
    · rfl

/-- Outside a `file` URL a segment leaves the drive as it was. -/
theorem readSegment_drive {split slash : Bool} (st : PathState) (raw : List Char) :
    (readSegment false split slash st raw).drive = st.drive := by
  unfold readSegment
  simp only [Bool.false_and, Bool.false_eq_true, if_false]
  split_ifs <;> rfl

/-- **A segment followed by a slash** is read as at the end of the text, with
the empty last segment that a `.` or `..` leaves there dropped. A segment
that is not empty is escaped to one that is not empty, so it stays. -/
theorem readSegment_slash {split : Bool} {st : PathState} {raw : List Char} (hraw : raw ≠ []) :
    readSegment false split true st raw =
      ⟨dropEmptyLast (readSegment false split false st raw).segments, st.drive⟩ := by
  have hseg : String.ofList (encodeWith pathSet raw) ≠ "" := by
    rw [Ne, show "" = String.ofList [] from rfl, String.ofList_inj, encodeWith_eq_nil_iff]
    exact hraw
  unfold readSegment
  simp only [Bool.false_and, Bool.false_eq_true, if_false, if_true]
  split_ifs
  · rw [dropEmptyLast_append_empty]
  · rw [dropEmptyLast_append_empty]
  · rw [dropEmptyLast_append_of_ne hseg]

theorem segmentChars_append_slash (special : Bool) (cs q : List Char) :
    segmentChars special (cs ++ '/' :: q) = segmentChars special cs :=
  takeWhile_append_of_stop _ (by simp [isSlash])

/-- **Reading on after a slash.** A text with no mark that ends in no slash,
followed by `/` and more, reads the more from the segments of the text,
its empty last segment dropped. -/
theorem pathSegments_append_slash {special : Bool} {q : List Char} :
    ∀ (n m : Nat) (st : PathState) (cs : List Char), cs.length + q.length + 1 < n →
      cs.length < m → NoMark cs → cs ≠ [] → EndsOffSlash special cs →
      pathSegments special false [] n st (cs ++ '/' :: q) =
        pathSegments special false [] (q.length + 1)
          ⟨dropEmptyLast (pathSegments special false [] m st cs).1.segments, st.drive⟩ q
  | 0, _, _, _, hn, _, _, _, _ => absurd hn (Nat.not_lt_zero _)
  | _ + 1, 0, _, _, _, hm, _, _, _ => absurd hm (Nat.not_lt_zero _)
  | n + 1, m + 1, st, cs, hn, hm, hcs, hne, hend => by
    rw [pathSegments_succ special false [] n st (cs ++ '/' :: q),
      pathSegments_succ special false [] m st cs]
    dsimp only
    have hk : (segmentChars special cs).length ≤ cs.length := length_takeWhile_le
    rw [segmentChars_append_slash, drop_takeWhile_append _ hk]
    simp only [List.contains_nil]
    -- the segment ends the text, or a slash follows it within the text
    cases hrest : cs.drop (segmentChars special cs).length with
    | nil =>
      have hall : segmentChars special cs = cs :=
        (List.takeWhile_prefix _).eq_of_length (Nat.le_antisymm hk (List.drop_eq_nil_iff.mp hrest))
      have hslash : isSlash special '/' = true := by simp [isSlash]
      simp only [slashNext, hslash, if_true, Bool.false_eq_true, if_false, List.nil_append,
        List.drop_succ_cons, List.drop_zero, hall]
      rw [readSegment_slash hne, pathSegments_fuel n (q.length + 1) _ q (by omega) (by omega)]
    | cons c rest =>
      obtain ⟨hslash, hsuf, hlen⟩ := slash_after_segment hcs hrest
      -- the text goes on after the slash, so that slash is not its last character
      have hrne : rest ≠ [] := by
        rintro rfl
        have hlast : cs.getLast? = some c := by
          rw [← List.take_append_drop (segmentChars special cs).length cs, hrest,
            List.getLast?_append]
          rfl
        rw [hend c hlast] at hslash
        cases hslash
      simp only [slashNext, hslash, if_true, List.cons_append, List.drop_succ_cons, List.drop_zero]
      rw [pathSegments_append_slash n m _ rest (by omega) (by omega) (hcs.subset hsuf.subset) hrne
        (hend.suffix hsuf), readSegment_drive]

/-- A path read from a text with no mark that ends in no slash, with `/` and
more after it, is read on from the segments of the text. -/
theorem path_append_slash {special : Bool} {cs q : List Char} (hcs : NoMark cs) (hne : cs ≠ [])
    (hend : EndsOffSlash special cs) :
    (path special false [] (cs ++ '/' :: q)).1.segments =
      readOnto special (dropEmptyLast (path special false [] cs).1.segments) q := by
  unfold path readOnto
  rw [pathSegments_append_slash _ (cs.length + 1) _ cs (by simp) (by omega) hcs hne hend]

/-- A slash that starts a text which ends in no slash is followed by more. -/
theorem ne_nil_of_slash_cons {special : Bool} {c : Char} {rest : List Char}
    (hend : EndsOffSlash special (c :: rest)) (hc : isSlash special c = true) : rest ≠ [] := by
  rintro rfl
  rw [hend c rfl] at hc
  cases hc

/-- **The path after an authority, read on after a slash.** Under a special
scheme a text with no path reads as `/`, whose empty segment is dropped;
under another scheme it has no segment. -/
theorem pathStart_append_slash {special : Bool} {R q : List Char} (hR : NoMark R)
    (hend : EndsOffSlash special R) :
    (pathStart special false [] (R ++ '/' :: q)).1.segments =
      readOnto special (dropEmptyLast (pathStart special false [] R).1.segments) q := by
  rcases R with _ | ⟨c, rest⟩
  · cases special with
    | true =>
      have hroot : (pathStart true false [] []).1.segments = [""] := by decide +kernel
      rw [hroot, show dropEmptyLast [""] = [] by simp [dropEmptyLast]]
      rfl
    | false => rfl
  · cases special with
    | true =>
      simp only [pathStart, if_true, List.cons_append]
      by_cases hc : isSlash true c = true
      · rw [if_pos hc, if_pos hc]
        exact path_append_slash hR.tail (ne_nil_of_slash_cons hend hc)
          (hend.suffix (List.suffix_cons c rest))
      · rw [if_neg hc, if_neg hc]
        exact path_append_slash hR (List.cons_ne_nil _ _) hend
    | false =>
      by_cases hc : c = '/'
      · subst hc
        exact path_append_slash hR.tail (ne_nil_of_slash_cons hend (by simp [isSlash]))
          (hend.suffix (List.suffix_cons '/' rest))
      · -- the first character is neither a slash nor a mark, so a path starts there
        have hpath := @path_append_slash false (c :: rest) q hR (List.cons_ne_nil _ _) hend
        have hmark := hR c List.mem_cons_self
        simp only [pathStart, Bool.false_eq_true, if_false, List.cons_append]
        split <;> simp_all

/-! ## Whole URLs read on -/

theorem NoMark.append_slash {cs q : List Char} (hcs : NoMark cs) (hq : NoMark q) :
    NoMark (cs ++ '/' :: q) := by
  intro c hc
  rcases List.mem_append.mp hc with hc | hc
  · exact hcs c hc
  · rcases List.mem_cons.mp hc with rfl | hc
    · decide
    · exact hq c hc

/-- The URL with its path read on after a slash: the segments read from `q`
on from its own, an empty last one dropped. A URL that cannot be a base
stays as it is. -/
def readOn (q : List Char) (u : Url) : Url :=
  match u.path with
  | .segments segs =>
    { u with path := .segments (readOnto (isSpecialScheme u.scheme) (dropEmptyLast segs) q) }
  | .flat _ => u

theorem afterHost_append_slash {scheme user : String} {password : Option String} {host : Host}
    {R q : List Char} (hR : NoMark R) (hend : EndsOffSlash (isSpecialScheme scheme) R)
    (hq : NoMark q) :
    afterHost scheme user password host (R ++ '/' :: q) =
      (afterHost scheme user password host R).map (readOn q) := by
  unfold afterHost
  rw [portAfterHost_append_stop _ (.inl rfl)]
  cases hport : portAfterHost scheme R with
  | error e => rfl
  | ok pr =>
    obtain ⟨pv, r⟩ := pr
    have hsuf := portAfterHost_rest_suffix hport
    have hr : NoMark r := hR.subset hsuf.subset
    simp only [Except.map]
    rw [pathStart_append_slash hr (hend.suffix hsuf), pathStart_ends (hr.append_slash hq),
      pathStart_ends hr]
    rfl

/-- The user information `@` alone, followed by a stop, is refused. -/
theorem userinfo_lone_at_stop {special : Bool} {c : Char} (hc : c = '/' ∨ c = '?') (q : List Char) :
    userinfo special ('@' :: c :: q) = .error .emptyHost := by
  rcases hc with rfl | rfl <;> cases special <;> rfl

/-- **An authority read on after a slash**, unless it is a lone `@` under a
scheme that is not special: under a special scheme that one is refused
either way, for its empty host. -/
theorem authority_append_slash {scheme : String} {cs q : List Char} (hcs : NoMark cs)
    (hend : EndsOffSlash (isSpecialScheme scheme) cs)
    (hat : cs ≠ ['@'] ∨ isSpecialScheme scheme = true) (hq : NoMark q) :
    authority scheme (cs ++ '/' :: q) = (authority scheme cs).map (readOn q) := by
  by_cases hlone : cs = ['@']
  · subst hlone
    have hsp : isSpecialScheme scheme = true := hat.resolve_left fun h => h rfl
    rw [authority_eq, authority_eq]
    unfold hostPart
    simp only [List.cons_append, List.nil_append]
    rw [hsp, userinfo_lone_at_stop (.inl rfl)]
    rfl
  · rw [authority_eq, authority_eq, hostPart_append_stop (.inl rfl) hlone]
    cases hpart : hostPart scheme cs with
    | error e => rfl
    | ok r =>
      obtain ⟨user, password, host, rest⟩ := r
      have hsuf := hostPart_rest_suffix hpart
      exact afterHost_append_slash (hcs.subset hsuf.subset) (hend.suffix hsuf) hq

/-- **A path from `/` read on after a slash**, under a scheme that is
neither `file` nor special. -/
theorem rootedUrl_append_slash {scheme : String} {rest q : List Char}
    (hsp : isSpecialScheme scheme = false) (hrest : NoMark rest) (hend : EndsOffSlash false rest)
    (hq : NoMark q) :
    rootedUrl scheme (rest ++ '/' :: q) = readOn q (rootedUrl scheme rest) := by
  unfold rootedUrl readOn
  dsimp only
  rw [pathStart_append_slash hrest hend, pathStart_ends (hrest.append_slash hq),
    pathStart_ends hrest, hsp]

/-! ## What a text stands for when a path goes on after it -/

/-- What follows the colon of a scheme other than `file`, read as the start
of a longer path: as it reads alone, except that nothing at all, under a
scheme that is not special, starts a path from `/`. -/
def stem (scheme : String) (rest : List Char) : Except ParseError Url :=
  if isSpecialScheme scheme then authority scheme (rest.dropWhile (isSlash true))
  else
    match rest with
    | [] => .ok (rootedUrl scheme [])
    | _ => otherUrl scheme rest

/-- Slashes that lead a text which ends in none are dropped before what
follows it. -/
theorem dropWhile_slash_append {rest : List Char} (hne : rest ≠ []) (hend : EndsOffSlash true rest)
    (l : List Char) :
    (rest ++ l).dropWhile (isSlash true) = rest.dropWhile (isSlash true) ++ l := by
  rw [List.dropWhile_append, if_neg]
  intro hnil
  -- every character would be a slash, the last one too
  have hall := List.dropWhile_eq_nil_iff.mp (List.isEmpty_iff.mp hnil)
  obtain ⟨c, hc⟩ : ∃ c, rest.getLast? = some c := Option.isSome_iff_exists.mp (by simpa using hne)
  have hlast := hall c (List.mem_of_getLast? hc)
  rw [hend c hc] at hlast
  cases hlast

/-- **An authority under a special scheme read on after a slash.** -/
theorem authority_dropWhile_append_slash {scheme : String} {rest q : List Char}
    (hsp : isSpecialScheme scheme = true) (hrest : NoMark rest) (hne : rest ≠ [])
    (hend : EndsOffSlash true rest) (hq : NoMark q) :
    authority scheme ((rest ++ '/' :: q).dropWhile (isSlash true)) =
      (stem scheme rest).map (readOn q) := by
  have hsuf : rest.dropWhile (isSlash true) <:+ rest := List.dropWhile_suffix _
  unfold stem
  rw [dropWhile_slash_append hne hend, if_pos hsp]
  exact authority_append_slash (hrest.subset hsuf.subset) (hsp ▸ hend.suffix hsuf) (.inr hsp) hq

/-- **What follows the colon of another scheme read on after a slash**:
nothing, before a path that does not start with a slash; or a path from
`/`, or an authority after `//` that is not a lone `@`. -/
theorem otherUrl_append_slash {scheme : String} {rest q : List Char}
    (hsp : isSpecialScheme scheme = false) (hrest : NoMark rest) (hend : EndsOffSlash false rest)
    (hq : NoMark q)
    (hstart : (rest = [] ∧ q.head? ≠ some '/') ∨ (rest.head? = some '/' ∧ rest ≠ ['/', '/', '@'])) :
    otherUrl scheme (rest ++ '/' :: q) = (stem scheme rest).map (readOn q) := by
  unfold stem
  rw [hsp]
  simp only [Bool.false_eq_true, if_false]
  rcases hstart with ⟨rfl, hqh⟩ | ⟨hhead, hat⟩
  · -- a path from `/` starts with the slash
    have hroot := rootedUrl_append_slash hsp hrest hend hq
    rcases q with _ | ⟨d, q⟩
    · exact congrArg Except.ok hroot
    · have hd : d ≠ '/' := fun h => hqh (by rw [h]; rfl)
      rw [List.nil_append, otherUrl_slash_of_ne_slash hd]
      exact congrArg Except.ok hroot
  · obtain ⟨r, rfl⟩ : ∃ r, rest = '/' :: r := by
      rcases rest with _ | ⟨c, r⟩
      · cases hhead
      · exact ⟨r, by rw [Option.some.inj hhead]⟩
    rcases r with _ | ⟨d, more⟩
    · exact absurd (hend '/' rfl) (by simp [isSlash])
    · by_cases hd : d = '/'
      · -- an authority follows `//`
        subst hd
        have hmore : more ≠ [] := ne_nil_of_slash_cons (hend.suffix (List.suffix_cons '/' _))
          (by simp [isSlash])
        have hat' : more ≠ ['@'] := fun h => hat (by rw [h])
        exact authority_append_slash (fun x hx => hrest x (by simp [hx]))
          (hsp ▸ hend.suffix ((List.suffix_cons '/' more).trans (List.suffix_cons '/' _))) (.inl hat') hq
      · simp only [List.cons_append]
        rw [otherUrl_slash_of_ne_slash hd, otherUrl_slash_of_ne_slash hd]
        exact congrArg Except.ok (rootedUrl_append_slash hsp hrest hend hq)

/-! ## Reading on through slashes and one segment -/

/-- The characters of one segment that reads as itself: plain, with no slash
or backslash, and escaped to neither `.` nor `..`. -/
structure SegmentText (seg : List Char) : Prop where
  plain : PlainText seg
  noSlash : ∀ c ∈ seg, isSlash true c = false
  notSingleDot : isSingleDot (String.ofList (encodeWith pathSet seg)) = false
  notDoubleDot : isDoubleDot (String.ofList (encodeWith pathSet seg)) = false

/-- A segment that is neither `.` nor `..` is added escaped. -/
theorem readSegment_of_not_dot {split slash : Bool} {st : PathState} {raw : List Char}
    (hsingle : isSingleDot (String.ofList (encodeWith pathSet raw)) = false)
    (hdouble : isDoubleDot (String.ofList (encodeWith pathSet raw)) = false) :
    readSegment false split slash st raw =
      ⟨st.segments ++ [String.ofList (encodeWith pathSet raw)], st.drive⟩ := by
  unfold readSegment
  simp only [Bool.false_and, Bool.false_eq_true, if_false, hsingle, hdouble]

theorem segmentText_nil : SegmentText [] :=
  ⟨nofun, nofun, by decide +kernel, by decide +kernel⟩

/-- A text with no slash and no mark is read as one segment at the end. -/
theorem pathSegments_one {special : Bool} {n : Nat} {st : PathState} {raw : List Char}
    (hraw : ∀ c ∈ raw, (isSlash special c || c == '?' || c == '#') = false) :
    pathSegments special false [] (n + 1) st raw = (readSegment false false false st raw, []) := by
  have hall : segmentChars special raw = raw :=
    List.takeWhile_eq_self_iff.mpr fun c hc => by simp [hraw c hc]
  rw [pathSegments_succ]
  dsimp only
  rw [hall, List.drop_length]
  rfl

/-- **A segment read on.** -/
theorem readOnto_segment {special : Bool} (segs : List String) {seg : List Char}
    (hseg : SegmentText seg) :
    readOnto special segs seg = segs ++ [String.ofList (encodeWith pathSet seg)] := by
  have hraw : ∀ c ∈ seg, (isSlash special c || c == '?' || c == '#') = false := by
    intro c hc
    have hmark := PlainText.noMark hseg.plain c hc
    have hslash : isSlash special c = false := by
      cases special
      · have := hseg.noSlash c hc
        simp only [isSlash, Bool.true_and, Bool.or_eq_false_iff] at this
        simp [isSlash, this.1]
      · exact hseg.noSlash c hc
    simp [hslash, hmark.1, hmark.2]
  unfold readOnto
  rw [pathSegments_one hraw, readSegment_of_not_dot hseg.notSingleDot hseg.notDoubleDot]

/-- Nothing read on is one empty segment. -/
theorem readOnto_nil (special : Bool) (segs : List String) : readOnto special segs [] = segs ++ [""] :=
  readOnto_segment segs segmentText_nil

/-- A slash read on closes an empty segment. -/
theorem readOnto_slash_cons (special : Bool) (segs : List String) (q : List Char) :
    readOnto special segs ('/' :: q) = readOnto special (segs ++ [""]) q := by
  have hslash : isSlash special '/' = true := by simp [isSlash]
  unfold readOnto
  rw [List.length_cons, pathSegments_succ]
  dsimp only
  have hnil : segmentChars special ('/' :: q) = [] :=
    List.takeWhile_cons_of_neg (by simp [hslash])
  simp only [hnil, List.length_nil, List.drop_zero, slashNext, hslash, if_true, List.drop_succ_cons]
  rw [readSegment_of_not_dot segmentText_nil.notSingleDot segmentText_nil.notDoubleDot]
  rfl

/-- **Slashes read on** close as many empty segments, and one more. -/
theorem readOnto_replicate (special : Bool) (j : Nat) (segs : List String) :
    readOnto special segs (List.replicate j '/') = segs ++ List.replicate (j + 1) "" := by
  induction j generalizing segs with
  | zero => exact readOnto_nil special segs
  | succ j ih =>
    rw [List.replicate_succ, readOnto_slash_cons, ih, List.append_assoc, List.singleton_append,
      ← List.replicate_succ]

/-! ## Texts followed by slashes -/

theorem readOn_segments {q : List Char} {u : Url} {segs : List String} (h : u.path = .segments segs) :
    readOn q u =
      { u with path := .segments (readOnto (isSpecialScheme u.scheme) (dropEmptyLast segs) q) } := by
  unfold readOn
  rw [h]

theorem readOn_flat {q : List Char} {u : Url} {text : String} (h : u.path = .flat text) :
    readOn q u = u := by
  unfold readOn
  rw [h]

theorem afterHost_host {scheme user : String} {password : Option String} {host : Host}
    {R : List Char} {u : Url} (h : afterHost scheme user password host R = .ok u) :
    u.host = some host := by
  unfold afterHost at h
  split at h
  · cases h
  · cases h
    rfl

/-- The host an authority reads is the one its host part reads. -/
theorem afterHost_host' {scheme : String} {cs R : List Char} {user : String}
    {password : Option String} {host : Host} {u : Url}
    (hpart : hostPart scheme cs = .ok (user, password, host, R)) (h : authority scheme cs = .ok u) :
    u.host = some host := by
  rw [authority_eq, hpart] at h
  exact afterHost_host h

/-- Under a scheme that is not special, slashes alone are an empty host. -/
theorem hostPart_other_replicate {scheme : String} (hsp : isSpecialScheme scheme = false) (n : Nat) :
    hostPart scheme (List.replicate n '/') = .ok ("", none, .domain "", List.replicate n '/') := by
  unfold hostPart
  rw [hsp]
  cases n <;> rfl

/-- Under a scheme that is not special, a lone `@` is an empty host. -/
theorem hostPart_other_lone_at {scheme : String} (hsp : isSpecialScheme scheme = false) :
    hostPart scheme ['@'] = .ok ("", none, .domain "", []) := by
  unfold hostPart
  rw [hsp]
  rfl

theorem authority_lone_at_slash (scheme : String) (q : List Char) :
    authority scheme ('@' :: '/' :: q) = .error .emptyHost := by
  rw [authority_eq]
  unfold hostPart
  rw [userinfo_lone_at_stop (.inl rfl)]

/-- Under a special scheme nothing is an empty host, which is refused. -/
theorem authority_special_nil {scheme : String} (hsp : isSpecialScheme scheme = true) :
    authority scheme [] = .error .emptyHost := by
  rw [authority_eq]
  unfold hostPart
  rw [hsp]
  rfl

theorem otherUrl_flat {scheme : String} {c : Char} {r : List Char} {u : Url} (hc : c ≠ '/')
    (h : otherUrl scheme (c :: r) = .ok u) : ∃ text, u.path = .flat text := by
  rw [otherUrl_of_ne_slash hc] at h
  cases h
  exact ⟨_, rfl⟩

theorem noMark_replicate (k : Nat) : NoMark (List.replicate k '/') := by
  intro c hc
  rw [List.eq_of_mem_replicate hc]
  decide

/-- A URL read on through the slashes after the first of `k`, or as it is
when there are none. -/
def readOnSlashes (k : Nat) (u : Url) : Url :=
  match k with
  | 0 => u
  | j + 1 => readOn (List.replicate j '/') u

/-- Reading on changes only the path. -/
theorem readOnSlashes_with_path (k : Nat) (T : Url) (P : UrlPath) :
    { readOnSlashes k T with path := P } = { T with path := P } := by
  cases k with
  | zero => rfl
  | succ j =>
    cases hp : T.path with
    | flat text => rw [readOnSlashes, readOn_flat hp]
    | segments ts => rw [readOnSlashes, readOn_segments hp]

/-- The path of a URL read on through slashes: the path of the URL it was
read from when there are none, and otherwise that path without an empty
last segment, then as many empty segments as there were slashes. -/
theorem readOnSlashes_path {k : Nat} {T : Url} {ss : List String}
    (h : (readOnSlashes k T).path = .segments ss) :
    ∃ ts, T.path = .segments ts ∧ (k = 0 → ss = ts) ∧
      (0 < k → ss = dropEmptyLast ts ++ List.replicate k "") := by
  cases hp : T.path with
  | flat text =>
    -- a URL that cannot be a base is not read on
    cases k with
    | zero => rw [readOnSlashes, hp] at h; cases h
    | succ j => rw [readOnSlashes, readOn_flat hp, hp] at h; cases h
  | segments ts =>
    refine ⟨ts, rfl, fun hk => ?_, fun hk => ?_⟩
    · subst hk
      rw [readOnSlashes, hp] at h
      cases h
      rfl
    · obtain ⟨j, rfl⟩ : ∃ j, k = j + 1 := ⟨k - 1, by omega⟩
      rw [readOnSlashes, readOn_segments hp, readOnto_replicate] at h
      cases h
      rfl

/-- The reading of a text followed by `k` slashes, from the stem it stands
for: the stem itself when `k` is `0`, and otherwise the stem read on
through the slashes after the first. -/
theorem exists_stem_of_replicate {f : List Char → Except ParseError Url}
    {st : Except ParseError Url} {rest : List Char} {k : Nat} {u : Url}
    (hzero : k = 0 → f rest = st)
    (hsucc : ∀ j, k = j + 1 → f (rest ++ '/' :: List.replicate j '/') =
      st.map (readOn (List.replicate j '/')))
    (hu : f (rest ++ List.replicate k '/') = .ok u) :
    ∃ T, st = .ok T ∧ u = readOnSlashes k T := by
  cases k with
  | zero =>
    rw [List.replicate_zero, List.append_nil, hzero rfl] at hu
    exact ⟨u, hu, rfl⟩
  | succ j =>
    rw [List.replicate_succ, hsucc j rfl] at hu
    cases hst : st with
    | error e =>
      rw [hst] at hu
      cases hu
    | ok T =>
      rw [hst] at hu
      exact ⟨T, rfl, (Except.ok.inj hu).symm⟩

/-- **Under a special scheme**, what follows the colon, read with slashes
after it and with `/` and more after it. -/
theorem exists_stem_special {scheme : String} {rest q : List Char} {k : Nat} {u : Url}
    (hsp : isSpecialScheme scheme = true) (hrest : NoMark rest) (hend : EndsOffSlash true rest)
    (hq : NoMark q)
    (hu : authority scheme ((rest ++ List.replicate k '/').dropWhile (isSlash true)) = .ok u) :
    ∃ T, authority scheme ((rest ++ '/' :: q).dropWhile (isSlash true)) = .ok (readOn q T) ∧
      u = readOnSlashes k T := by
  -- slashes alone leave no host
  have hne : rest ≠ [] := by
    rintro rfl
    have hnil : (List.replicate k '/').dropWhile (isSlash true) = [] :=
      List.dropWhile_eq_nil_iff.mpr fun c hc => by rw [List.eq_of_mem_replicate hc]; rfl
    rw [List.nil_append, hnil, authority_special_nil hsp] at hu
    cases hu
  obtain ⟨T, hT, hU⟩ := @exists_stem_of_replicate
    (fun r => authority scheme (r.dropWhile (isSlash true))) (stem scheme rest) rest k u
    (fun _ => by unfold stem; rw [if_pos hsp])
    (fun j _ => authority_dropWhile_append_slash hsp hrest hne hend (noMark_replicate j)) hu
  refine ⟨T, ?_, hU⟩
  rw [authority_dropWhile_append_slash hsp hrest hne hend hq, hT]
  rfl

/-- **Under a scheme that is neither `file` nor special**, what follows the
colon, read with slashes after it and with `/` and more after it, when the
first reads as a URL that can be a base and has no empty host. -/
theorem exists_stem_other {scheme : String} {rest q : List Char} {k : Nat} {u : Url}
    {ss : List String} (hsp : isSpecialScheme scheme = false) (hrest : NoMark rest)
    (hend : EndsOffSlash true rest) (hq : NoMark q) (hqhead : q.head? ≠ some '/')
    (hu : otherUrl scheme (rest ++ List.replicate k '/') = .ok u) (hpath : u.path = .segments ss)
    (hhost : u.host ≠ some (.domain "")) :
    ∃ T, otherUrl scheme (rest ++ '/' :: q) = .ok (readOn q T) ∧ u = readOnSlashes k T := by
  have hendOther : EndsOffSlash false rest := hend.of_special
  have hroot : stem scheme [] = .ok (rootedUrl scheme []) := by
    unfold stem
    rw [hsp]
    rfl
  rcases rest with _ | ⟨c, r⟩
  · -- nothing after the colon: one slash starts a path from `/`, two an empty host
    rcases k with _ | _ | j
    · cases hu
      cases hpath
    · have hone := @otherUrl_append_slash scheme [] [] hsp hrest hendOther nofun (.inl ⟨rfl, nofun⟩)
      rw [hroot] at hone
      refine ⟨rootedUrl scheme [], ?_, ?_⟩
      · rw [otherUrl_append_slash hsp hrest hendOther hq (.inl ⟨rfl, hqhead⟩), hroot]
        rfl
      · have hsame : otherUrl scheme ([] ++ List.replicate 1 '/') = .ok (readOn [] (rootedUrl scheme [])) :=
          hone
        rw [hsame] at hu
        exact (Except.ok.inj hu).symm
    · exact absurd (afterHost_host' (hostPart_other_replicate hsp j) hu) hhost
  · by_cases hc : c = '/'
    · subst hc
      rcases r with _ | ⟨d, more⟩
      · exact absurd (hendOther '/' rfl) (by simp [isSlash])
      · by_cases hat : '/' :: d :: more = ['/', '/', '@']
        · -- a lone `@` is an empty host, and is refused with slashes after it
          simp only [List.cons.injEq, true_and] at hat
          obtain ⟨rfl, rfl⟩ := hat
          rcases k with _ | j
          · exact absurd (afterHost_host' (hostPart_other_lone_at hsp) hu) hhost
          · rw [List.replicate_succ] at hu
            exact absurd ((authority_lone_at_slash scheme _).symm.trans hu) nofun
        · obtain ⟨T, hT, hU⟩ := @exists_stem_of_replicate (otherUrl scheme)
            (stem scheme ('/' :: d :: more)) ('/' :: d :: more) k u
            (fun _ => by unfold stem; rw [hsp]; rfl)
            (fun j _ => otherUrl_append_slash hsp hrest hendOther (noMark_replicate j) (.inr ⟨rfl, hat⟩))
            hu
          refine ⟨T, ?_, hU⟩
          rw [otherUrl_append_slash hsp hrest hendOther hq (.inr ⟨rfl, hat⟩), hT]
          rfl
    · -- an opaque path
      obtain ⟨text, htext⟩ := otherUrl_flat hc hu
      rw [hpath] at htext
      cases htext

/-- A `file` URL is read with the scheme `file`. -/
theorem file_scheme {br : List Nat} {cs : List Char} {u : Url} (h : file br cs = .ok u) :
    u.scheme = "file" := by
  unfold file at h
  dsimp only at h
  split at h <;> split_ifs at h
  all_goals
    first
      | (cases h; rfl)
      | split at h
        · cases h
        · cases h
          split_ifs <;> rfl

end Reading

open Reading

/-- A text of characters above U+0020 is read by its scheme, with nothing
cut from it. -/
theorem parse_of_visible {s : String} (hs : ∀ c ∈ s.toList, 0x20 < c.toNat) :
    parse s =
      match scheme? s.toList with
      | none => .error .relativeUrlWithoutBase
      | some (scheme, rest) =>
        if scheme == "file" then file [] rest
        else if isSpecialScheme scheme then authority scheme (rest.dropWhile (isSlash true))
        else otherUrl scheme rest := by
  have h := parse_eq s
  rw [clean_of_visible hs, trimmed_of_visible hs, breaks_of_visible hs] at h
  exact h

/-- A visible text followed by visible characters is visible. -/
theorem visible_append_ofList {t : String} {cs : List Char} (ht : ∀ c ∈ t.toList, 0x20 < c.toNat)
    (hcs : ∀ c ∈ cs, 0x20 < c.toNat) : ∀ c ∈ (t ++ String.ofList cs).toList, 0x20 < c.toNat := by
  simp only [String.toList_append, String.toList_ofList, List.mem_append]
  rintro c (hc | hc)
  · exact ht c hc
  · exact hcs c hc

theorem scheme?_append_replicate (cs : List Char) (k : Nat) :
    scheme? (cs ++ List.replicate k '/') =
      (scheme? cs).map fun p => (p.1, p.2 ++ List.replicate k '/') := by
  cases k with
  | zero => simp
  | succ j =>
    rw [List.replicate_succ]
    exact scheme?_append_stop (.inl rfl) cs _

/-- **A plain text that ends in no slash, followed by slashes, and followed
by a segment.** When the text followed by `k` slashes reads as a URL `u`
that can be a base, is not a `file` URL and has no empty host, the text
followed by `/` and a segment reads as `u` with its path the segments
`kept`, then the segment: `kept` is the path of `u` without an empty last
segment when `k` is `0`, and the path of `u` without its last `k` segments,
which are empty, otherwise. -/
theorem parse_append_segment {t : String} {k : Nat} {u : Url} {ss : List String}
    {seg : List Char} (ht : PlainText t.toList) (hend : EndsOffSlash true t.toList)
    (hu : parse (t ++ String.ofList (List.replicate k '/')) = .ok u)
    (hpath : u.path = .segments ss) (hfile : u.scheme ≠ "file")
    (hhost : u.host ≠ some (.domain "")) (hseg : SegmentText seg) :
    ∃ kept, parse (t ++ String.ofList ('/' :: seg)) =
        .ok { u with path := .segments (kept ++ [String.ofList (encodeWith pathSet seg)]) } ∧
      (k = 0 → kept = dropEmptyLast ss) ∧ (0 < k → ss = kept ++ List.replicate k "") := by
  have hvis := visible_of_plainText ht
  have hslashes : ∀ c ∈ List.replicate k '/', 0x20 < c.toNat := fun c hc => by
    rw [List.eq_of_mem_replicate hc]
    decide
  have hsegv : ∀ c ∈ '/' :: seg, 0x20 < c.toNat :=
    List.forall_mem_cons.mpr ⟨by decide, visible_of_plainText hseg.plain⟩
  have hvisk := visible_append_ofList hvis hslashes
  have hvisq := visible_append_ofList hvis hsegv
  rw [parse_of_visible hvisk, String.toList_append, String.toList_ofList,
    scheme?_append_replicate] at hu
  rw [parse_of_visible hvisq, String.toList_append, String.toList_ofList,
    scheme?_append_stop (.inl rfl)]
  cases hsch : scheme? t.toList with
  | none =>
    rw [hsch] at hu
    cases hu
  | some p =>
    obtain ⟨scheme, rest⟩ := p
    rw [hsch, Option.map_some] at hu
    rw [Option.map_some]
    dsimp only at hu ⊢
    have hsuf := scheme?_rest_suffix hsch
    have hrest : NoMark rest := (PlainText.noMark ht).subset hsuf.subset
    have hendr : EndsOffSlash true rest := hend.suffix hsuf
    have hsegm : NoMark seg := PlainText.noMark hseg.plain
    have hhead : seg.head? ≠ some '/' := by
      intro h
      have hslash := hseg.noSlash '/' (List.mem_of_mem_head? h)
      simp [isSlash] at hslash
    -- the `file` reader names its URLs so, which `u` is not
    have hnotfile : (scheme == "file") = false := by
      cases h : scheme == "file"
      · rfl
      · rw [h, if_pos rfl] at hu
        exact absurd (file_scheme hu) hfile
    rw [hnotfile, if_neg Bool.false_ne_true] at hu ⊢
    obtain ⟨T, hT, hU⟩ : ∃ T, (if isSpecialScheme scheme = true then
          authority scheme ((rest ++ '/' :: seg).dropWhile (isSlash true))
        else otherUrl scheme (rest ++ '/' :: seg)) = .ok (readOn seg T) ∧ u = readOnSlashes k T := by
      cases hsp : isSpecialScheme scheme with
      | true =>
        rw [hsp, if_pos rfl] at hu
        rw [if_pos rfl]
        exact exists_stem_special hsp hrest hendr hsegm hu
      | false =>
        rw [hsp, if_neg Bool.false_ne_true] at hu
        rw [if_neg Bool.false_ne_true]
        exact exists_stem_other hsp hrest hendr hsegm hhead hu hpath hhost
    rw [hT]
    -- the stem can be a base, as `u` read on from it can
    obtain ⟨ts, hts, hzero, hsucc⟩ := readOnSlashes_path (hU ▸ hpath)
    refine ⟨dropEmptyLast ts, ?_, fun hk => by rw [hzero hk], hsucc⟩
    rw [readOn_segments hts, readOnto_segment _ hseg, hU, readOnSlashes_with_path]

end ContentPublish.Url
