import ContentPublish.Proofs.UrlReading

/-
  A query written after a URL

  The text of a URL that has neither query nor fragment, followed by `?` and
  a query, reads as that URL with the query set. Each stage of the reader
  before the path stops at `?`, and at `/`, as it stops at the end of the
  text, so it reads the URL's text alike and leaves the rest over; after `?`
  the rest becomes the URL's query. The text of the URL is plain, so nothing
  is trimmed or dropped from it, and it holds no `?` or `#` before the
  query.

  One text is read otherwise: a URL whose authority is a lone `@`, under a
  scheme that is not special, has a host and nothing else once read, but
  followed by a stop its empty user information stands before the stop and
  is refused. Its path has no segment, so a URL whose path has one is not
  affected.

  What is stated here:
    1. `Reading.queryText` — the query kept of the characters after `?`.
    2. Reading stage by stage, followed by `/` or `?`:
       `scheme?_append_stop`, `userinfo_append_stop`, `hostText_append_stop`,
       `port_append_stop`, and `hostPart_append_stop` for the authority up
       to its host; followed by a query: `pathSegments_append_query`,
       `pathStart_append_query`, `authority_append_query`,
       `file_append_query`.
    3. `otherUrl` and `parse_eq` — the reader by scheme, and
       `otherUrl_append_query` for a scheme that is neither `file` nor
       special.
    4. `parse_append_query` — a plain text whose URL has a path of segments
       that is not empty, read with a query after it, is that URL with the
       query; `parse_serialize_append_query` for a URL that reads back from
       its text.
-/

namespace ContentPublish.Url

/-! ## Lists read up to a stop -/

section Stop

variable {α : Type} {p : α → Bool} {a : α} {l rest : List α}

theorem takeWhile_append_of_stop (p : α → Bool) (ha : p a = false) :
    (l ++ a :: rest).takeWhile p = l.takeWhile p := by
  rw [List.takeWhile_append]
  split
  · next hlen =>
    rw [List.takeWhile_cons_of_neg (by simp [ha]), List.append_nil]
    exact ((List.takeWhile_prefix p).eq_of_length hlen).symm
  · rfl

theorem drop_takeWhile_append (k : Nat) (hk : k ≤ l.length) :
    (l ++ rest).drop k = l.drop k ++ rest :=
  List.drop_append_of_le_length hk

theorem length_takeWhile_le : (l.takeWhile p).length ≤ l.length :=
  (List.takeWhile_prefix p).length_le

/-- What follows the longest run of `p` starts where `p` fails. -/
theorem stop_of_drop_takeWhile : ∀ {l : List α} {c : α} {r : List α},
    l.drop (l.takeWhile p).length = c :: r → p c = false
  | [], _, _, h => by simp at h
  | x :: l, c, r, h => by
    by_cases hx : p x = true
    · rw [List.takeWhile_cons_of_pos hx, List.length_cons, List.drop_succ_cons] at h
      exact stop_of_drop_takeWhile h
    · rw [List.takeWhile_cons_of_neg hx, List.length_nil, List.drop_zero, List.cons.injEq] at h
      rw [← h.1]
      simpa using hx

/-- What follows an element left after a drop is shorter than the list. -/
theorem length_lt_of_drop_eq_cons {k : Nat} (h : l.drop k = a :: rest) : rest.length < l.length := by
  have := congrArg List.length h
  simp only [List.length_drop, List.length_cons] at this
  omega

end Stop

namespace Reading

/-- Characters with no `?` and no `#`. -/
def NoMark (cs : List Char) : Prop := ∀ c ∈ cs, c ≠ '?' ∧ c ≠ '#'

theorem PlainText.noMark {cs : List Char} (h : PlainText cs) : NoMark cs := by
  intro c hc
  have := h c hc
  simp only [plainChar, decide_eq_true_eq] at this
  exact ⟨fun e => this.2.1 (by rw [e]; rfl), fun e => this.2.2 (by rw [e]; rfl)⟩

instance : DecidablePred NoMark := fun cs =>
  decidable_of_iff (cs.all fun c => c != '?' && c != '#') (by simp [NoMark])

theorem NoMark.slash_cons {cs : List Char} (h : NoMark cs) : NoMark ('/' :: cs) := by
  intro c hc
  rcases List.mem_cons.mp hc with rfl | hc
  · decide
  · exact h c hc

theorem NoMark.subset {cs rest : List Char} (h : NoMark cs) (hsub : rest ⊆ cs) : NoMark rest :=
  fun c hc => h c (hsub hc)

theorem NoMark.tail {c : Char} {cs : List Char} (h : NoMark (c :: cs)) : NoMark cs :=
  fun x hx => h x (List.mem_cons_of_mem _ hx)

/-- The characters of a query: above U+0020, and no `#`. -/
def QueryChars (q : List Char) : Prop := ∀ c ∈ q, 0x20 < c.toNat ∧ c ≠ '#'

/-! ## Nothing is stripped -/

theorem dropWhile_of_forall_false {p : Char → Bool} {l : List Char} (h : ∀ c ∈ l, p c = false) :
    l.dropWhile p = l := by
  cases l with
  | nil => rfl
  | cons c l => exact List.dropWhile_cons_of_neg (by simp [h c List.mem_cons_self])

theorem trimmed_of_visible {s : String} (h : ∀ c ∈ s.toList, 0x20 < c.toNat) :
    trimmed s = s.toList := by
  have hcut : ∀ l : List Char, (∀ c ∈ l, 0x20 < c.toNat) →
      l.dropWhile (fun c => decide (c.toNat ≤ 0x20)) = l := fun l hl =>
    dropWhile_of_forall_false fun c hc => by simpa using hl c hc
  unfold trimmed
  dsimp only
  rw [hcut _ h, hcut _ (by simpa using h), List.reverse_reverse]

theorem not_isTabOrNewline {c : Char} (h : 0x20 < c.toNat) : isTabOrNewline c = false := by
  simp only [isTabOrNewline, Bool.or_eq_false_iff, beq_eq_false_iff_ne]
  refine ⟨⟨?_, ?_⟩, ?_⟩ <;> (intro e; rw [e] at h; revert h; decide)

/-- **A text of characters above U+0020 is read as it stands.** -/
theorem clean_of_visible {s : String} (h : ∀ c ∈ s.toList, 0x20 < c.toNat) : clean s = s.toList := by
  unfold clean
  rw [trimmed_of_visible h, List.filter_eq_self]
  intro c hc
  simp [not_isTabOrNewline (h c hc)]

theorem breaks_of_visible : ∀ {cs : List Char}, (∀ c ∈ cs, 0x20 < c.toNat) → breaks cs = []
  | [], _ => rfl
  | c :: cs, h => by
    rw [breaks, not_isTabOrNewline (h c List.mem_cons_self)]
    exact breaks_of_visible fun x hx => h x (List.mem_cons_of_mem c hx)

/-! ## Reading stage by stage -/

theorem scheme?_append_stop {c : Char} (hc : c = '/' ∨ c = '?') (cs q : List Char) :
    scheme? (cs ++ c :: q) = (scheme? cs).map fun p => (p.1, p.2 ++ c :: q) := by
  cases cs with
  | nil => rcases hc with rfl | rfl <;> rfl
  | cons d cs =>
    have hstop : isSchemeChar c = false := by rcases hc with rfl | rfl <;> rfl
    unfold scheme?
    dsimp only
    rw [takeWhile_append_of_stop _ hstop, drop_takeWhile_append _ length_takeWhile_le,
      List.cons_append]
    by_cases ha : d.isAlpha = true
    · simp only [ha, Bool.not_true, Bool.false_eq_true, if_false]
      -- what follows the name is a colon for both, or for neither
      cases hdrop : List.drop (List.takeWhile isSchemeChar (d :: cs)).length (d :: cs) with
      | nil => rcases hc with rfl | rfl <;> rfl
      | cons e r =>
        by_cases he : e = ':'
        · subst he
          rfl
        · simp [he]
    · simp [ha]

/-- The query a reader keeps of the characters after `?`: each UTF-8 byte
kept, or escaped when the query set of the scheme escapes it. -/
def queryText (special : Bool) (q : List Char) : String :=
  let set := if special then specialQuerySet else querySet
  String.ofList ((q.flatMap String.utf8EncodeChar).flatMap fun b =>
    if b.toNat < 0x80 ∧ set b.toNat = false then [Char.ofNat b.toNat] else escapeByte b.toNat)

theorem queryAndFragment_nil (special : Bool) : queryAndFragment special [] = (none, none) := rfl

theorem queryAndFragment_query (special : Bool) {q : List Char} (hq : QueryChars q) :
    queryAndFragment special ('?' :: q) = (some (queryText special q), none) := by
  have hall : ∀ c ∈ q, (c != '#') = true := fun c hc => by simpa using (hq c hc).2
  simp only [queryAndFragment, queryText, List.takeWhile_eq_self_iff.mpr hall, List.drop_length]

/-- After a segment of a text with no mark, the path reader is at the end of
the text or at a slash, followed by a shorter suffix of the text. -/
theorem slash_after_segment {special : Bool} {cs rest : List Char} {c : Char} (hcs : NoMark cs)
    (hrest : cs.drop (segmentChars special cs).length = c :: rest) :
    isSlash special c = true ∧ rest <:+ cs ∧ rest.length < cs.length := by
  have hc : c ∈ cs := List.mem_of_mem_drop (by rw [hrest]; exact List.mem_cons_self)
  refine ⟨?_, (List.suffix_cons c rest).trans (hrest ▸ List.drop_suffix _ _),
    length_lt_of_drop_eq_cons hrest⟩
  have := stop_of_drop_takeWhile hrest
  simpa [(hcs c hc).1, (hcs c hc).2] using this

theorem pathSegments_append_query {special file : Bool} {q : List Char} :
    ∀ (n m : Nat) (st : PathState) (cs : List Char), cs.length < n → cs.length < m → NoMark cs →
      pathSegments special file [] n st (cs ++ '?' :: q) =
          ((pathSegments special file [] m st cs).1, '?' :: q) ∧
        (pathSegments special file [] m st cs).2 = []
  | 0, _, _, _, hn, _, _ => absurd hn (Nat.not_lt_zero _)
  | _ + 1, 0, _, _, _, hm, _ => absurd hm (Nat.not_lt_zero _)
  | n + 1, m + 1, st, cs, hn, hm, hcs => by
    have hstop : (fun c => !(isSlash special c || c == '?' || c == '#')) '?' = false := by simp
    have hraw : segmentChars special (cs ++ '?' :: q) = segmentChars special cs :=
      takeWhile_append_of_stop _ hstop
    rw [pathSegments_succ, pathSegments_succ]
    dsimp only
    have hk : (segmentChars special cs).length ≤ cs.length := length_takeWhile_le
    rw [hraw, drop_takeWhile_append _ hk]
    simp only [List.contains_nil]
    -- the segment ends the text, or a slash follows it
    cases hrest : cs.drop (segmentChars special cs).length with
    | nil =>
      have hq : isSlash special '?' = false := by cases special <;> rfl
      simp [slashNext, hq]
    | cons c rest =>
      obtain ⟨hslash, hsuf, hlen⟩ := slash_after_segment hcs hrest
      simp only [slashNext, hslash, if_true, List.cons_append, List.drop_succ_cons, List.drop_zero]
      exact pathSegments_append_query n m _ rest (by omega) (by omega) (hcs.subset hsuf.subset)

theorem path_append_query {special file : Bool} {cs q : List Char} (hcs : NoMark cs) :
    path special file [] (cs ++ '?' :: q) = ((path special file [] cs).1, '?' :: q) ∧
      (path special file [] cs).2 = [] :=
  pathSegments_append_query _ _ _ cs
    (by simp only [List.length_append, List.length_cons]; omega) (by omega) hcs

/-- A path read from a text with no mark reads to its end. -/
theorem path_ends {special file : Bool} {cs : List Char} (hcs : NoMark cs) :
    (path special file [] cs).2 = [] :=
  (@path_append_query special file cs [] hcs).2

theorem pathStart_append_query {special file : Bool} {cs q : List Char} (hcs : NoMark cs) :
    pathStart special file [] (cs ++ '?' :: q) = ((pathStart special file [] cs).1, '?' :: q) ∧
      (pathStart special file [] cs).2 = [] := by
  have hq : ∀ sp, isSlash sp '?' = false := fun sp => by cases sp <;> rfl
  cases special with
  | true =>
    cases cs with
    | nil =>
      have h := @path_append_query true file [] q nofun
      simpa [pathStart, hq] using h
    | cons c rest =>
      simp only [pathStart, if_true, List.cons_append]
      split
      · exact path_append_query hcs.tail
      · exact @path_append_query true file (c :: rest) q hcs
  | false =>
    cases cs with
    | nil => exact ⟨rfl, rfl⟩
    | cons c rest =>
      simp only [pathStart, Bool.false_eq_true, if_false, List.cons_append]
      have hc := hcs c List.mem_cons_self
      by_cases hslash : c = '/'
      · subst hslash
        exact path_append_query hcs.tail
      · -- the first character is neither a slash nor a mark, so a path starts there
        have hpath := @path_append_query false file (c :: rest) q hcs
        split <;> simp_all

/-- The user information reads alike; only a lone `@` is followed by the
stop where the text ended, which refuses the empty user information. -/
theorem userinfo_append_stop {special : Bool} {c : Char} (hc : c = '/' ∨ c = '?') {cs q : List Char}
    (hat : cs ≠ ['@']) :
    userinfo special (cs ++ c :: q) =
      (userinfo special cs).map fun r => (r.1, r.2.1, r.2.2 ++ c :: q) := by
  unfold userinfo
  dsimp only
  rw [takeWhile_append_of_stop (fun x => !(x == '/' || x == '?' || x == '#' || (special && x == '\\')))
    (by rcases hc with rfl | rfl <;> simp)]
  set span := List.takeWhile (fun c => !(c == '/' || c == '?' || c == '#' || (special && c == '\\')))
    cs with hspan
  have hle : span.length ≤ cs.length := length_takeWhile_le
  split
  · rfl
  · next fromEnd hidx =>
    have hlt := (List.findIdx?_eq_some_iff_findIdx_eq.mp hidx).1
    rw [List.length_reverse] at hlt
    rw [List.take_append_of_le_length (by omega), drop_takeWhile_append _ (by omega)]
    split_ifs with h0
    · cases hrest : List.drop (span.length - 1 - fromEnd + 1) cs with
      | nil =>
        -- the user information and the whole text are a lone `@`
        exfalso
        have hone : cs.length = 1 := by
          have := List.drop_eq_nil_iff.mp hrest
          omega
        obtain ⟨x, rfl⟩ := List.length_eq_one_iff.mp hone
        have hspanx : span = [x] := by
          have hpre : span <+: [x] := by
            rw [hspan]
            exact List.takeWhile_prefix _
          exact hpre.eq_of_length (by simp only [List.length_singleton]; omega)
        rw [hspanx] at hidx
        have hx : x = '@' := by simpa using (List.findIdx?_eq_some_iff_getElem.mp hidx).2.1
        exact hat (by rw [hx])
      | cons e r =>
        simp only [List.cons_append]
        split_ifs <;> rfl
    · rfl

theorem hostText_append_stop (special : Bool) {c : Char} (hc : c = '/' ∨ c = '?') (q : List Char) :
    ∀ (inBrackets : Bool) (cs : List Char), hostText special inBrackets (cs ++ c :: q) =
      ((hostText special inBrackets cs).1, (hostText special inBrackets cs).2 ++ c :: q)
  | _, [] => by rcases hc with rfl | rfl <;> simp [hostText]
  | inBrackets, d :: cs => by
    simp only [List.cons_append, hostText]
    split
    · rfl
    · rw [hostText_append_stop special hc q _ cs]

theorem port_append_stop (scheme : String) {c : Char} (hc : c = '/' ∨ c = '?') (cs q : List Char) :
    port scheme (cs ++ c :: q) = (port scheme cs).map fun r => (r.1, r.2 ++ c :: q) := by
  unfold port
  dsimp only
  rw [takeWhile_append_of_stop Char.isDigit (by rcases hc with rfl | rfl <;> decide),
    drop_takeWhile_append _ length_takeWhile_le]
  split
  · rfl
  · -- the digits end the text, or a character ends them that ends a port or not
    cases List.drop (List.takeWhile Char.isDigit cs).length cs with
    | nil => rcases hc with rfl | rfl <;> rfl
    | cons d r =>
      simp only [List.cons_append]
      split <;> rfl

theorem pathStart_ends {special file : Bool} {cs : List Char} (hcs : NoMark cs) :
    (pathStart special file [] cs).2 = [] :=
  (@pathStart_append_query special file cs [] hcs).2

theorem userinfo_rest_suffix {special : Bool} {cs rest : List Char} {user : String}
    {password : Option String} (h : userinfo special cs = .ok (user, password, rest)) :
    rest <:+ cs := by
  unfold userinfo at h
  dsimp only at h
  split at h
  · cases h
    exact List.suffix_refl _
  · split_ifs at h
    · split at h
      · split at h
        · cases h
        · cases h
          exact List.drop_suffix _ _
      · cases h
        exact List.drop_suffix _ _
    · cases h
      exact List.drop_suffix _ _

theorem hostText_rest_suffix (special : Bool) :
    ∀ (inBrackets : Bool) (cs : List Char), (hostText special inBrackets cs).2 <:+ cs
  | _, [] => List.suffix_refl _
  | inBrackets, c :: cs => by
    simp only [hostText]
    split
    · exact List.suffix_refl _
    · exact (hostText_rest_suffix special _ cs).trans (List.suffix_cons c cs)

theorem port_rest_suffix {scheme : String} {cs rest : List Char} {value : Option Nat}
    (h : Reading.port scheme cs = .ok (value, rest)) : rest <:+ cs := by
  unfold Reading.port at h
  dsimp only at h
  split at h
  · cases h
  · split at h
    · split at h
      · cases h
        exact List.drop_suffix _ _
      · cases h
    · cases h
      exact List.drop_suffix _ _

/-! ## The authority in stages -/

/-- The port after a host, when a colon follows it. -/
def portAfterHost (scheme : String) (rest : List Char) : Except ParseError (Option Nat × List Char) :=
  match rest with
  | ':' :: more => Reading.port scheme more
  | _ => .ok (none, rest)

/-- The URL from what follows its host: the port, the path, the query and
the fragment. -/
def afterHost (scheme user : String) (password : Option String) (host : Host)
    (rest : List Char) : Except ParseError Url :=
  match portAfterHost scheme rest with
  | .error e => .error e
  | .ok (portValue, rest) =>
    let (st, rest) := pathStart (isSpecialScheme scheme) false [] rest
    let (query, fragment) := queryAndFragment (isSpecialScheme scheme) rest
    .ok { scheme, username := user, password, host := some host, port := portValue,
          path := .segments st.segments, query, fragment }

theorem head?_append_stop_eq_colon {c : Char} (hc : c = '/' ∨ c = '?') (R q : List Char) :
    (R ++ c :: q).head? = some ':' ↔ R.head? = some ':' := by
  cases R with
  | nil => rcases hc with rfl | rfl <;> simp
  | cons d R => simp

/-- The authority up to its host: the user information, the host, and what
follows the host; or why there is no host. -/
def hostPart (scheme : String) (cs : List Char) :
    Except ParseError (String × Option String × Host × List Char) :=
  match userinfo (isSpecialScheme scheme) cs with
  | .error e => .error e
  | .ok (user, password, rest) =>
    let (text, rest) := hostText (isSpecialScheme scheme) false rest
    if isSpecialScheme scheme ∧ text.isEmpty then .error .emptyHost
    else
      match (if isSpecialScheme scheme then Host.parseSpecial text else Host.parseOther text) with
      | .error e => .error e
      | .ok host =>
        if host == .domain "" ∧ ((!user.isEmpty || password.isSome) ∨ rest.head? = some ':') then
          .error .emptyHost
        else .ok (user, password, host, rest)

/-- An authority is read as its host part, then what follows the host. -/
theorem authority_eq (scheme : String) (cs : List Char) :
    authority scheme cs =
      match hostPart scheme cs with
      | .error e => .error e
      | .ok (user, password, host, rest) => afterHost scheme user password host rest := by
  unfold authority hostPart
  dsimp only
  cases userinfo (isSpecialScheme scheme) cs with
  | error e => rfl
  | ok r =>
    obtain ⟨user, password, rest⟩ := r
    dsimp only
    -- the host is read once; its result stands on both sides
    generalize (if isSpecialScheme scheme then Host.parseSpecial (hostText (isSpecialScheme scheme) false rest).1
      else Host.parseOther (hostText (isSpecialScheme scheme) false rest).1) = res
    split_ifs
    · rfl
    · cases res with
      | error e => rfl
      | ok host =>
        dsimp only
        split_ifs <;> rfl

/-- The host part reads alike before a stop, which it leaves over, unless
it is a lone `@`. -/
theorem hostPart_append_stop {scheme : String} {c : Char} (hc : c = '/' ∨ c = '?')
    {cs q : List Char} (hat : cs ≠ ['@']) :
    hostPart scheme (cs ++ c :: q) =
      (hostPart scheme cs).map fun r => (r.1, r.2.1, r.2.2.1, r.2.2.2 ++ c :: q) := by
  unfold hostPart
  rw [userinfo_append_stop hc hat]
  cases userinfo (isSpecialScheme scheme) cs with
  | error e => rfl
  | ok r =>
    obtain ⟨user, password, rest⟩ := r
    simp only [Except.map]
    rw [hostText_append_stop _ hc]
    dsimp only
    simp only [head?_append_stop_eq_colon hc]
    -- the host is read alike, so only what follows it differs
    split_ifs
    · rfl
    all_goals
      split
      · rfl
      · split_ifs <;> rfl

theorem hostPart_rest_suffix {scheme : String} {cs rest : List Char} {user : String}
    {password : Option String} {host : Host}
    (h : hostPart scheme cs = .ok (user, password, host, rest)) : rest <:+ cs := by
  unfold hostPart at h
  cases hu : userinfo (isSpecialScheme scheme) cs with
  | error e =>
    rw [hu] at h
    cases h
  | ok r =>
    obtain ⟨user', password', after⟩ := r
    rw [hu] at h
    dsimp only at h
    split_ifs at h
    all_goals
      split at h
      · cases h
      · split_ifs at h
        cases h
        exact (hostText_rest_suffix _ false after).trans (userinfo_rest_suffix hu)

theorem portAfterHost_append_stop (scheme : String) {c : Char} (hc : c = '/' ∨ c = '?')
    (R q : List Char) :
    portAfterHost scheme (R ++ c :: q) =
      (portAfterHost scheme R).map fun r => (r.1, r.2 ++ c :: q) := by
  unfold portAfterHost
  rcases R with _ | ⟨d, R⟩
  · rcases hc with rfl | rfl <;> rfl
  · by_cases hd : d = ':'
    · subst hd
      exact port_append_stop scheme hc R q
    · simp only [List.cons_append]
      split
      · next more h => exact absurd (List.cons.inj h).1 hd
      · split
        · next more h => exact absurd (List.cons.inj h).1 hd
        · rfl

theorem portAfterHost_rest_suffix {scheme : String} {R r : List Char} {value : Option Nat}
    (h : portAfterHost scheme R = .ok (value, r)) : r <:+ R := by
  unfold portAfterHost at h
  split at h
  · exact (port_rest_suffix h).trans (List.suffix_cons ':' _)
  · cases h
    exact List.suffix_refl _

/-- The query of a URL read from a text. -/
def withQuery (q : List Char) (u : Url) : Url :=
  { u with query := some (queryText (isSpecialScheme u.scheme) q) }

theorem afterHost_append_query {scheme user : String} {password : Option String} {host : Host}
    {R q : List Char} (hR : NoMark R) (hq : QueryChars q) :
    afterHost scheme user password host (R ++ '?' :: q) =
      (afterHost scheme user password host R).map (withQuery q) := by
  unfold afterHost
  rw [portAfterHost_append_stop _ (.inr rfl)]
  cases hport : portAfterHost scheme R with
  | error e => rfl
  | ok pr =>
    obtain ⟨pv, r⟩ := pr
    have hr : NoMark r := hR.subset (portAfterHost_rest_suffix hport).subset
    simp only [Except.map]
    rw [(pathStart_append_query hr).1, pathStart_ends hr, queryAndFragment_query _ hq,
      queryAndFragment_nil]
    rfl

/-- **An authority followed by a query reads alike**, with the query set,
unless it is a lone `@`. -/
theorem authority_append_query {scheme : String} {cs q : List Char} (hcs : NoMark cs)
    (hat : cs ≠ ['@']) (hq : QueryChars q) :
    authority scheme (cs ++ '?' :: q) = (authority scheme cs).map (withQuery q) := by
  rw [authority_eq, authority_eq, hostPart_append_stop (.inr rfl) hat]
  cases hpart : hostPart scheme cs with
  | error e => rfl
  | ok r =>
    obtain ⟨user, password, host, rest⟩ := r
    exact afterHost_append_query (hcs.subset (hostPart_rest_suffix hpart).subset) hq

/-! ## `file` URLs -/

theorem isSlash_query (special : Bool) : isSlash special '?' = false := by
  cases special <;> rfl

/-- **A `file` URL followed by a query reads alike**, with the query set. -/
theorem file_append_query {cs q : List Char} (hcs : NoMark cs) (hq : QueryChars q) :
    file [] (cs ++ '?' :: q) = (file [] cs).map (withQuery q) := by
  rcases cs with _ | ⟨a, _ | ⟨b, rest⟩⟩
  · -- the query follows the colon: the path is `/` alone, as with nothing after the colon
    have hroot := @pathStart_append_query true true ['/'] q (by decide)
    have hsame : pathStart true true [] ['/'] = pathStart true true [] [] := rfl
    simp only [List.cons_append, List.nil_append, hsame] at hroot
    unfold file
    rcases q with _ | ⟨b, q⟩
    · simp only [List.nil_append, isSlash_query, Bool.false_eq_true, if_false, hroot.1, hroot.2,
        queryAndFragment_query _ hq, queryAndFragment_nil]
      rfl
    · simp only [List.nil_append, isSlash_query, Bool.false_eq_true, false_and, if_false,
        hroot.1, hroot.2, queryAndFragment_query _ hq, queryAndFragment_nil]
      rfl
  · -- one character before the query, which is no slash
    have hone := @pathStart_append_query true true [a] q hcs
    have hslashed := @pathStart_append_query true true ['/', a] q hcs.slash_cons
    simp only [List.cons_append, List.nil_append] at hone hslashed
    unfold file
    simp only [List.cons_append, List.nil_append, isSlash_query, Bool.false_eq_true, and_false,
      if_false]
    by_cases ha : isSlash true a = true
    · simp only [ha, if_true, hone.1, hone.2, queryAndFragment_query _ hq, queryAndFragment_nil]
      rfl
    · simp only [ha, Bool.false_eq_true, if_false, hslashed.1, hslashed.2,
        queryAndFragment_query _ hq, queryAndFragment_nil]
      rfl
  · have hrest : NoMark rest := hcs.subset fun x hx => by simp [hx]
    have hall := @pathStart_append_query true true (a :: b :: rest) q hcs
    have hslashed := @pathStart_append_query true true ('/' :: a :: b :: rest) q hcs.slash_cons
    simp only [List.cons_append] at hall hslashed
    unfold file
    simp only [List.cons_append]
    rw [takeWhile_append_of_stop (fun c => !(isSlash true c || c == '?' || c == '#')) (by simp),
      drop_takeWhile_append _ length_takeWhile_le]
    set after := rest.drop (rest.takeWhile fun c => !(isSlash true c || c == '?' || c == '#')).length
    have hafter : NoMark after := hrest.subset (List.drop_subset _ _)
    simp only [(path_append_query hafter).1, path_ends hafter, (pathStart_append_query hrest).1,
      pathStart_ends hrest, hall.1, hall.2, hslashed.1, hslashed.2, queryAndFragment_query _ hq,
      queryAndFragment_nil]
    -- what the host reader returns is rewritten inside its match as well
    rw [(pathStart_append_query hafter).1]
    simp only [pathStart_ends hafter, queryAndFragment_query _ hq, queryAndFragment_nil]
    split_ifs
    all_goals first
      | rfl
      | split
        · rfl
        · split_ifs <;> rfl

/-! ## Other schemes -/

/-- An opaque path under a scheme that is neither `file` nor special, with
the query and fragment after it. -/
def opaqueUrl (scheme : String) (rest : List Char) : Url :=
  let flat := rest.takeWhile fun c => c != '?' && c != '#'
  let (query, fragment) := queryAndFragment false (rest.drop flat.length)
  { scheme, username := "", password := none, host := none, port := none,
    path := .flat (String.ofList (encodeWith controls flat)), query, fragment }

/-- A path from `/` with no authority, under a scheme that is neither `file`
nor special, with the query and fragment after it. -/
def rootedUrl (scheme : String) (rest : List Char) : Url :=
  let (st, after) := pathStart false false [] rest
  let (query, fragment) := queryAndFragment false after
  { scheme, username := "", password := none, host := none, port := none,
    path := .segments st.segments, query, fragment }

/-- A URL under a scheme that is neither `file` nor special, from what
follows its colon: an authority after `//`, a path from `/`, or else an
opaque path. -/
def otherUrl (scheme : String) (rest : List Char) : Except ParseError Url :=
  match rest with
  | '/' :: '/' :: more => authority scheme more
  | '/' :: _ => .ok (rootedUrl scheme rest)
  | _ => .ok (opaqueUrl scheme rest)

/-- A text is read by its scheme: as a `file` URL, as an authority under a
special scheme, or under another scheme. -/
theorem parse_eq (input : String) :
    parse input =
      match scheme? (clean input) with
      | none => .error .relativeUrlWithoutBase
      | some (scheme, rest) =>
        if scheme == "file" then file (breaks (trimmed input)) rest
        else if isSpecialScheme scheme then authority scheme (rest.dropWhile (isSlash true))
        else otherUrl scheme rest := rfl

/-- The authority `@` alone reads, when it reads, as a URL with an empty path. -/
theorem authority_lone_at {scheme : String} {u : Url} (h : authority scheme ['@'] = .ok u) :
    u.path = .segments [] := by
  rw [authority_eq] at h
  unfold hostPart at h
  cases hsp : isSpecialScheme scheme with
  | true =>
    rw [hsp, show userinfo true ['@'] = .ok ("", none, []) by decide] at h
    cases h
  | false =>
    rw [hsp, show userinfo false ['@'] = .ok ("", none, []) by decide] at h
    cases h
    rw [hsp]
    rfl

section Other

variable {scheme : String} {q : List Char}

theorem otherUrl_of_ne_slash {c : Char} (hc : c ≠ '/') (r : List Char) :
    otherUrl scheme (c :: r) = .ok (opaqueUrl scheme (c :: r)) := by
  unfold otherUrl
  split
  · next h => exact absurd (List.cons.inj h).1 hc
  · next h => exact absurd (List.cons.inj h).1 hc
  · rfl

theorem otherUrl_slash_of_ne_slash {d : Char} (hd : d ≠ '/') (r : List Char) :
    otherUrl scheme ('/' :: d :: r) = .ok (rootedUrl scheme ('/' :: d :: r)) := by
  unfold otherUrl
  split
  · next h => exact absurd (List.cons.inj (List.cons.inj h).2).1 hd
  · rfl
  · next h => exact absurd rfl (h _)

theorem opaqueUrl_append_query (hsp : isSpecialScheme scheme = false) {rest : List Char}
    (hrest : NoMark rest) (hq : QueryChars q) :
    opaqueUrl scheme (rest ++ '?' :: q) = withQuery q (opaqueUrl scheme rest) := by
  have hall : rest.takeWhile (fun c => c != '?' && c != '#') = rest :=
    List.takeWhile_eq_self_iff.mpr fun c hc => by simp [(hrest c hc).1, (hrest c hc).2]
  unfold opaqueUrl withQuery
  rw [takeWhile_append_of_stop _ (by simp), hall]
  dsimp only
  rw [List.drop_left, List.drop_length, queryAndFragment_query _ hq, queryAndFragment_nil, hsp]

theorem rootedUrl_append_query (hsp : isSpecialScheme scheme = false) {rest : List Char}
    (hrest : NoMark rest) (hq : QueryChars q) :
    rootedUrl scheme (rest ++ '?' :: q) = withQuery q (rootedUrl scheme rest) := by
  have hends := @pathStart_ends false false rest hrest
  unfold rootedUrl withQuery
  rw [(pathStart_append_query hrest).1]
  rcases hp : pathStart false false [] rest with ⟨st, after⟩
  rw [hp] at hends
  cases hends
  dsimp only
  rw [queryAndFragment_query _ hq, queryAndFragment_nil, hsp]

/-- **What follows the colon of another scheme, followed by a query, reads
alike**, with the query set, unless it is `//@`. -/
theorem otherUrl_append_query (hsp : isSpecialScheme scheme = false) {rest : List Char}
    (hrest : NoMark rest) (hat : rest ≠ ['/', '/', '@']) (hq : QueryChars q) :
    otherUrl scheme (rest ++ '?' :: q) = (otherUrl scheme rest).map (withQuery q) := by
  rcases rest with _ | ⟨c, r⟩
  · exact congrArg Except.ok (opaqueUrl_append_query hsp hrest hq)
  · by_cases hc : c = '/'
    · subst hc
      rcases r with _ | ⟨d, more⟩
      · exact congrArg Except.ok (rootedUrl_append_query hsp hrest hq)
      · by_cases hd : d = '/'
        · -- an authority follows `//`
          subst hd
          have hmore : more ≠ ['@'] := fun h => hat (by rw [h])
          exact authority_append_query (hrest.subset fun x hx => by simp [hx]) hmore hq
        · simp only [List.cons_append]
          rw [otherUrl_slash_of_ne_slash hd, otherUrl_slash_of_ne_slash hd]
          exact congrArg Except.ok (rootedUrl_append_query hsp hrest hq)
    · simp only [List.cons_append]
      rw [otherUrl_of_ne_slash hc, otherUrl_of_ne_slash hc]
      exact congrArg Except.ok (opaqueUrl_append_query hsp hrest hq)

end Other

/-! ## Whole texts -/

theorem scheme?_rest_suffix {cs rest : List Char} {scheme : String}
    (h : scheme? cs = some (scheme, rest)) : rest <:+ cs := by
  unfold scheme? at h
  split at h
  · split_ifs at h
    dsimp only at h
    split at h
    · next r hdrop =>
      cases h
      exact (List.suffix_cons ':' _).trans (hdrop ▸ List.drop_suffix _ _)
    · cases h
  · cases h

theorem dropWhile_slash_append_query (rest q : List Char) :
    (rest ++ '?' :: q).dropWhile (isSlash true) = rest.dropWhile (isSlash true) ++ '?' :: q := by
  induction rest with
  | nil => exact List.dropWhile_cons_of_neg (by decide)
  | cons c rest ih =>
    by_cases hc : isSlash true c = true
    · rw [List.cons_append, List.dropWhile_cons_of_pos hc, List.dropWhile_cons_of_pos hc, ih]
    · rw [List.cons_append, List.dropWhile_cons_of_neg hc, List.dropWhile_cons_of_neg hc,
        List.cons_append]

end Reading

open Reading

theorem visible_of_plainText {cs : List Char} (h : PlainText cs) : ∀ c ∈ cs, 0x20 < c.toNat :=
  fun c hc => (of_decide_eq_true (h c hc)).1

/-- **A plain text read as a URL with a path of segments that is not empty,
followed by a query, reads as that URL with the query set.** -/
theorem parse_append_query {s : String} {u : Url} {ss : List String} {q : List Char}
    (hs : PlainText s.toList) (hu : parse s = .ok u) (hpath : u.path = .segments ss)
    (hss : ss ≠ []) (hq : QueryChars q) :
    parse (s ++ String.ofList ('?' :: q)) = .ok (withQuery q u) := by
  have hvis := visible_of_plainText hs
  have htext : (s ++ String.ofList ('?' :: q)).toList = s.toList ++ '?' :: q := by simp
  have hvisq : ∀ c ∈ s.toList ++ '?' :: q, 0x20 < c.toNat := by
    simp only [List.mem_append, List.mem_cons]
    rintro c (hc | rfl | hc)
    · exact hvis c hc
    · decide
    · exact (hq c hc).1
  -- the authority `@` alone reads with an empty path, which this URL does not have
  have hlone : ∀ scheme, authority scheme ['@'] ≠ .ok u := fun _ h =>
    hss (UrlPath.segments.inj (hpath.symm.trans (authority_lone_at h)))
  rw [parse_eq, clean_of_visible hvis] at hu
  rw [parse_eq, clean_of_visible (htext ▸ hvisq), htext, scheme?_append_stop (.inr rfl)]
  cases hsch : scheme? s.toList with
  | none => rw [hsch] at hu; cases hu
  | some r =>
    obtain ⟨scheme, rest⟩ := r
    rw [hsch] at hu
    have hrest : NoMark rest := (PlainText.noMark hs).subset (scheme?_rest_suffix hsch).subset
    rw [Option.map_some]
    dsimp only at hu ⊢
    split_ifs at hu ⊢ with hfile hspecial
    · rw [trimmed_of_visible hvis, breaks_of_visible hvis] at hu
      rw [trimmed_of_visible (htext ▸ hvisq), htext, breaks_of_visible hvisq,
        file_append_query hrest hq, hu]
      rfl
    · rw [dropWhile_slash_append_query,
        authority_append_query (hrest.subset (List.dropWhile_subset _)) ?_ hq, hu]
      · rfl
      · intro hat
        rw [hat] at hu
        exact hlone scheme hu
    · rw [otherUrl_append_query (by simpa using hspecial) hrest ?_ hq, hu]
      · rfl
      · rintro rfl
        exact hlone scheme hu

/-- **A URL that reads back from its text, with a path of segments that is
not empty and neither query nor fragment, read with a query after its text,
is that URL with the query set.** -/
theorem parse_serialize_append_query {u : Url} {ss : List String} {q : List Char}
    (hback : parse u.serialize = .ok u) (hpath : u.path = .segments ss) (hss : ss ≠ [])
    (hquery : u.query = none) (hfragment : u.fragment = none) (hq : QueryChars q) :
    parse (u.serialize ++ String.ofList ('?' :: q)) = .ok (withQuery q u) :=
  parse_append_query ((parse_plainParts hback).plainText_serialize hpath hquery hfragment) hback
    hpath hss hq

end ContentPublish.Url
