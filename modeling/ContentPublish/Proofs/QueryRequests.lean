import ContentPublish.Proofs.UrlQuery
import ContentPublish.Proofs.Validation
import ContentPublish.Proofs.PublishAreas
import ContentPublish.Client
import ContentPublish.Proofs.KeyOrder

/-
  Query requests and their parameters

  A query, or a request for its plan, is one `POST` to the workspace's
  endpoint with its parameters written after the endpoint's text. The
  parameters are form encoded, so a form decoder reads every one back from
  the query of the URL sent, and their text holds one `?` and one `&` fewer
  than it has pairs.

  What is stated here:
    1. `Url.formPairs` and `Url.queryPairs` — form decoding of a query.
    2. `Url.formComponent_formEncode` — a form-encoded text decodes to the
       bytes of the text; `Url.formPairs_pairs` — the parameters decode to
       their pairs.
    3. `Url.parse_serialize_parameters` — the endpoint with its parameters,
       read as a URL.
    4. `queries_send_their_parameters` — what a query and a plan request send,
       or why they fail.
    5. `Url.formChar` and `Url.formChar_of_mem_formEncode` — the characters
       form encoding writes.
    6. `QueryOptions.sentPairs_eq_nil_iff` — nothing is sent exactly when no
       rows are skipped, no limit is set and every variable is blank.
    7. `QueryOptions.suffix_toList` — the text is `?` and the pairs between
       `&`, or empty when nothing is sent.
    8. `QueryOptions.suffix_reads_back` — the text is empty exactly when
       nothing is sent, and otherwise counts one `?` and one `&` fewer than
       its pairs, which a form decoder reads back: the offset, the limit, then
       the variables that are not blank, in the order of their names.
-/

/-! ## Query requests and their parameters

A query, or a request for its plan, is one `POST` to the workspace's
endpoint, with the parameters written after the endpoint's text and the
whole read again as a URL. Read by a form decoder (pieces between `&`,
each split at its first `=`, `+` as a space, then escapes decoded), the
query of that URL gives back every parameter: form encoding writes letters,
digits and `*-._` as they are, a space as `+`, and every other byte
escaped, so no `&`, `=`, `#` or `+` of a name or value survives as itself,
and nothing it writes is escaped again as part of a query.

This holds when the endpoint reads back from its own text and has neither
query nor fragment of its own. An endpoint with a fragment takes the
parameters into the fragment, and one with a query into its last value.
-/

namespace ContentPublish

namespace Url

/-! ### Form decoding -/

/-- Bytes with every `+` read as a space. -/
def plusToSpace (bytes : List UInt8) : List UInt8 :=
  bytes.map fun b => if b = 0x2B then 0x20 else b

/-- The bytes a form-encoded component stands for: `+` is a space, then
escapes are decoded. -/
def formComponent (cs : List Char) : List UInt8 :=
  decodeBytes (plusToSpace (cs.flatMap String.utf8EncodeChar))

/-- The name and value pairs of a form-encoded text, as bytes: the pieces
between `&`, empty ones left out, each split at its first `=`. A piece
without `=` is a name with an empty value. -/
def formPairs (text : String) : List (List UInt8 × List UInt8) :=
  ((text.toList.splitOn '&').filter (!·.isEmpty)).map fun piece =>
    (formComponent (piece.takeWhile (· != '=')), formComponent ((piece.dropWhile (· != '=')).drop 1))

/-- The pairs of a URL's query as a form decoder reads them; none without a
query. -/
def queryPairs (u : Url) : List (List UInt8 × List UInt8) :=
  match u.query with
  | some q => formPairs q
  | none => []

/-! ### Form encoding reads back -/

/-- The bytes form encoding writes for one byte, with `+` read as a space. -/
def formBytes (b : UInt8) : List UInt8 := plusToSpace ((formByte b).flatMap String.utf8EncodeChar)

/-- Form encoding writes the byte `n` as itself, when it is not `%`, or
escaped; `+` standing for a space. -/
def formByteReadsBack (n : Nat) : Bool :=
  let b := UInt8.ofNat n
  (formBytes b == [b] && b != 0x25) || formBytes b == (escapeByte n).flatMap String.utf8EncodeChar

set_option maxRecDepth 2000 in
theorem formByteReadsBack_all : ∀ n, n < 256 → formByteReadsBack n = true := by decide

/-- **A form-encoded byte is read back.** -/
theorem decodeBytes_formBytes (b : UInt8) (rest : List UInt8) :
    decodeBytes (formBytes b ++ rest) = b :: decodeBytes rest := by
  have h := formByteReadsBack_all b.toNat (UInt8.toNat_lt_size b)
  simp only [formByteReadsBack, UInt8.ofNat_toNat, Bool.or_eq_true, Bool.and_eq_true, beq_iff_eq,
    bne_iff_ne] at h
  rcases h with ⟨hkept, hne⟩ | hescaped
  · rw [hkept, List.singleton_append, decodeBytes_cons_of_ne hne]
  · rw [hescaped, decodeBytes_escapeByte]

theorem decodeBytes_flatMap_formBytes : ∀ bytes : List UInt8,
    decodeBytes (bytes.flatMap formBytes) = bytes
  | [] => rfl
  | b :: bytes => by
    rw [List.flatMap_cons, decodeBytes_formBytes, decodeBytes_flatMap_formBytes bytes]

/-- **A form-encoded text decodes to the bytes of the text.** -/
theorem formComponent_formEncode (s : String) :
    formComponent (formEncode s).toList = Text.utf8 s := by
  unfold formComponent formEncode plusToSpace
  rw [String.toList_ofList, List.flatMap_assoc, List.map_flatMap]
  exact decodeBytes_flatMap_formBytes (Text.utf8 s)

/-! ### What form encoding writes -/

/-- A character a query keeps as it is: visible ASCII that neither query set
escapes. -/
def querySafe (c : Char) : Bool :=
  decide (0x20 < c.toNat ∧ c.toNat < 0x80) && !specialQuerySet c.toNat

/-- A character form encoding writes: one a query keeps, other than the `&`
and `=` that separate parameters. -/
def formSafe (c : Char) : Bool := querySafe c && c != '&' && c != '='

set_option maxRecDepth 2000 in
theorem formSafe_formByte_all : ∀ n, n < 256 → (formByte (UInt8.ofNat n)).all formSafe = true := by
  decide

theorem formSafe_of_mem_formEncode {s : String} {c : Char} (h : c ∈ (formEncode s).toList) :
    formSafe c = true := by
  rw [formEncode, String.toList_ofList, List.mem_flatMap] at h
  obtain ⟨b, -, hc⟩ := h
  have hall := formSafe_formByte_all b.toNat (UInt8.toNat_lt_size b)
  rw [UInt8.ofNat_toNat] at hall
  exact List.all_eq_true.mp hall c hc

theorem querySafe_of_formSafe {c : Char} (h : formSafe c = true) : querySafe c = true := by
  simp only [formSafe, Bool.and_eq_true] at h
  exact h.1.1

/-- A character a query keeps is no `#` and is above U+0020. -/
theorem queryChars_of_querySafe {q : List Char} (h : ∀ c ∈ q, querySafe c = true) :
    Reading.QueryChars q := by
  intro c hc
  have hsafe := h c hc
  simp only [querySafe, Bool.and_eq_true, decide_eq_true_eq, Bool.not_eq_true'] at hsafe
  refine ⟨hsafe.1.1, ?_⟩
  rintro rfl
  revert hsafe
  decide

/-- ASCII characters a set does not escape are written as they are. -/
theorem keptBytes_of_kept {set : EncodeSet} : ∀ {q : List Char},
    (∀ c ∈ q, c.toNat < 0x80 ∧ set c.toNat = false) →
    (q.flatMap String.utf8EncodeChar).flatMap
      (fun b => if b.toNat < 0x80 ∧ set b.toNat = false then [Char.ofNat b.toNat]
        else escapeByte b.toNat) = q
  | [], _ => rfl
  | c :: q, h => by
    obtain ⟨hlt, hset⟩ := h c List.mem_cons_self
    rw [List.flatMap_cons, utf8EncodeChar_of_lt hlt, List.singleton_append, List.flatMap_cons,
      keptBytes_of_kept fun x hx => h x (List.mem_cons_of_mem c hx), toNat_byte_of_lt hlt,
      if_pos ⟨hlt, hset⟩, Char.ofNat_toNat]
    rfl

/-- **A query of characters it keeps is kept as it is.** -/
theorem queryText_of_querySafe (special : Bool) {q : List Char}
    (h : ∀ c ∈ q, querySafe c = true) : Reading.queryText special q = String.ofList q := by
  unfold Reading.queryText
  refine congrArg String.ofList (keptBytes_of_kept fun c hc => ?_)
  have hsafe := h c hc
  simp only [querySafe, specialQuerySet, Bool.and_eq_true, decide_eq_true_eq, Bool.not_eq_true',
    Bool.or_eq_false_iff] at hsafe
  -- neither query set escapes it: the special one holds the other
  refine ⟨hsafe.1.2, ?_⟩
  cases special
  · exact hsafe.2.1
  · simp [specialQuerySet, hsafe.2.1, hsafe.2.2]

/-! ### The parameters -/

/-- The text of one parameter: the name and the value form encoded, around
`=`. -/
def pairChars (p : String × String) : List Char :=
  (formEncode p.1).toList ++ '=' :: (formEncode p.2).toList

theorem intercalate_amp (a : List Char) : ∀ l : List (List Char),
    ['&'].intercalate (a :: l) = a ++ (l.map ('&' :: ·)).flatten
  | [] => by simp
  | b :: l => by
    rw [List.intercalate_cons_cons, intercalate_amp b l]
    simp

/-- The parameters after the first, each led by `&`. -/
theorem parameters_false : ∀ ps : List (String × String),
    (QueryOptions.parameters false ps).toList = (ps.map fun p => '&' :: pairChars p).flatten
  | [] => rfl
  | p :: ps => by
    simp [QueryOptions.parameters, QueryOptions.parameter, parameters_false ps, pairChars]

/-- **The parameters are `?` and the pairs between `&`.** -/
theorem parameters_true_cons (p : String × String) (ps : List (String × String)) :
    QueryOptions.parameters true (p :: ps) =
      String.ofList ('?' :: ['&'].intercalate ((p :: ps).map pairChars)) := by
  apply String.ext
  rw [String.toList_ofList, List.map_cons, intercalate_amp, List.map_map]
  simp [QueryOptions.parameters, QueryOptions.parameter, parameters_false, pairChars,
    Function.comp_def]

theorem formSafe_of_mem_pairChars {p : String × String} {c : Char} (h : c ∈ pairChars p) :
    formSafe c = true ∨ c = '=' := by
  simp only [pairChars, List.mem_append, List.mem_cons] at h
  rcases h with h | rfl | h
  · exact .inl (formSafe_of_mem_formEncode h)
  · exact .inr rfl
  · exact .inl (formSafe_of_mem_formEncode h)

theorem querySafe_of_mem_parameters {ps : List (String × String)} {c : Char}
    (h : c ∈ ['&'].intercalate (ps.map pairChars)) : querySafe c = true := by
  have hpair : ∀ p, c ∈ pairChars p → querySafe c = true := fun p hp => by
    rcases formSafe_of_mem_pairChars hp with hsafe | rfl
    · exact querySafe_of_formSafe hsafe
    · decide
  cases ps with
  | nil => simp at h
  | cons p ps =>
    rw [List.map_cons, intercalate_amp] at h
    simp only [List.mem_append, List.mem_flatten, List.mem_map] at h
    rcases h with h | ⟨_, ⟨x, ⟨p', -, rfl⟩, rfl⟩, h⟩
    · exact hpair p h
    · rcases List.mem_cons.mp h with rfl | h
      · decide
      · exact hpair p' h

/-- **The parameters decode to their pairs.** No `&` stands inside a pair,
and the first `=` of a pair ends its name. -/
theorem formPairs_pairs (ps : List (String × String)) (hps : ps ≠ []) :
    formPairs (String.ofList (['&'].intercalate (ps.map pairChars))) =
      ps.map fun p => (Text.utf8 p.1, Text.utf8 p.2) := by
  have hamp : ∀ l ∈ ps.map pairChars, '&' ∉ l := by
    simp only [List.mem_map]
    rintro _ ⟨p, -, rfl⟩ hc
    rcases formSafe_of_mem_pairChars hc with hsafe | h
    · simp [formSafe] at hsafe
    · cases h
  have hname : ∀ s : String, ∀ c ∈ (formEncode s).toList, (c != '=') = true := fun s c hc => by
    have := formSafe_of_mem_formEncode hc
    simp only [formSafe, Bool.and_eq_true] at this
    exact this.2
  have hnonempty : ∀ l ∈ ps.map pairChars, (!l.isEmpty) = true := fun l hl => by
    obtain ⟨p, -, rfl⟩ := List.mem_map.mp hl
    simp [pairChars]
  have htake : ∀ r : List Char, ('=' :: r).takeWhile (· != '=') = [] := fun _ =>
    List.takeWhile_cons_of_neg (by decide)
  have hdrop : ∀ r : List Char, ('=' :: r).dropWhile (· != '=') = '=' :: r := fun _ =>
    List.dropWhile_cons_of_neg (by decide)
  unfold formPairs
  rw [String.toList_ofList, List.splitOn_intercalate '&' hamp (by simpa using hps),
    List.filter_eq_self.mpr hnonempty, List.map_map]
  refine List.map_congr_left fun p _ => ?_
  simp only [Function.comp_apply, pairChars, List.takeWhile_append_of_pos (hname p.1),
    List.dropWhile_append_of_pos (hname p.1), htake, hdrop, List.append_nil, List.drop_succ_cons,
    List.drop_zero, formComponent_formEncode]

open Reading in
/-- **The endpoint with its parameters, read as a URL**: when the endpoint
reads back from its text, with a path of segments that is not empty and
neither query nor fragment, the URL has the endpoint's path, no fragment,
and the parameters as its query pairs. -/
theorem parse_serialize_parameters {u : Url} {ss : List String} (hback : parse u.serialize = .ok u)
    (hpath : u.path = .segments ss) (hss : ss ≠ []) (hquery : u.query = none)
    (hfragment : u.fragment = none) (ps : List (String × String)) :
    ∃ url, parse (u.serialize ++ QueryOptions.parameters true ps) = .ok url ∧
      url.path = u.path ∧ url.fragment = none ∧
      url.queryPairs = ps.map fun p => (Text.utf8 p.1, Text.utf8 p.2) := by
  cases ps with
  | nil =>
    refine ⟨u, ?_, rfl, hfragment, by simp [queryPairs, hquery]⟩
    rw [show QueryOptions.parameters true [] = "" from rfl, String.append_empty]
    exact hback
  | cons p ps =>
    have hsafe : ∀ c ∈ ['&'].intercalate ((p :: ps).map pairChars), querySafe c = true :=
      fun c hc => querySafe_of_mem_parameters hc
    refine ⟨withQuery (['&'].intercalate ((p :: ps).map pairChars)) u, ?_, rfl, hfragment, ?_⟩
    · rw [parameters_true_cons]
      exact parse_serialize_append_query hback hpath hss hquery hfragment
        (queryChars_of_querySafe hsafe)
    · simp only [queryPairs, withQuery, queryText_of_querySafe _ hsafe]
      exact formPairs_pairs _ (List.cons_ne_nil _ _)

/-! ### Endpoints have a segment -/

theorem appendSegment_ne_nil (file : Bool) (segs : List String) (seg : String) :
    appendSegment file segs seg ≠ [] := by
  unfold appendSegment
  split_ifs <;> simp

theorem fileSegments_ne_nil (segs : List String) : Reading.fileSegments segs ≠ [] := by
  unfold Reading.fileSegments
  split
  · simp
  · next s hs => exact hs

/-- A segment other than `.` and `..` always leaves a segment in the path. -/
theorem pushSegment_ne_nil {special file : Bool} {acc : List String} {raw : String}
    (hdot : raw ≠ ".") (hdotdot : raw ≠ "..") : pushSegment special file acc raw ≠ [] := by
  unfold pushSegment appendEncoded
  rw [if_neg (by simp [hdot, hdotdot])]
  dsimp only
  split
  · exact fileSegments_ne_nil _
  · split <;> exact appendSegment_ne_nil _ _ _

end Url

/-- A URL whose last pushed segment is neither `.` nor `..` has a path of
segments that is not empty. -/
theorem joinSegments_path_ne_nil {base : String} {segs : List String} {x : String} {u : Url}
    (h : joinSegments base (segs ++ [x]) = .ok u) (hdot : x ≠ ".") (hdotdot : x ≠ "..") :
    ∃ ss, u.path = .segments ss ∧ ss ≠ [] := by
  unfold joinSegments at h
  split at h
  · cases h
  · next b _ =>
    cases hpush : b.pushSegments (segs ++ [x]) with
    | none => simp [hpush] at h
    | some v =>
      simp only [hpush, Except.ok.injEq] at h
      subst h
      unfold Url.pushSegments at hpush
      split at hpush
      · cases hpush
      · cases hpush
        refine ⟨_, rfl, ?_⟩
        rw [List.foldl_append, List.foldl_cons, List.foldl_nil]
        exact Url.pushSegment_ne_nil hdot hdotdot

theorem Workspace.queryUrl_path {ws : Workspace} {endpoint : Url} (h : ws.queryUrl = .ok endpoint) :
    ∃ ss, endpoint.path = .segments ss ∧ ss ≠ [] := by
  have h' : joinSegments ws.server.baseUrl ([ws.repository.name, ws.name] ++ ["query"]) =
      .ok endpoint := h
  exact joinSegments_path_ne_nil h' (by decide) (by decide)

theorem Workspace.queryPlanUrl_path {ws : Workspace} {endpoint : Url}
    (h : ws.queryPlanUrl = .ok endpoint) : ∃ ss, endpoint.path = .segments ss ∧ ss ≠ [] := by
  have h' : joinSegments ws.server.baseUrl ([ws.repository.name, ws.name] ++ ["queryPlan"]) =
      .ok endpoint := h
  exact joinSegments_path_ne_nil h' (by decide) (by decide)

/-! ### Languages -/

namespace QueryLanguage

theorem toList_toLower (s : String) : s.toLower.toList = s.toList.map Char.toLower :=
  String.toList_map

/-- No two of the four names differ only in ASCII case. -/
theorem toLower_name_injective {l l' : QueryLanguage} (h : l.name.toLower = l'.name.toLower) :
    l = l' := by
  have hlists := congrArg String.toList h
  rw [toList_toLower, toList_toLower] at hlists
  cases l <;> cases l' <;> first | rfl | (exfalso; revert hlists; decide)

/-- **A language is read from its name, trimmed, ignoring ASCII case.** -/
theorem parse_of_toLower {text : String} {l : QueryLanguage}
    (h : (Text.trimBlank text).toLower = l.name.toLower) : parse text = .ok l := by
  unfold parse
  dsimp only
  cases hfind : all.find? (fun l' => sameIgnoringCase l'.name (Text.trimBlank text)) with
  | none =>
    have hl : l ∈ all := by cases l <;> decide
    have := List.find?_eq_none.mp hfind l hl
    simp [sameIgnoringCase, h] at this
  | some l' =>
    -- the first name that matches is the name of `l`, as no two names match one text
    have hmatch := List.find?_some hfind
    simp only [sameIgnoringCase, beq_iff_eq] at hmatch
    rw [toLower_name_injective (hmatch.trans h)]

/-- A text that names none of the four is refused, as it was given. -/
theorem parse_of_forall_ne {text : String}
    (h : ∀ l : QueryLanguage, (Text.trimBlank text).toLower ≠ l.name.toLower) :
    parse text = .error (.invalidLanguage text validNames) := by
  unfold parse
  dsimp only
  rw [List.find?_eq_none.mpr fun l _ => by simpa [sameIgnoringCase] using (h l).symm]

end QueryLanguage

/-! ### What a query sends -/

/-- The pairs a query sends, as the documentation gives them: the offset
when rows are skipped, the limit when one is set, then every variable whose
name and value are not blank once trimmed, in the order of the variables. -/
def QueryOptions.sentPairs (o : QueryOptions) : List (String × String) :=
  (if o.offset > 0 then [("offset", toString o.offset)] else []) ++
    o.limit.toList.map (fun l => ("limit", toString l)) ++
    o.bindings.entries.filter fun b => !(Text.trimBlank b.1).isEmpty && !(Text.trimBlank b.2).isEmpty

theorem QueryOptions.pairs_eq_sentPairs (o : QueryOptions) : o.pairs = o.sentPairs := by
  unfold pairs sentPairs
  simp only [Text.isEmpty_trimBlank, Bool.not_or]
  cases o.limit <;> rfl

/-- What a query or plan request at `endpoint`, run from `w`, does. A
language that is none of the four once trimmed, ignoring ASCII case, is
refused with the language as it was given, and nothing is sent. Any of them
sends one `POST` with the user's credentials: the statement's bytes under
the language's content type, to a URL with the endpoint's path and no
fragment, whose query pairs are the ones the options send. -/
def SendsQuery {σ α : Type} (user : String) (endpoint : Url) (language statement : String)
    (o : QueryOptions) (w : World σ) (outcome : Except Error α × World σ) : Prop :=
  ((∀ l : QueryLanguage, (Text.trimBlank language).toLower ≠ l.name.toLower) →
    outcome = (.error (.invalidLanguage language QueryLanguage.validNames), w)) ∧
  ∀ l : QueryLanguage, (Text.trimBlank language).toLower = l.name.toLower →
    ∃ url, outcome.2.sent = w.sent ++
        [⟨user, (Request.new .post url).withBody l.contentType (Text.utf8 statement)⟩] ∧
      url.path = endpoint.path ∧ url.fragment = none ∧
      url.queryPairs = o.sentPairs.map fun p => (Text.utf8 p.1, Text.utf8 p.2)

/-- A run that fails as the request fails, and otherwise sends the request,
does what `SendsQuery` says, at an endpoint that reads back from its text
and has a segment and neither query nor fragment. -/
theorem sendsQuery_of_run {σ α : Type} {user : String} {endpoint : Url} {ss : List String}
    (hback : Url.parse endpoint.serialize = .ok endpoint) (hpath : endpoint.path = .segments ss)
    (hss : ss ≠ []) (hquery : endpoint.query = none) (hfragment : endpoint.fragment = none)
    {language statement : String} {o : QueryOptions} {w : World σ}
    {outcome : Except Error α × World σ}
    (herror : ∀ e, queryRequest endpoint language statement o = .error e → outcome = (.error e, w))
    (hsent : ∀ r, queryRequest endpoint language statement o = .ok r →
      outcome.2.sent = w.sent ++ [⟨user, r⟩]) :
    SendsQuery user endpoint language statement o w outcome := by
  refine ⟨fun hne => herror _ ?_, fun l hname => ?_⟩
  · simp only [queryRequest, QueryLanguage.parse_of_forall_ne hne]
  · obtain ⟨url, hparse, hp, hf, hpairs⟩ :=
      Url.parse_serialize_parameters hback hpath hss hquery hfragment o.pairs
    refine ⟨url, hsent _ ?_, hp, hf, by rw [hpairs, QueryOptions.pairs_eq_sentPairs]⟩
    simp only [queryRequest, QueryLanguage.parse_of_toLower hname, QueryOptions.suffix, hparse]

namespace Session

variable {σ : Type}

/-- A session that only reads answers leaves the world as it was. -/
theorem run_lift_bind_world {α β : Type} (r : Except Error α) (f : α → Session σ β)
    (hf : ∀ a w', (run (f a) w').2 = w') (w : World σ) : (run (lift r >>= f) w).2 = w := by
  cases r with
  | error e => rw [run_lift_error_bind]
  | ok a => rw [run_lift_ok_bind, hf]

/-- One request, then only reading its answer: the request is logged. -/
theorem run_send_bind_sent {α : Type} (t : Transport σ) (server : Server) (request : Request)
    (k : Response → Session σ α) (hk : ∀ resp w', (run (k resp) w').2 = w') (w : World σ) :
    (run (send t server request >>= k) w).2.sent = w.sent ++ [⟨server.user, request⟩] := by
  rw [run_bind, run_send]
  rcases (t.respond server request w.remote) with ⟨_ | resp, st⟩
  · rfl
  · dsimp only
    rw [hk]

variable (t : Transport σ) (ws : Workspace) (language statement : String) (o : QueryOptions)
  (w : World σ)

theorem query_sent {endpoint : Url} (hurl : ws.queryUrl = .ok endpoint) {r : Request}
    (hr : queryRequest endpoint language statement o = .ok r) :
    (run (query t ws language statement o) w).2.sent = w.sent ++ [⟨ws.server.user, r⟩] := by
  rw [query, hurl, run_lift_ok_bind, hr, run_lift_ok_bind]
  -- after the request, the answer is only read
  exact run_send_bind_sent t _ r _ (fun resp w' =>
    run_lift_bind_world _ _ (fun body w'' => by rw [run_lift]) w') w

theorem planForQuery_sent {endpoint : Url} (hurl : ws.queryPlanUrl = .ok endpoint) {r : Request}
    (hr : queryRequest endpoint language statement o = .ok r) :
    (run (planForQuery t ws language statement o) w).2.sent = w.sent ++ [⟨ws.server.user, r⟩] := by
  rw [planForQuery, hurl, run_lift_ok_bind, hr, run_lift_ok_bind]
  exact run_send_bind_sent t _ r _ (fun resp w' => by rw [run_lift]) w

end Session

open Session in
/-- **A query, or a request for its plan, carries its parameters.** At the
endpoint of a workspace that reads back from its own text and has neither
query nor fragment, an unknown language is refused before anything is sent,
and any of the four languages sends one `POST` of the statement whose URL
has the endpoint's path, no fragment, and as query pairs the offset when
rows are skipped, the limit when one is set, and every variable whose name
and value are not blank. -/
theorem queries_send_their_parameters {σ : Type} (t : Transport σ) (ws : Workspace)
    (language statement : String) (o : QueryOptions) (w : World σ) :
    (∀ endpoint, ws.queryUrl = .ok endpoint → Url.parse endpoint.serialize = .ok endpoint →
      endpoint.query = none → endpoint.fragment = none →
      SendsQuery ws.server.user endpoint language statement o w
        (run (query t ws language statement o) w)) ∧
    ∀ endpoint, ws.queryPlanUrl = .ok endpoint → Url.parse endpoint.serialize = .ok endpoint →
      endpoint.query = none → endpoint.fragment = none →
      SendsQuery ws.server.user endpoint language statement o w
        (run (planForQuery t ws language statement o) w) := by
  constructor
  · intro endpoint hurl hback hquery hfragment
    obtain ⟨ss, hpath, hss⟩ := Workspace.queryUrl_path hurl
    refine sendsQuery_of_run hback hpath hss hquery hfragment (fun e he => ?_)
      (fun r hr => query_sent t ws language statement o w hurl hr)
    rw [query, hurl, run_lift_ok_bind, he, run_lift_error_bind]
  · intro endpoint hurl hback hquery hfragment
    obtain ⟨ss, hpath, hss⟩ := Workspace.queryPlanUrl_path hurl
    refine sendsQuery_of_run hback hpath hss hquery hfragment (fun e he => ?_)
      (fun r hr => planForQuery_sent t ws language statement o w hurl hr)
    rw [planForQuery, hurl, run_lift_ok_bind, he, run_lift_error_bind]

/-- A query of a workspace on a local server, skipping five rows. -/
theorem query_local_workspace_skips_rows :
    let t : Transport Unit := ⟨fun _ _ _ => (.ok ⟨200, "\x7b\"rows\":[]\x7d"⟩, ())⟩
    let ws : Workspace := ⟨"w", ⟨"r", Server.new "a:/" "u" "p"⟩⟩
    let endpoint : Url := ⟨"a", "", none, none, none, .segments ["r", "w", "query"], none, none⟩
    let w : World Unit := ⟨(), LocalFiles.empty, []⟩
    ws.queryUrl = .ok endpoint ∧ Url.parse endpoint.serialize = .ok endpoint ∧
      endpoint.query = none ∧ endpoint.fragment = none ∧
      SendsQuery ws.server.user endpoint "sql" "S" (QueryOptions.page 5 none) w
        (Session.run (Session.query t ws "sql" "S" (QueryOptions.page 5 none)) w) := by
  intro t ws endpoint w
  have hurl : ws.queryUrl = .ok endpoint := by decide +kernel
  have hback : Url.parse endpoint.serialize = .ok endpoint := by decide +kernel
  exact ⟨hurl, hback, rfl, rfl,
    (queries_send_their_parameters t ws "sql" "S" (QueryOptions.page 5 none) w).1 endpoint hurl
      hback rfl rfl⟩

end ContentPublish

/-! ## The parameters a query appends

The parameters of a query follow its endpoint as one text: `?` before the
first pair and `&` before each of the others, a pair being its form-encoded
name and value around `=`. Form encoding writes letters, digits, `*-._`,
`+` for a space and `%` escapes, nothing else, so no `?` or `&` stands
inside a pair. The text therefore holds one `?`, at its head, and one `&`
fewer than it has pairs, and a form decoder reads the pairs back from what
follows the `?`.
-/

namespace ContentPublish

namespace Url

/-- A character form encoding writes: an ASCII letter or digit, one of
`*-._`, the `+` that stands for a space, or the `%` of an escape. -/
def formChar (c : Char) : Bool :=
  c.isAlphanum || c == '*' || c == '-' || c == '.' || c == '_' || c == '+' || c == '%'

set_option maxRecDepth 2000 in
theorem formChar_formByte_all : ∀ n, n < 256 → (formByte (UInt8.ofNat n)).all formChar = true := by
  decide

theorem formChar_of_mem_formEncode {s : String} {c : Char} (h : c ∈ (formEncode s).toList) :
    formChar c = true := by
  rw [formEncode, String.toList_ofList, List.mem_flatMap] at h
  obtain ⟨b, -, hc⟩ := h
  have hall := formChar_formByte_all b.toNat (UInt8.toNat_lt_size b)
  rw [UInt8.ofNat_toNat] at hall
  exact List.all_eq_true.mp hall c hc

/-- A character that form encoding never writes is not counted in a pair. -/
theorem count_pairChars {c : Char} (hc : formChar c = false) (hne : c ≠ '=')
    (p : String × String) : (pairChars p).count c = 0 := by
  have henc : ∀ s : String, (formEncode s).toList.count c = 0 := fun s =>
    List.count_eq_zero.mpr fun hmem => by
      rw [formChar_of_mem_formEncode hmem] at hc
      cases hc
  simp [pairChars, henc, hne.symm]

/-- Pairs joined by `&` hold one `&` fewer than there are pairs. -/
theorem count_amp_intercalate (p : String × String) (ps : List (String × String)) :
    (['&'].intercalate ((p :: ps).map pairChars)).count '&' = ps.length := by
  have hpair := count_pairChars (show formChar '&' = false by decide) (by decide)
  rw [List.map_cons, intercalate_amp, List.count_append, hpair, List.count_flatten]
  simp [Function.comp_def, hpair]

/-- Pairs joined by `&` hold no `?`. -/
theorem count_question_intercalate (ps : List (String × String)) :
    (['&'].intercalate (ps.map pairChars)).count '?' = 0 := by
  have hpair := count_pairChars (show formChar '?' = false by decide) (by decide)
  rcases ps with _ | ⟨p, ps⟩
  · rfl
  · rw [List.map_cons, intercalate_amp, List.count_append, hpair, List.count_flatten]
    simp [Function.comp_def, hpair]

end Url

namespace QueryOptions

/-- **Nothing is sent** exactly when no rows are skipped, no limit is set,
and every variable has a blank name or a blank value. -/
theorem sentPairs_eq_nil_iff (o : QueryOptions) :
    o.sentPairs = [] ↔ o.offset = 0 ∧ o.limit = none ∧
      ∀ b ∈ o.bindings.entries, Text.trimBlank b.1 = "" ∨ Text.trimBlank b.2 = "" := by
  unfold sentPairs
  rw [List.append_eq_nil_iff, List.append_eq_nil_iff, and_assoc]
  refine and_congr ?_ (and_congr ?_ ?_)
  · by_cases h : o.offset > 0
    · simp only [h, if_true, List.cons_ne_nil, false_iff]; omega
    · simp only [h, if_false, true_iff]; omega
  · cases o.limit <;> simp
  · rw [List.filter_eq_nil_iff]
    simp [or_iff_not_imp_left]

/-- **The text of the parameters**: empty when nothing is sent, and
otherwise `?` and the pairs between `&`. -/
theorem suffix_toList (o : QueryOptions) :
    o.suffix.toList = match o.sentPairs with
      | [] => []
      | p :: ps => '?' :: ['&'].intercalate ((p :: ps).map Url.pairChars) := by
  rw [suffix, pairs_eq_sentPairs]
  rcases o.sentPairs with _ | ⟨p, ps⟩
  · rfl
  · rw [Url.parameters_true_cons, String.toList_ofList]

/-- **The parameters a query appends read back.** The text is empty exactly
when nothing is sent: no rows skipped, no limit, and every variable blank in
its name or its value. Otherwise it starts with its only `?` and holds one
`&` fewer than the pairs sent, and a form decoder reads from what follows
the `?` exactly the pairs sent: the offset when rows are skipped, the limit
when one is set, then the variables that are not blank, in ascending order
of name. -/
theorem suffix_reads_back (o : QueryOptions) :
    (o.suffix = "" ↔ o.offset = 0 ∧ o.limit = none ∧
        ∀ b ∈ o.bindings.entries, Text.trimBlank b.1 = "" ∨ Text.trimBlank b.2 = "") ∧
    (o.suffix ≠ "" →
      o.suffix.toList.head? = some '?' ∧ o.suffix.toList.count '?' = 1 ∧
      o.suffix.toList.count '&' = o.sentPairs.length - 1 ∧
      Url.formPairs (String.ofList (o.suffix.toList.drop 1)) =
        o.sentPairs.map fun p => (Text.utf8 p.1, Text.utf8 p.2)) ∧
    ∃ vars, o.sentPairs = (if 0 < o.offset then [("offset", toString o.offset)] else []) ++
        o.limit.toList.map (fun l => ("limit", toString l)) ++ vars ∧
      KeysAscend vars ∧
      ∀ b, b ∈ vars ↔ b ∈ o.bindings.entries ∧ Text.trimBlank b.1 ≠ "" ∧ Text.trimBlank b.2 ≠ "" := by
  have hempty : o.suffix = "" ↔ o.sentPairs = [] := by
    rw [← String.toList_inj, suffix_toList, String.toList_empty]
    rcases o.sentPairs with _ | ⟨p, ps⟩ <;> simp
  refine ⟨hempty.trans (sentPairs_eq_nil_iff o), ?_, ?_⟩
  · intro hne
    obtain ⟨p, ps, hps⟩ := List.exists_cons_of_ne_nil (mt hempty.mpr hne)
    have htext := suffix_toList o
    rw [hps] at htext
    simp only at htext
    rw [htext, hps]
    refine ⟨rfl, ?_, ?_, ?_⟩
    · rw [List.count_cons_self, Url.count_question_intercalate]
    · rw [List.count_cons_of_ne (by decide), Url.count_amp_intercalate]
      simp
    · rw [List.drop_succ_cons, List.drop_zero]
      exact Url.formPairs_pairs (p :: ps) (List.cons_ne_nil p ps)
  · -- the variables sent are those kept by the filter, which keeps the names' order
    refine ⟨o.bindings.entries.filter fun b => !(Text.trimBlank b.1).isEmpty && !(Text.trimBlank b.2).isEmpty,
      ?_, o.bindings.ascending.filter _, fun b => ?_⟩
    · unfold sentPairs
      simp only [gt_iff_lt]
    · simp [List.mem_filter, String.isEmpty_eq_false_iff]

end QueryOptions

end ContentPublish
