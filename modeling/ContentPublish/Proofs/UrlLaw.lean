import ContentPublish.Proofs.PathSegments

/-
  The segment law of the client's URLs

  Every URL the client builds is its server's base URL with segments pushed
  onto the path. Each pushed segment is escaped on its own with a set that
  escapes `%`, so decoding the escapes gives back the segment's bytes: a
  segment holds no slash, `?` or `#` of the URL and no escape of another.
  Tabs and line breaks inside a segment are dropped before it is escaped,
  and a segment that is exactly `.` or `..` is skipped.

  For a base URL that can be a base and is not a `file` URL, and segments
  that are neither `.` nor `..` and hold no tab or line break, the URL keeps
  the base's scheme, authority, query and fragment, and its path segments,
  decoded, are the base's (one trailing empty segment dropped, and none when
  only `/` is left) followed by the pushed segments. The one further
  exception is the first segment pushed onto a base path of only `/`: an
  empty one is absorbed by the next. Since the decoded segments determine
  the pushed ones, the URL determines them too; an item URL thus determines
  the repository, the workspace and the item's segments followed by the
  trailing ones, but not where the item's segments end.

  What is stated here:
    1. `decodeSegment` and `decodeSegment_encodeSegment` — a pushed segment
       decodes to its bytes, tabs and line breaks dropped.
    2. `PlainSegment`, `keptBase` and `pushSegments_plain` — pushing plain
       segments appends their escaped forms to the kept base segments.
    3. `Extends` and `Extends.determines` — the law, and that the URL
       determines the pushed segments.
    4. `SegmentLaw` and `server_urls_follow_segment_law` — every URL of a
       server follows the law.
-/

namespace ContentPublish

namespace Url

/-! ## Decoding what was escaped -/

/-- The bytes a path segment stands for: its UTF-8 bytes, percent-decoded. -/
def decodeSegment (seg : String) : List UInt8 := decodeBytes (Text.utf8 seg)

theorem utf8EncodeChar_of_lt {c : Char} (h : c.toNat < 0x80) :
    String.utf8EncodeChar c = [UInt8.ofNat c.toNat] := by
  unfold String.utf8EncodeChar
  rw [if_pos (show c.val.toNat ≤ 0x7f from Nat.le_of_lt_succ h)]
  rfl

/-- The byte of an ASCII character has its code. -/
theorem toNat_byte_of_lt {c : Char} (h : c.toNat < 0x80) : (UInt8.ofNat c.toNat).toNat = c.toNat :=
  UInt8.toNat_ofNat_of_lt' (Nat.lt_trans h (by decide))

theorem upperHex_lt : ∀ d, d < 16 → (upperHex d).toNat < 0x80 := by
  decide

theorem hexValue?_upperHex : ∀ d, d < 16 → Text.hexValue? (upperHex d) = some d := by
  decide

/-- An ASCII character read back from its byte. -/
theorem ofNat_byte_of_lt {c : Char} (h : c.toNat < 0x80) :
    Char.ofNat (UInt8.ofNat c.toNat).toNat = c := by
  rw [toNat_byte_of_lt h]
  exact Char.ofNat_toNat c

/-- A byte other than `%` is read as itself. -/
theorem decodeBytes_cons_of_ne {b : UInt8} (h : b ≠ 0x25) (rest : List UInt8) :
    decodeBytes (b :: rest) = b :: decodeBytes rest := by
  match rest with
  | [] => simp [decodeBytes]
  | [_] => simp [decodeBytes]
  | _ :: _ :: _ => simp [decodeBytes, h]

/-- **An escaped byte is read back.** -/
theorem decodeBytes_escapeByte (b : UInt8) (rest : List UInt8) :
    decodeBytes ((escapeByte b.toNat).flatMap String.utf8EncodeChar ++ rest) =
      b :: decodeBytes rest := by
  have hb : b.toNat < 256 := UInt8.toNat_lt_size b
  have hhi : b.toNat / 16 < 16 := by omega
  have hlo : b.toNat % 16 < 16 := by omega
  simp only [escapeByte, List.flatMap_cons, List.flatMap_nil, List.append_nil,
    utf8EncodeChar_of_lt (upperHex_lt _ hhi), utf8EncodeChar_of_lt (upperHex_lt _ hlo),
    utf8EncodeChar_of_lt (show Char.toNat '%' < 0x80 by decide), List.cons_append,
    List.nil_append]
  rw [show UInt8.ofNat (Char.toNat '%') = 0x25 by decide, decodeBytes,
    ofNat_byte_of_lt (upperHex_lt _ hhi), ofNat_byte_of_lt (upperHex_lt _ hlo),
    hexValue?_upperHex _ hhi, hexValue?_upperHex _ hlo]
  simp only [List.cons.injEq, and_true]
  rw [show b.toNat / 16 * 16 + b.toNat % 16 = b.toNat by omega]
  exact UInt8.ofNat_toNat

/-- Escaped bytes, one after another, are read back. -/
theorem decodeBytes_escapeBytes (bytes rest : List UInt8) :
    decodeBytes ((bytes.flatMap fun b => escapeByte b.toNat).flatMap String.utf8EncodeChar ++ rest) =
      bytes ++ decodeBytes rest := by
  induction bytes with
  | nil => rfl
  | cons b bytes ih =>
    rw [List.flatMap_cons, List.flatMap_append, List.append_assoc, decodeBytes_escapeByte, ih,
      List.cons_append]

/-- A character escaped under a set that escapes `%` is read back as its
UTF-8 bytes: a kept character is not `%`, and an escaped one is its bytes
escaped. -/
theorem decodeBytes_encodeChar {set : EncodeSet} (hpct : set 0x25 = true) (c : Char)
    (rest : List UInt8) :
    decodeBytes ((encodeChar set c).flatMap String.utf8EncodeChar ++ rest) =
      String.utf8EncodeChar c ++ decodeBytes rest := by
  unfold encodeChar
  split
  · next hkept =>
    obtain ⟨hlt, hset⟩ := hkept
    -- the character is kept, so it is not `%`, which the set escapes
    have hne : UInt8.ofNat c.toNat ≠ 0x25 := by
      intro heq
      have hc : c.toNat = 0x25 := by
        rw [← toNat_byte_of_lt hlt, heq]
        rfl
      rw [hc, hpct] at hset
      cases hset
    rw [List.flatMap_singleton, utf8EncodeChar_of_lt hlt, List.singleton_append,
      decodeBytes_cons_of_ne hne]
    rfl
  · exact decodeBytes_escapeBytes _ rest

/-- **Escaping under a set that escapes `%` is undone by decoding.** -/
theorem decodeBytes_encodeWith {set : EncodeSet} (hpct : set 0x25 = true) (cs : List Char) :
    decodeBytes ((encodeWith set cs).flatMap String.utf8EncodeChar) =
      cs.flatMap String.utf8EncodeChar := by
  induction cs with
  | nil => rfl
  | cons c cs ih =>
    rw [encodeWith, List.flatMap_cons, List.flatMap_append, decodeBytes_encodeChar hpct,
      ← encodeWith, ih, List.flatMap_cons]

theorem segmentSet_pct (special : Bool) :
    (if special then specialSegmentSet else segmentSet) 0x25 = true := by
  cases special <;> decide

/-- **A pushed segment decodes to its bytes**, its tabs and line breaks
dropped. -/
theorem decodeSegment_encodeSegment (special : Bool) (raw : String) :
    decodeSegment (encodeSegment special raw) = Text.utf8 (String.ofList (keptChars raw)) := by
  rw [decodeSegment, encodeSegment_eq, Text.utf8, String.toList_ofList,
    decodeBytes_encodeWith (segmentSet_pct special), Text.utf8, String.toList_ofList]

/-- Texts with the same UTF-8 bytes are the same. -/
theorem utf8_injective : Function.Injective Text.utf8 := by
  intro s t h
  have hbytes : (String.ofList s.toList).toByteArray = (String.ofList t.toList).toByteArray := by
    rw [String.toByteArray_ofList, String.toByteArray_ofList, List.utf8Encode, List.utf8Encode]
    exact congrArg List.toByteArray h
  rwa [String.ofList_toList, String.ofList_toList, String.toByteArray_inj] at hbytes

/-! ## Pushing plain segments -/

/-- A raw segment the law covers: neither `.` nor `..`, and free of tabs and
line breaks. -/
def PlainSegment (raw : String) : Prop :=
  raw ≠ "." ∧ raw ≠ ".." ∧ ∀ c ∈ raw.toList, Reading.isTabOrNewline c = false

/-- Plainness is checked character by character. -/
instance (raw : String) : Decidable (PlainSegment raw) :=
  decidable_of_iff ((raw != "." && raw != "..") && raw.toList.all fun c => !Reading.isTabOrNewline c)
    (by simp [PlainSegment, and_assoc])

theorem keptChars_of_plain {raw : String} (h : PlainSegment raw) : keptChars raw = raw.toList :=
  List.filter_eq_self.mpr fun c hc => by simp [h.2.2 c hc]

/-- **A plain segment, pushed, decodes to its own bytes.** -/
theorem decodeSegment_plain (special : Bool) {raw : String} (h : PlainSegment raw) :
    decodeSegment (encodeSegment special raw) = Text.utf8 raw := by
  rw [decodeSegment_encodeSegment, keptChars_of_plain h, String.ofList_toList]

theorem keptChars_plain_ne_dot {raw : String} (h : PlainSegment raw) : keptChars raw ≠ ['.'] := by
  rw [keptChars_of_plain h]
  intro hdot
  exact h.1 (by rw [← String.ofList_toList (s := raw), hdot])

theorem keptChars_plain_ne_dotDot {raw : String} (h : PlainSegment raw) :
    keptChars raw ≠ ['.', '.'] := by
  rw [keptChars_of_plain h]
  intro hdot
  exact h.2.1 (by rw [← String.ofList_toList (s := raw), hdot])

/-- A plain segment adds its escaped form. -/
theorem addedSegment_plain (special : Bool) {raw : String} (h : PlainSegment raw) :
    addedSegment special raw = encodeSegment special raw :=
  if_neg (keptChars_plain_ne_dot h)

/-- A plain segment that is not empty is not empty once escaped. -/
theorem encodeSegment_plain_ne_empty (special : Bool) {raw : String} (h : PlainSegment raw)
    (hne : raw ≠ "") : encodeSegment special raw ≠ "" := by
  rw [encodeSegment_eq, keptChars_of_plain h, Ne, show "" = String.ofList [] from rfl,
    String.ofList_inj, encodeWith_eq_nil_iff]
  intro hnil
  exact hne (by rw [← String.ofList_toList (s := raw), hnil])

/-- **The first plain segment pushed onto a path of only `/`** replaces it,
in a URL that is not a `file` URL. -/
theorem pushSegment_rootOnly (special : Bool) {segs : List String} {raw : String}
    (hroot : isRootOnly segs = true) (h : PlainSegment raw) :
    pushSegment special false segs raw = [encodeSegment special raw] := by
  have hdot : (encodeSegment special raw == ".") = false := by
    simpa [encodeSegment_eq_dot_iff] using keptChars_plain_ne_dot h
  have hdotdot : (encodeSegment special raw == "..") = false := by
    simpa [encodeSegment_eq_dotDot_iff] using keptChars_plain_ne_dotDot h
  simp [pushSegment, appendEncoded, appendSegment, h.1, h.2.1, hdot, hdotdot, hroot]

/-- The segments of a base path kept in front of pushed ones: one trailing
empty segment is dropped, and none are kept when only `/` remains. -/
def keptBase (segs : List String) : List String :=
  if isRootOnly (popIfEmpty segs) then [] else popIfEmpty segs

/-- **Pushing plain segments appends their escaped forms** to the kept
segments of the base path, in a URL that can be a base and is not a `file`
URL. The first segment pushed onto a base path of only `/` replaces it, so
an empty one is kept only when nothing follows it. -/
theorem pushSegments_plain {u : Url} {ss : List String} (hpath : u.path = .segments ss)
    (hfile : u.scheme ≠ "file") {x : String} {rest : List String}
    (hplain : ∀ raw ∈ x :: rest, PlainSegment raw) (hfirst : x ≠ "" ∨ rest = [] ∨ keptBase ss ≠ []) :
    u.pushSegments (x :: rest) = some { u with
      path := .segments (keptBase ss ++ (x :: rest).map (encodeSegment (isSpecialScheme u.scheme))) } := by
  have hfalse : (u.scheme == "file") = false := by simpa using hfile
  -- every segment after the first is appended as its escaped form
  have hadd : ∀ raw ∈ x :: rest, raw ≠ "." ∧ raw ≠ ".." ∧ keptChars raw ≠ ['.', '.'] :=
    fun raw hraw => ⟨(hplain raw hraw).1, (hplain raw hraw).2.1, keptChars_plain_ne_dotDot (hplain raw hraw)⟩
  have hmap : ∀ l : List String, (∀ raw ∈ l, PlainSegment raw) →
      l.map (addedSegment (isSpecialScheme u.scheme)) = l.map (encodeSegment (isSpecialScheme u.scheme)) :=
    fun l hl => List.map_congr_left fun raw hraw => addedSegment_plain _ (hl raw hraw)
  simp only [pushSegments, hpath, hfalse]
  by_cases hroot : isRootOnly (popIfEmpty ss) = true
  · -- a base path of only `/`: the first segment replaces it
    have hkept : keptBase ss = [] := if_pos hroot
    have hx := hplain x List.mem_cons_self
    rw [List.foldl_cons, pushSegment_rootOnly _ hroot hx, hkept, List.nil_append]
    by_cases hrest : rest = []
    · subst hrest
      rfl
    · have hne : x ≠ "" := by
        rcases hfirst with hne | hnil | hbase
        · exact hne
        · exact (hrest hnil).elim
        · exact (hbase hkept).elim
      have hs : Settled false [encodeSegment (isSpecialScheme u.scheme) x] :=
        ⟨by simp [isRootOnly, encodeSegment_plain_ne_empty _ hx hne], by simp⟩
      rw [foldl_pushSegment_of_settled rest hs fun raw hraw => hadd raw (List.mem_cons_of_mem _ hraw),
        hmap rest fun raw hraw => hplain raw (List.mem_cons_of_mem _ hraw)]
      rfl
  · -- otherwise the base keeps its segments and every segment is appended
    have hkept : keptBase ss = popIfEmpty ss := if_neg hroot
    have hs : Settled false (popIfEmpty ss) := ⟨by simpa using hroot, by simp⟩
    rw [foldl_pushSegment_of_settled (x :: rest) hs hadd, hmap (x :: rest) hplain, hkept]

/-! ## The law -/

/-- `v` is the URL `u` with the segments `added` pushed: it keeps the
scheme, authority, query and fragment of `u`, and its path segments,
decoded, are the kept segments of the path of `u`, decoded, followed by the
bytes of each added segment. -/
def Extends (u v : Url) (added : List String) : Prop :=
  ∃ ss out, u.path = .segments ss ∧ v = { u with path := .segments out } ∧
    out.map decodeSegment = (keptBase ss).map decodeSegment ++ added.map Text.utf8

/-- The URL of plain segments pushed onto a base follows the law. -/
theorem extends_pushSegments {u : Url} {ss : List String} (hpath : u.path = .segments ss)
    (hfile : u.scheme ≠ "file") {x : String} {rest : List String}
    (hplain : ∀ raw ∈ x :: rest, PlainSegment raw) (hfirst : x ≠ "" ∨ rest = [] ∨ keptBase ss ≠ []) :
    ∃ v, u.pushSegments (x :: rest) = some v ∧ Extends u v (x :: rest) := by
  refine ⟨_, pushSegments_plain hpath hfile hplain hfirst, ss, _, hpath, rfl, ?_⟩
  -- each pushed segment decodes to its bytes
  have hdecoded : (x :: rest).map (fun raw => decodeSegment (encodeSegment (isSpecialScheme u.scheme) raw)) =
      (x :: rest).map Text.utf8 :=
    List.map_congr_left fun raw hraw => decodeSegment_plain _ (hplain raw hraw)
  rw [List.map_append, List.map_map, Function.comp_def, hdecoded]

/-- **A URL determines the segments pushed onto its base**: decoding gives
back their bytes, and texts with the same bytes are the same. -/
theorem Extends.determines {u v : Url} {added added' : List String} (h : Extends u v added)
    (h' : Extends u v added') : added = added' := by
  obtain ⟨ss, out, hpath, rfl, hout⟩ := h
  obtain ⟨ss', out', hpath', hv, hout'⟩ := h'
  -- the same base path, and the same path of the URL
  rw [hpath, UrlPath.segments.injEq] at hpath'
  subst hpath'
  have hsame : out = out' := by
    have := congrArg Url.path hv
    simpa using this
  subst hsame
  rw [hout] at hout'
  exact List.map_injective_iff.mpr utf8_injective (List.append_cancel_left hout')

end Url

/-! ## Every URL of a server -/

/-- The URL of an item is its base with the repository, the workspace,
`items`, the item's segments and the trailing ones pushed. -/
theorem itemUrl_eq_joinSegments {ws : Workspace} {path : String} {segs : List String}
    (h : segmentsOf path = .ok segs) (trailing : List String) :
    ws.itemUrl path trailing =
      joinSegments ws.server.baseUrl ([ws.repository.name, ws.name, "items"] ++ segs ++ trailing) := by
  simp [Workspace.itemUrl, h]

/-- **Plain segments pushed onto a base URL that parses** follow the law. -/
theorem joinSegments_extends {base : String} {u : Url} {ss : List String}
    (hparse : Url.parse base = .ok u) (hpath : u.path = .segments ss) (hfile : u.scheme ≠ "file")
    {x : String} {rest : List String} (hplain : ∀ raw ∈ x :: rest, Url.PlainSegment raw)
    (hfirst : x ≠ "" ∨ rest = [] ∨ Url.keptBase ss ≠ []) :
    ∃ v, joinSegments base (x :: rest) = .ok v ∧ Url.Extends u v (x :: rest) := by
  obtain ⟨v, hpush, hv⟩ := Url.extends_pushSegments hpath hfile hplain hfirst
  exact ⟨v, by simp [joinSegments, hparse, hpush], hv⟩

/-- Names of a repository and a workspace the law covers, over a base that
keeps the segments `base`: both plain, and the repository's not empty when
the base keeps no segment. -/
structure PlainNames (base : List String) (r w : String) : Prop where
  repository : Url.PlainSegment r
  workspace : Url.PlainSegment w
  rooted : r ≠ "" ∨ base ≠ []

/-- The URLs under a workspace: plain names, then plain segments of its
own, pushed onto the base. -/
theorem PlainNames.extends_joinSegments {server : Server} {u : Url} {ss : List String}
    (hparse : Url.parse server.baseUrl = .ok u) (hpath : u.path = .segments ss)
    (hfile : u.scheme ≠ "file") {r w : String} (hnames : PlainNames (Url.keptBase ss) r w)
    {more : List String} (hmore : ∀ raw ∈ more, Url.PlainSegment raw) :
    ∃ v, joinSegments server.baseUrl (r :: w :: more) = .ok v ∧ Url.Extends u v (r :: w :: more) := by
  refine joinSegments_extends hparse hpath hfile ?_ ?_
  · intro raw hraw
    rcases List.mem_cons.mp hraw with rfl | hraw
    · exact hnames.repository
    · rcases List.mem_cons.mp hraw with rfl | hraw
      · exact hnames.workspace
      · exact hmore raw hraw
  · rcases hnames.rooted with hr | hbase
    · exact .inl hr
    · exact .inr (.inr hbase)

/-- **The segment law** of the URLs of a server whose base URL parsed to
`u`, with path segments `ss`. Discovery pushes one empty segment. For plain
names `r` and `w`, the URLs of the repository, of the workspace and of its
queries and query plans push their fixed segments; an item URL pushes `r`,
`w`, `items`, the item's segments and the trailing ones when all are plain;
the node type listing is an item URL with its query replaced by
`depth=-1`. And a URL determines the segments pushed. -/
structure SegmentLaw (server : Server) (u : Url) (ss : List String) : Prop where
  discovery : ∃ v, server.discoveryUrl = .ok v ∧ Url.Extends u v [""]
  repository : ∀ {r : String}, Url.PlainSegment r → (r ≠ "" ∨ Url.keptBase ss ≠ []) →
    ∃ v, (Repository.mk r server).url = .ok v ∧ Url.Extends u v [r]
  workspace : ∀ {r w : String}, PlainNames (Url.keptBase ss) r w →
    ∃ v, (Workspace.mk w ⟨r, server⟩).url = .ok v ∧ Url.Extends u v [r, w]
  item : ∀ {r w path : String} {segs trailing : List String}, PlainNames (Url.keptBase ss) r w →
    segmentsOf path = .ok segs → (∀ raw ∈ segs ++ trailing, Url.PlainSegment raw) →
    ∃ v, (Workspace.mk w ⟨r, server⟩).itemUrl path trailing = .ok v ∧
      Url.Extends u v ([r, w, "items"] ++ segs ++ trailing)
  query : ∀ {r w : String}, PlainNames (Url.keptBase ss) r w →
    ∃ v, (Workspace.mk w ⟨r, server⟩).queryUrl = .ok v ∧ Url.Extends u v [r, w, "query"]
  queryPlan : ∀ {r w : String}, PlainNames (Url.keptBase ss) r w →
    ∃ v, (Workspace.mk w ⟨r, server⟩).queryPlanUrl = .ok v ∧ Url.Extends u v [r, w, "queryPlan"]
  nodeTypes : ∀ {r w : String}, PlainNames (Url.keptBase ss) r w →
    ∃ v, (Workspace.mk w ⟨r, server⟩).nodeTypesUrl = .ok (v.setQuery (some "depth=-1")) ∧
      Url.Extends u v [r, w, "items", "jcr:system", "jcr:nodeTypes"]
  determines : ∀ {v : Url} {added added' : List String}, Url.Extends u v added →
    Url.Extends u v added' → added = added'

/-- **Every URL of a server follows the segment law**, when its base URL
parses, can be a base and is not a `file` URL. -/
theorem server_urls_follow_segment_law {server : Server} {u : Url} {ss : List String}
    (hparse : Url.parse server.baseUrl = .ok u) (hpath : u.path = .segments ss)
    (hfile : u.scheme ≠ "file") : SegmentLaw server u ss where
  discovery := joinSegments_extends hparse hpath hfile (by decide) (.inr (.inl rfl))
  repository hr hrooted := by
    rcases hrooted with hne | hbase
    · exact joinSegments_extends hparse hpath hfile (by simpa using hr) (.inl hne)
    · exact joinSegments_extends hparse hpath hfile (by simpa using hr) (.inr (.inr hbase))
  workspace hnames := hnames.extends_joinSegments hparse hpath hfile (by simp)
  item {r w path segs trailing} hnames hsegs hplain := by
    rw [itemUrl_eq_joinSegments hsegs]
    refine hnames.extends_joinSegments hparse hpath hfile fun raw hraw => ?_
    -- `items`, then the item's segments and the trailing ones
    rcases List.mem_cons.mp hraw with rfl | hraw
    · decide
    · exact hplain raw hraw
  query hnames := hnames.extends_joinSegments hparse hpath hfile (by decide)
  queryPlan hnames := hnames.extends_joinSegments hparse hpath hfile (by decide)
  nodeTypes {r w} hnames := by
    have hfixed : ∀ raw ∈ ["items", "jcr:system", "jcr:nodeTypes"], Url.PlainSegment raw := by
      decide
    obtain ⟨v, hv, hext⟩ := hnames.extends_joinSegments hparse hpath hfile hfixed
    refine ⟨v, ?_, hext⟩
    rw [Workspace.nodeTypesUrl, itemUrl_eq_joinSegments segmentsOf_empty]
    simp only [List.append_nil, List.cons_append, List.nil_append]
    rw [show (Workspace.mk w ⟨r, server⟩).server = server from rfl, hv]
    rfl
  determines h h' := h.determines h'

/-- The law at the base URL `a:/`, whose path is only `/`. -/
theorem root_base_urls_follow_segment_law :
    SegmentLaw (Server.new "a:/" "u" "p") ⟨"a", "", none, none, none, .segments [""], none, none⟩ [""] :=
  server_urls_follow_segment_law (by decide +kernel) rfl (by decide)

/-- Pushing segments that push alike gives the same URL. -/
theorem joinSegments_append_congr {a b : String}
    (h : ∀ special file acc, Url.pushSegment special file acc a = Url.pushSegment special file acc b)
    (base : String) (pre : List String) :
    joinSegments base (pre ++ [a]) = joinSegments base (pre ++ [b]) := by
  unfold joinSegments
  rcases Url.parse base with e | u
  · rfl
  · simp only [Url.pushSegments]
    rcases u.path with text | segs
    · rfl
    · simp only [List.foldl_append, List.foldl_cons, List.foldl_nil, h]

/-- **Two item paths with different segments, and two splits of the same
segments between the path and the trailing list, give one URL.** A tab
inside a segment is dropped, and the item's segments run on into the
trailing ones. -/
theorem itemUrl_collisions :
    let ws : Workspace :=
      ⟨"default", ⟨"repo", Server.new "http://localhost:8080/resources" "admin" "admin"⟩⟩
    segmentsOf "/a\tb" = .ok ["a\tb"] ∧ segmentsOf "/ab" = .ok ["ab"] ∧
      ws.itemUrl "/a\tb" [] = ws.itemUrl "/ab" [] ∧
      segmentsOf "/x" = .ok ["x"] ∧ segmentsOf "" = .ok [] ∧
      ws.itemUrl "/x" [] = ws.itemUrl "" ["x"] := by
  intro ws
  have htab : segmentsOf "/a\tb" = .ok ["a\tb"] :=
    segmentsOf_of_joinPath (by decide) (by decide)
  have hplain : segmentsOf "/ab" = .ok ["ab"] :=
    segmentsOf_of_joinPath (by decide) (by decide)
  have hx : segmentsOf "/x" = .ok ["x"] :=
    segmentsOf_of_joinPath (by decide) (by decide)
  -- the tab is dropped before the segment is escaped, and breaks nothing
  have hpush : ∀ special file acc,
      Url.pushSegment special file acc "a\tb" = Url.pushSegment special file acc "ab" := by
    intro special file acc
    have hkept : Url.keptChars "a\tb" = Url.keptChars "ab" := by decide
    have hbreak : Url.breaksAfterSecond "a\tb" = Url.breaksAfterSecond "ab" := by decide
    simp only [Url.pushSegment, Url.encodeSegment_eq, hkept, hbreak]
    rfl
  refine ⟨htab, hplain, ?_, hx, segmentsOf_empty, ?_⟩
  · rw [itemUrl_eq_joinSegments htab, itemUrl_eq_joinSegments hplain, List.append_nil,
      List.append_nil]
    exact joinSegments_append_congr hpush _ _
  · rw [itemUrl_eq_joinSegments hx, itemUrl_eq_joinSegments segmentsOf_empty, List.append_nil,
      List.append_nil]

end ContentPublish
