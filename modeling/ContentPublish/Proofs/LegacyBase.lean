import ContentPublish.Proofs.UrlPathOnward
import ContentPublish.Proofs.Validation
import ContentPublish.Proofs.JsonReadBack
import Mathlib.Data.List.DropRight

/-
  The base URL of a server of the second protocol

  Validation gives a server that speaks the second protocol a base URL of
  its own: its URL with the slashes that end it cut, then `/v1`. A URL
  written as the URL it reads as, with neither query nor fragment, ends in
  a slash exactly when its path ends in an empty segment; so the cut text
  followed by `/v1` reads as that URL with its path cut of its empty last
  segments, then `v1`, as long as the text has no backslash, the URL is
  not a `file` URL and its host is not empty. Every URL built from the
  validated server is then the one built from the server before validation,
  with that path in front of the segments the builder pushes.

  Written otherwise, the base may read otherwise: `/v1` lands in a query or
  a fragment, a backslash that ends the text ends a segment under a special
  scheme, and after an empty host under another scheme the path starts
  where the host was.

  What is stated here:
    1. `trimEndSlashes_append` — a text is its cut text followed by the
       slashes cut from it.
    2. `legacyBase_parse` — the base of the second protocol reads as the
       URL with its path cut and `v1` after it.
    3. `LegacyLaw` and `validated_urls_sit_under_legacy_base` — the URLs of
       a server validated against a second-protocol answer.
-/

namespace ContentPublish

open Url Url.Reading

/-! ## Texts that end in slashes -/

/-- The characters of a path: a slash before each segment. -/
def pathChars (segs : List String) : List Char := segs.flatMap fun seg => '/' :: seg.toList

theorem pathChars_append (a b : List String) : pathChars (a ++ b) = pathChars a ++ pathChars b :=
  List.flatMap_append

theorem pathChars_replicate_empty (k : Nat) :
    pathChars (List.replicate k "") = List.replicate k '/' := by
  induction k with
  | zero => rfl
  | succ k ih =>
    rw [List.replicate_succ, List.replicate_succ, ← ih]
    rfl

/-- A path whose last segment is empty is written with a slash last. -/
theorem getLast?_pathChars_empty (segs : List String) :
    (pathChars (segs ++ [""])).getLast? = some '/' := by
  rw [pathChars_append, List.getLast?_append]
  rfl

theorem getLast?_append_pathChars_empty (pre : List Char) (segs : List String) :
    (pre ++ pathChars (segs ++ [""])).getLast? = some '/' := by
  rw [List.getLast?_append, getLast?_pathChars_empty]
  rfl

/-- A text is its text cut of the slashes that end it, followed by those
slashes; and the cut text ends in no slash. -/
theorem trimEndSlashes_append (s : String) :
    ∃ k, s.toList = (trimEndSlashes s).toList ++ List.replicate k '/' ∧
      ∀ c, (trimEndSlashes s).toList.getLast? = some c → c ≠ '/' := by
  have hcut : (trimEndSlashes s).toList = s.toList.rdropWhile (· == '/') := by
    rw [trimEndSlashes, String.toList_ofList]
    rfl
  refine ⟨(s.toList.rtakeWhile (· == '/')).length, ?_, ?_⟩
  · have hslashes : s.toList.rtakeWhile (· == '/') =
        List.replicate (s.toList.rtakeWhile (· == '/')).length '/' :=
      List.eq_replicate_iff.mpr ⟨rfl, fun b hb => by simpa using List.mem_rtakeWhile_imp hb⟩
    rw [hcut, ← hslashes, List.rdropWhile_append_rtakeWhile]
  · intro c hc
    rw [hcut] at hc
    have hne : s.toList.rdropWhile (· == '/') ≠ [] := fun h => by simp [h] at hc
    have hlast := List.rdropWhile_last_not (· == '/') s.toList hne
    rw [List.getLast?_eq_some_getLast hne] at hc
    rw [← Option.some.inj hc]
    simpa using hlast

/-- The text of a URL with a path of segments and neither query nor fragment
ends in the characters of its path. -/
theorem serialize_toList_eq {u : Url} {ss : List String} (hpath : u.path = .segments ss)
    (hquery : u.query = none) (hfragment : u.fragment = none) :
    ∃ pre, u.serialize.toList = pre ++ pathChars ss := by
  have hpathText : u.pathText.toList = pathChars ss := by
    unfold Url.pathText pathChars
    rw [hpath, String.toList_join, List.flatMap_map]
    simp
  unfold Url.serialize
  rw [hquery, hfragment]
  simp only [String.append_empty, String.toList_append, hpathText]
  exact ⟨_, rfl⟩

/-- **A URL written as it reads, cut of the slashes that end its text.** When
the text of a URL with a path of segments and neither query nor fragment is
a text that ends in no slash followed by `k` slashes, and `kept` is its path
cut of an empty last segment when `k` is `0`, and its path before `k` empty
segments otherwise, then `kept` does not end in an empty segment and the
path is `kept` followed by `k` empty segments. -/
theorem kept_of_written {u : Url} {ss kept : List String} {t : List Char} {k : Nat}
    (hpath : u.path = .segments ss) (hquery : u.query = none) (hfragment : u.fragment = none)
    (htext : u.serialize.toList = t ++ List.replicate k '/')
    (hend : ∀ c, t.getLast? = some c → c ≠ '/')
    (hzero : k = 0 → kept = dropEmptyLast ss) (hsucc : 0 < k → ss = kept ++ List.replicate k "") :
    ss = kept ++ List.replicate k "" ∧ kept.getLast? ≠ some "" := by
  obtain ⟨pre, hpre⟩ := serialize_toList_eq hpath hquery hfragment
  -- a path written after `pre` that ends in an empty segment ends the text in a slash
  have hnotEmpty : ∀ segs, t = pre ++ pathChars segs → segs.getLast? ≠ some "" := by
    intro segs ht hlast
    obtain ⟨init, rfl⟩ := List.getLast?_eq_some_iff.mp hlast
    exact hend '/' (ht ▸ getLast?_append_pathChars_empty pre init) rfl
  cases k with
  | zero =>
    have ht : t = pre ++ pathChars ss := by
      rw [← hpre, htext, List.replicate_zero, List.append_nil]
    have hss := hnotEmpty ss ht
    have hkept : kept = ss := by rw [hzero rfl, dropEmptyLast, if_neg hss]
    subst hkept
    exact ⟨by simp, hss⟩
  | succ j =>
    have hss := hsucc (Nat.succ_pos j)
    refine ⟨hss, hnotEmpty kept ?_⟩
    -- the slashes after the text are the empty segments after `kept`
    rw [hss, pathChars_append, pathChars_replicate_empty, ← List.append_assoc] at hpre
    exact List.append_cancel_right (htext.symm.trans hpre)

/-- Cutting the empty segments that end a path leaves a path that ends in
none. -/
theorem rdropWhile_append_replicate_empty {kept : List String} (hkept : kept.getLast? ≠ some "")
    (k : Nat) : (kept ++ List.replicate k "").rdropWhile (· == "") = kept := by
  induction k with
  | zero =>
    rw [List.replicate_zero, List.append_nil, List.rdropWhile_eq_self_iff]
    intro hl hlast
    have hempty : kept.getLast hl = "" := by simpa using hlast
    exact hkept (by rw [List.getLast?_eq_some_getLast hl, hempty])
  | succ k ih =>
    rw [List.replicate_succ', ← List.append_assoc, List.rdropWhile_concat_pos _ _ "" rfl, ih]

/-- The characters of the segment `v1`. -/
theorem segmentText_v1 : SegmentText ['v', '1'] where
  plain := by decide
  noSlash c hc := by
    rcases List.mem_pair.mp hc with rfl | rfl <;> rfl
  notSingleDot := by decide +kernel
  notDoubleDot := by decide +kernel

/-- **The base of the second protocol reads as the URL under `v1`.** A URL
written as it reads, with a path of segments and neither query nor fragment
nor backslash, that is not a `file` URL and has no empty host: its text cut
of the slashes that end it, followed by `/v1`, reads as the URL with its
path cut of its empty last segments, then `v1`. -/
theorem legacyBase_parse {u : Url} {ss : List String} (hback : Url.parse u.serialize = .ok u)
    (hpath : u.path = .segments ss) (hquery : u.query = none) (hfragment : u.fragment = none)
    (hfile : u.scheme ≠ "file") (hhost : u.host ≠ some (.domain ""))
    (hslash : '\\' ∉ u.serialize.toList) :
    Url.parse (trimEndSlashes u.serialize ++ "/v1") =
      .ok { u with path := .segments (ss.rdropWhile (· == "") ++ ["v1"]) } := by
  obtain ⟨k, hk, hend⟩ := trimEndSlashes_append u.serialize
  have hsub : (trimEndSlashes u.serialize).toList ⊆ u.serialize.toList := by
    rw [hk]
    exact List.subset_append_left _ _
  have hplain : PlainText (trimEndSlashes u.serialize).toList :=
    ((parse_plainParts hback).plainText_serialize hpath hquery hfragment).subset hsub
  have hendt : EndsOffSlash true (trimEndSlashes u.serialize).toList := by
    intro c hc
    have hback' : c ≠ '\\' := fun h => hslash (h ▸ hsub (List.mem_of_getLast? hc))
    simp [isSlash, hend c hc, hback']
  have hu : Url.parse (trimEndSlashes u.serialize ++ String.ofList (List.replicate k '/')) = .ok u := by
    rw [show trimEndSlashes u.serialize ++ String.ofList (List.replicate k '/') = u.serialize from
      String.ext (by rw [String.toList_append, String.toList_ofList, ← hk])]
    exact hback
  obtain ⟨kept, hparse, hzero, hsucc⟩ :=
    parse_append_segment hplain hendt hu hpath hfile hhost segmentText_v1
  obtain ⟨hss, hkept⟩ := kept_of_written hpath hquery hfragment hk hend hzero hsucc
  have hv1 : String.ofList (encodeWith pathSet ['v', '1']) = "v1" := by decide
  rw [show "/v1" = String.ofList ('/' :: ['v', '1']) by decide, hparse, hv1, hss,
    rdropWhile_append_replicate_empty hkept]

/-! ## The URLs of a validated server -/

/-- The URL `x` with its path replaced by `base`, then `v1`, then the escaped
forms of the segments `added`. -/
def Url.underLegacyBase (x : Url) (base added : List String) : Url :=
  { x with path := .segments (base ++ "v1" :: added.map (encodeSegment (isSpecialScheme x.scheme))) }

/-- The node type listing replaces the query, which the legacy path leaves
alone. -/
theorem setQuery_underLegacyBase (x : Url) (base added : List String) (q : Option String) :
    (x.underLegacyBase base added).setQuery q = (x.setQuery q).underLegacyBase base added := by
  cases q <;> rfl

/-- The node type listing is the item URL of `jcr:system/jcr:nodeTypes` at
the root of the workspace, with its query replaced by `depth=-1`. -/
theorem nodeTypesUrl_eq_joinSegments (ws : Workspace) :
    ws.nodeTypesUrl = (joinSegments ws.server.baseUrl
      [ws.repository.name, ws.name, "items", "jcr:system", "jcr:nodeTypes"]).map
        fun x => x.setQuery (some "depth=-1") := by
  rw [Workspace.nodeTypesUrl, itemUrl_eq_joinSegments segmentsOf_empty]
  rfl

/-- Segments pushed onto a base URL with a path of segments change only its
path. -/
theorem joinSegments_of_segments {base : String} {u : Url} {ss : List String}
    (hparse : Url.parse base = .ok u) (hpath : u.path = .segments ss) (segs : List String) :
    ∃ P, joinSegments base segs = .ok { u with path := .segments P } := by
  refine ⟨segs.foldl (pushSegment (isSpecialScheme u.scheme) (u.scheme == "file")) (popIfEmpty ss), ?_⟩
  simp [joinSegments, hparse, pushSegments, hpath]

/-- A base that ends in `v1` keeps every segment of its path. -/
theorem keptBase_append_v1 (kept : List String) : keptBase (kept ++ ["v1"]) = kept ++ ["v1"] := by
  have hroot : ¬kept ++ ["v1"] = [""] := fun h => by simpa using congrArg List.getLast? h
  simp [keptBase, popIfEmpty, isRootOnly, hroot]

/-- **Plain segments pushed onto a base, and onto its legacy base.** When a
second text reads as the URL of the first with its path replaced by `kept`
and `v1`, plain segments pushed onto the second give the URL they give on
the first, with its path replaced by `kept`, `v1` and their escaped forms. -/
theorem joinSegments_legacy {base legacy : String} {u : Url} {ss kept : List String}
    (hparse : Url.parse base = .ok u) (hpath : u.path = .segments ss) (hfile : u.scheme ≠ "file")
    (hlegacy : Url.parse legacy = .ok { u with path := .segments (kept ++ ["v1"]) })
    {segs : List String} (hne : segs ≠ []) (hplain : ∀ raw ∈ segs, PlainSegment raw) :
    ∃ x, joinSegments base segs = .ok x ∧
      joinSegments legacy segs = .ok (x.underLegacyBase kept segs) := by
  obtain ⟨P, hP⟩ := joinSegments_of_segments hparse hpath segs
  refine ⟨_, hP, ?_⟩
  obtain ⟨x, rest, rfl⟩ := List.exists_cons_of_ne_nil hne
  -- the legacy base keeps all of its path, so the pushed segments follow it
  have hkept : keptBase (kept ++ ["v1"]) ≠ [] := by simp [keptBase_append_v1]
  have hpush := @pushSegments_plain { u with path := .segments (kept ++ ["v1"]) } _ rfl hfile x rest
    hplain (.inr (.inr hkept))
  simp [joinSegments, hlegacy, hpush, keptBase_append_v1, Url.underLegacyBase]

/-- **The legacy law** between a server `s` and a server `v` validated from
it under the second protocol, whose base keeps the segments `base` before
`v1`: each URL built from `v` for plain names is the URL built the same way
from `s` before validation, with its path replaced by `base`, `v1` and the
escaped forms of the segments that builder pushes. -/
structure LegacyLaw (s v : Server) (base : List String) : Prop where
  discovery : ∃ x, s.unvalidated.discoveryUrl = .ok x ∧
    v.discoveryUrl = .ok (x.underLegacyBase base [""])
  repository : ∀ {r : String}, PlainSegment r →
    ∃ x, (Repository.mk r s.unvalidated).url = .ok x ∧
      (Repository.mk r v).url = .ok (x.underLegacyBase base [r])
  workspace : ∀ {r w : String}, PlainSegment r → PlainSegment w →
    ∃ x, (Workspace.mk w ⟨r, s.unvalidated⟩).url = .ok x ∧
      (Workspace.mk w ⟨r, v⟩).url = .ok (x.underLegacyBase base [r, w])
  item : ∀ {r w path : String} {segs trailing : List String}, PlainSegment r → PlainSegment w →
    segmentsOf path = .ok segs → (∀ raw ∈ segs ++ trailing, PlainSegment raw) →
    ∃ x, (Workspace.mk w ⟨r, s.unvalidated⟩).itemUrl path trailing = .ok x ∧
      (Workspace.mk w ⟨r, v⟩).itemUrl path trailing =
        .ok (x.underLegacyBase base ([r, w, "items"] ++ segs ++ trailing))
  query : ∀ {r w : String}, PlainSegment r → PlainSegment w →
    ∃ x, (Workspace.mk w ⟨r, s.unvalidated⟩).queryUrl = .ok x ∧
      (Workspace.mk w ⟨r, v⟩).queryUrl = .ok (x.underLegacyBase base [r, w, "query"])
  queryPlan : ∀ {r w : String}, PlainSegment r → PlainSegment w →
    ∃ x, (Workspace.mk w ⟨r, s.unvalidated⟩).queryPlanUrl = .ok x ∧
      (Workspace.mk w ⟨r, v⟩).queryPlanUrl = .ok (x.underLegacyBase base [r, w, "queryPlan"])
  nodeTypes : ∀ {r w : String}, PlainSegment r → PlainSegment w →
    ∃ x, (Workspace.mk w ⟨r, s.unvalidated⟩).nodeTypesUrl = .ok x ∧
      (Workspace.mk w ⟨r, v⟩).nodeTypesUrl =
        .ok (x.underLegacyBase base [r, w, "items", "jcr:system", "jcr:nodeTypes"])

section LegacyLaw

variable {s v : Server} {u : Url} {ss kept : List String}

/-- The URLs under a workspace with plain names: pushed onto the server's
URL, and onto the legacy base. -/
theorem joinSegments_names_legacy (hparse : Url.parse s.url = .ok u) (hpath : u.path = .segments ss)
    (hfile : u.scheme ≠ "file")
    (hlegacy : Url.parse v.baseUrl = .ok { u with path := .segments (kept ++ ["v1"]) })
    {r w : String} (hr : PlainSegment r) (hw : PlainSegment w) {more : List String}
    (hmore : ∀ raw ∈ more, PlainSegment raw) :
    ∃ x, joinSegments s.unvalidated.baseUrl (r :: w :: more) = .ok x ∧
      joinSegments v.baseUrl (r :: w :: more) = .ok (x.underLegacyBase kept (r :: w :: more)) :=
  joinSegments_legacy hparse hpath hfile hlegacy (List.cons_ne_nil _ _)
    (List.forall_mem_cons.mpr ⟨hr, List.forall_mem_cons.mpr ⟨hw, hmore⟩⟩)

/-- **Every URL of a server validated under the second protocol follows the
legacy law**, when the server's URL reads as a URL with a path of segments
that is not a `file` URL, and the validated base reads as that URL with its
path replaced by `kept` and `v1`. -/
theorem legacyLaw_of_parse (hparse : Url.parse s.url = .ok u) (hpath : u.path = .segments ss)
    (hfile : u.scheme ≠ "file")
    (hlegacy : Url.parse v.baseUrl = .ok { u with path := .segments (kept ++ ["v1"]) }) :
    LegacyLaw s v kept where
  discovery := joinSegments_legacy hparse hpath hfile hlegacy (List.cons_ne_nil _ _) (by decide)
  repository hr :=
    joinSegments_legacy hparse hpath hfile hlegacy (List.cons_ne_nil _ _) (by simpa using hr)
  workspace hr hw := joinSegments_names_legacy hparse hpath hfile hlegacy hr hw (by simp)
  item {r w path segs trailing} hr hw hsegs hplain := by
    rw [itemUrl_eq_joinSegments hsegs, itemUrl_eq_joinSegments hsegs]
    -- `items`, then the item's segments and the trailing ones
    exact joinSegments_names_legacy hparse hpath hfile hlegacy hr hw
      (List.forall_mem_cons.mpr ⟨by decide, hplain⟩)
  query hr hw := joinSegments_names_legacy hparse hpath hfile hlegacy hr hw (by decide)
  queryPlan hr hw := joinSegments_names_legacy hparse hpath hfile hlegacy hr hw (by decide)
  nodeTypes {r w} hr hw := by
    have hfixed : ∀ raw ∈ ["items", "jcr:system", "jcr:nodeTypes"], PlainSegment raw := by decide
    obtain ⟨x, hx, hv⟩ := joinSegments_names_legacy hparse hpath hfile hlegacy hr hw hfixed
    refine ⟨x.setQuery (some "depth=-1"), ?_, ?_⟩
    · rw [nodeTypesUrl_eq_joinSegments]
      exact congrArg (Except.map _) hx
    · rw [nodeTypesUrl_eq_joinSegments, ← setQuery_underLegacyBase]
      exact congrArg (Except.map _) hv

end LegacyLaw

/-- An answer of the second protocol to the discovery request: status `200`
and a document whose `repositories` is an array. -/
def SecondProtocolAnswer (resp : Response) : Prop :=
  resp.status = statusOk ∧
    ∃ doc items, parseBody resp.body = .ok doc ∧ doc.get? "repositories" = some (.array items)

/-- An answer of the second protocol validates the server under its legacy
base. -/
theorem validateOutcome_second {s : Server} {resp : Response} (h : SecondProtocolAnswer resp) :
    validateOutcome s (.ok resp) = .ok (s.unvalidated.asValidated (trimEndSlashes s.url ++ "/v1") .v2) := by
  obtain ⟨hstatus, doc, items, hdoc, hrepos⟩ := h
  have hv : determineVersion resp.body = .ok .v2 := by simp [determineVersion, hdoc, hrepos]
  simp [validateOutcome, hstatus, hv]

/-- **The URLs of a server validated under the second protocol sit under its
legacy base.** Take a server whose URL text is the URL it reads as, with a
path of segments and neither query nor fragment nor backslash, not a `file`
URL and with no empty host; and a transport that answers the discovery
request with a document of the second protocol. Validation gives a server of
the second protocol with the same URL, user and password, whose every URL
is the one built the same way before validation, with its path replaced by
the URL's path cut of its empty last segments, then `v1`, then the segments
the builder pushes. -/
theorem validated_urls_sit_under_legacy_base {σ : Type} (t : Transport σ) (s : Server)
    (w : World σ) {u : Url} {ss : List String} (hread : Url.parse s.url = .ok u)
    (hwritten : u.serialize = s.url) (hpath : u.path = .segments ss) (hquery : u.query = none)
    (hfragment : u.fragment = none) (hfile : u.scheme ≠ "file") (hhost : u.host ≠ some (.domain ""))
    (hback : '\\' ∉ s.url.toList)
    (hanswer : ∀ d, s.unvalidated.discoveryUrl = .ok d →
      ∃ resp, (t.respond s.unvalidated (Request.get d) w.remote).1 = .ok resp ∧
        SecondProtocolAnswer resp) :
    ∃ v, (Session.run (Session.validate t s) w).1 = .ok v ∧ v.protocol = some .v2 ∧
      v.url = s.url ∧ v.user = s.user ∧ v.password = s.password ∧
      LegacyLaw s v (ss.rdropWhile (· == "")) := by
  obtain ⟨P, hP⟩ := joinSegments_of_segments hread hpath [""]
  have hd : s.unvalidated.discoveryUrl = .ok { u with path := .segments P } := hP
  obtain ⟨resp, hresp, hsecond⟩ := hanswer _ hd
  have hlegacy : Url.parse (trimEndSlashes s.url ++ "/v1") =
      .ok { u with path := .segments (ss.rdropWhile (· == "") ++ ["v1"]) } := by
    rw [← hwritten]
    exact legacyBase_parse (hwritten ▸ hread) hpath hquery hfragment hfile hhost (hwritten ▸ hback)
  refine ⟨s.unvalidated.asValidated (trimEndSlashes s.url ++ "/v1") .v2, ?_, rfl, rfl, rfl, rfl,
    legacyLaw_of_parse hread hpath hfile hlegacy⟩
  rw [Session.run_validate, hd]
  dsimp only
  rw [hresp, validateOutcome_second hsecond]

/-- A server at `a://h/p/`, validated against a transport that answers every
request with a second-protocol discovery document, builds its URLs under
`a://h/p/v1`. -/
theorem validated_urls_under_legacy_base_at_path :
    let doc : Json.Value := .object [("repositories", .array [])]
    let t : Transport Unit := ⟨fun _ _ _ => (.ok ⟨200, doc.render⟩, ())⟩
    let s : Server := ⟨"a://h/p/", "u", "p", none, none⟩
    ∃ v, (Session.run (Session.validate t s) ⟨(), LocalFiles.empty, []⟩).1 = .ok v ∧
      v.protocol = some .v2 ∧ v.url = s.url ∧ v.user = s.user ∧ v.password = s.password ∧
      LegacyLaw s v (["p", ""].rdropWhile (· == "")) := by
  intro doc t s
  have hread : Url.parse s.url =
      .ok ⟨"a", "", none, some (.domain "h"), none, .segments ["p", ""], none, none⟩ := by
    decide +kernel
  have hcanon : doc.Canonical := .object (List.pairwise_singleton _ _) fun p hp => by
    rw [List.mem_singleton] at hp
    subst hp
    exact .array (by simp)
  have hdepth : doc.depth < Json.Reader.nestingLimit := by decide
  have hanswer : ∀ d, s.unvalidated.discoveryUrl = .ok d →
      ∃ resp, (t.respond s.unvalidated (Request.get d) ()).1 = .ok resp ∧ SecondProtocolAnswer resp :=
    fun _ _ => ⟨_, rfl, rfl, doc, [], by rw [parseBody, Json.parse_render hcanon hdepth], rfl⟩
  exact validated_urls_sit_under_legacy_base t s ⟨(), LocalFiles.empty, []⟩ hread (by decide +kernel)
    rfl rfl rfl (by decide) (by decide) (by decide) hanswer

end ContentPublish
