import ContentPublish.Proofs.Exchange
import ContentPublish.Proofs.PathSegments
import ContentPublish.Remote.Memory
import Mathlib.Data.List.Nodup

/-
  Making a folder exist, over any transport

  Making the folder at a path exist talks to the server in a fixed pattern,
  whatever the server answers. Nothing is sent for a path that is refused or
  has no segments. Otherwise the folder itself is read first; if it answered
  `200` the run is over. If not, each prefix of the path is visited from the
  top down: it is read, and created when the read did not answer `200`. The
  first failure to connect, or a create not answered `201`, ends the run
  with an error.

  The pattern is stated as two relations between the exchanges of a run and
  its result: `PrefixWalk` for the visit of the prefixes and `FolderTalk`
  for the whole. From them: every create goes to a prefix whose parent
  prefix was confirmed earlier in the run, the created URLs are taken from
  the prefixes in order, and a run that succeeds has confirmed every prefix
  (or found the folder at once).

  What is stated here:
    1. `prefixPaths` — the paths of the prefixes the walk visits.
    2. `PrefixWalk` and `FolderTalk` — the pattern of the exchanges, and
       what every run of the pattern does.
    3. `stepUrls` and `FolderLayout` — the URLs of the prefixes of a path
       none of whose segments reads `..`, which are all distinct.
    4. `createMissing_talked` and `ensureFolderExists_talked` — every run
       follows the pattern; `ensureFolderExists_follows_pattern` — what
       follows for every transport.
-/

namespace ContentPublish

/-- The paths of the prefixes visited after `done`: `done`, a slash and the
first segment, then that with the next segment, and so on. -/
def prefixPaths (done : String) : List String → List String
  | [] => []
  | s :: rest => (done ++ "/" ++ s) :: prefixPaths (done ++ "/" ++ s) rest

theorem prefixPaths_joinPath (pre : List String) :
    ∀ segs : List String, prefixPaths (joinPath pre) segs =
      (List.range segs.length).map fun k => joinPath (pre ++ segs.take (k + 1))
  | [] => rfl
  | s :: rest => by
    rw [prefixPaths, ← joinPath_append_single, prefixPaths_joinPath (pre ++ [s]) rest,
      List.length_cons, List.range_succ_eq_map, List.map_cons, List.map_map]
    simp [Function.comp_def, List.append_assoc]

/-- The prefixes of an item path's segments, from the top: the path of the
first segment, of the first two, and so on to the whole. -/
theorem prefixPaths_empty (segs : List String) :
    prefixPaths "" segs = (List.range segs.length).map fun k => joinPath (segs.take (k + 1)) := by
  simpa using prefixPaths_joinPath [] segs

/-- An exchange that confirms the node at `u`: a read answered `200`, or a
create answered `201`. -/
def Confirms (u : Url) (x : Exchange) : Prop :=
  (x.request = Request.get u ∧ ∃ resp, x.answer = .ok resp ∧ resp.status = statusOk) ∨
    (x.request.method = .post ∧ x.request.url = u ∧
      ∃ resp, x.answer = .ok resp ∧ resp.status = statusCreated)

/-- The exchanges of the visit of the prefixes at the URLs `urls` (each
possibly a failure to build it), and the result. -/
inductive PrefixWalk : List (Except Error Url) → List Exchange → Except Error Unit → Prop where
  /-- Every prefix was confirmed. -/
  | done : PrefixWalk [] [] (.ok ())
  /-- The URL of the next prefix could not be built: nothing is sent. -/
  | noUrl {e : Error} {urls : List (Except Error Url)} : PrefixWalk (.error e :: urls) [] (.error e)
  /-- Reading the next prefix failed to connect. -/
  | readFails {u : Url} {urls : List (Except Error Url)} {e : Error} :
      PrefixWalk (.ok u :: urls) [⟨Request.get u, .error e⟩] (.error e)
  /-- The next prefix answered `200`: it is not created. -/
  | found {u : Url} {urls : List (Except Error Url)} {resp : Response} {xs : List Exchange}
      {res : Except Error Unit} :
      resp.status = statusOk → PrefixWalk urls xs res →
      PrefixWalk (.ok u :: urls) (⟨Request.get u, .ok resp⟩ :: xs) res
  /-- The next prefix did not answer `200` and its create answered `201`. -/
  | created {u : Url} {urls : List (Except Error Url)} {resp resp' : Response} {req : Request}
      {xs : List Exchange} {res : Except Error Unit} :
      resp.status ≠ statusOk → req.method = .post → req.url = u → resp'.status = statusCreated →
      PrefixWalk urls xs res →
      PrefixWalk (.ok u :: urls) (⟨Request.get u, .ok resp⟩ :: ⟨req, .ok resp'⟩ :: xs) res
  /-- The next prefix did not answer `200` and its create failed to connect
  or answered another status: the run ends with an error. -/
  | createFails {u : Url} {urls : List (Except Error Url)} {resp : Response} {req : Request}
      {answer : Except Error Response} {e : Error} :
      resp.status ≠ statusOk → req.method = .post → req.url = u →
      (answer = .error e ∨ ∃ resp', answer = .ok resp' ∧ resp'.status ≠ statusCreated) →
      PrefixWalk (.ok u :: urls) [⟨Request.get u, .ok resp⟩, ⟨req, answer⟩] (.error e)

/-- The exchanges of making the folder at `path` of `ws` exist, and the
result. -/
inductive FolderTalk (ws : Workspace) (path : String) : List Exchange → Except Error Unit → Prop where
  /-- The path is refused: nothing is sent. -/
  | refused {e : Error} : segmentsOf path = .error e → FolderTalk ws path [] (.error e)
  /-- The path has no segment: nothing is sent. -/
  | root : segmentsOf path = .ok [] → FolderTalk ws path [] (.ok ())
  /-- The folder's URL could not be built: nothing is sent. -/
  | noUrl {segs : List String} {e : Error} : segmentsOf path = .ok segs → segs ≠ [] →
      ws.itemUrl path [] = .error e → FolderTalk ws path [] (.error e)
  /-- Reading the folder failed to connect. -/
  | readFails {segs : List String} {u : Url} {e : Error} : segmentsOf path = .ok segs →
      segs ≠ [] → ws.itemUrl path [] = .ok u →
      FolderTalk ws path [⟨Request.get u, .error e⟩] (.error e)
  /-- The folder answered `200`: nothing more is sent. -/
  | found {segs : List String} {u : Url} {resp : Response} : segmentsOf path = .ok segs →
      segs ≠ [] → ws.itemUrl path [] = .ok u → resp.status = statusOk →
      FolderTalk ws path [⟨Request.get u, .ok resp⟩] (.ok ())
  /-- The folder did not answer `200`: its prefixes are visited from the top. -/
  | walk {segs : List String} {u : Url} {resp : Response} {xs : List Exchange}
      {res : Except Error Unit} : segmentsOf path = .ok segs → segs ≠ [] →
      ws.itemUrl path [] = .ok u → resp.status ≠ statusOk →
      PrefixWalk ((prefixPaths "" segs).map (ws.itemUrl · [])) xs res →
      FolderTalk ws path (⟨Request.get u, .ok resp⟩ :: xs) res

/-! ## What the pattern implies -/

/-- The URLs the exchanges create at, in order. -/
def createdUrls (xs : List Exchange) : List Url :=
  xs.filterMap fun x => if x.request.method = .post then some x.request.url else none

/-- An exchange that ends a run: the transport failed, or a create was not
answered `201`. -/
def Exchange.Stops (x : Exchange) : Prop :=
  (∃ e, x.answer = .error e) ∨
    (x.request.method = .post ∧ ∃ resp, x.answer = .ok resp ∧ resp.status ≠ statusCreated)

@[simp] theorem createdUrls_nil : createdUrls [] = [] := rfl

@[simp] theorem createdUrls_get (u : Url) (answer : Except Error Response) (xs : List Exchange) :
    createdUrls (⟨Request.get u, answer⟩ :: xs) = createdUrls xs := by
  simp [createdUrls, Request.get, Request.new]

theorem createdUrls_post {req : Request} (answer : Except Error Response) (xs : List Exchange)
    (h : req.method = .post) : createdUrls (⟨req, answer⟩ :: xs) = req.url :: createdUrls xs := by
  simp [createdUrls, h]

theorem createdUrls_append (xs ys : List Exchange) :
    createdUrls (xs ++ ys) = createdUrls xs ++ createdUrls ys :=
  List.filterMap_append

/-- Nothing is created exactly when no exchange is a create. -/
theorem createdUrls_eq_nil_iff {xs : List Exchange} :
    createdUrls xs = [] ↔ ∀ x ∈ xs, x.request.method ≠ .post := by
  simp [createdUrls, List.filterMap_eq_nil_iff]

theorem get_not_post {u : Url} {answer : Except Error Response}
    (h : (Exchange.mk (Request.get u) answer).request.method = .post) : False := by
  cases h

theorem not_stops_get {u : Url} {resp : Response} :
    ¬ Exchange.Stops ⟨Request.get u, .ok resp⟩ := by
  rintro (⟨e, he⟩ | ⟨hpost, -⟩)
  · cases he
  · exact get_not_post hpost

theorem not_stops_created {req : Request} {resp : Response} (h : resp.status = statusCreated) :
    ¬ Exchange.Stops ⟨req, .ok resp⟩ := by
  rintro (⟨e, he⟩ | ⟨-, resp', hresp, hst⟩)
  · cases he
  · cases hresp
    exact hst h

theorem length_prefixPaths : ∀ (done : String) (segs : List String),
    (prefixPaths done segs).length = segs.length
  | _, [] => rfl
  | done, s :: rest => by rw [prefixPaths, List.length_cons, length_prefixPaths, List.length_cons]

/-- The `k`-th URL the walk visits is that of the first `k + 1` segments. -/
theorem prefixUrls_getElem? {ws : Workspace} {segs : List String} {k : Nat}
    {r : Except Error Url} (h : ((prefixPaths "" segs).map (ws.itemUrl · []))[k]? = some r) :
    k < segs.length ∧ r = ws.itemUrl (joinPath (segs.take (k + 1))) [] := by
  rw [prefixPaths_empty, List.map_map, List.getElem?_map] at h
  by_cases hk : k < segs.length
  · rw [List.getElem?_range hk] at h
    simp only [Option.map_some, Option.some.injEq, Function.comp_apply] at h
    exact ⟨hk, h.symm⟩
  · rw [List.getElem?_eq_none (by simpa using Nat.le_of_not_lt hk)] at h
    cases h

namespace PrefixWalk

variable {urls : List (Except Error Url)} {xs : List Exchange} {res : Except Error Unit}

/-- The walk creates at the visited URLs, in their order, each at most once
for each visit. -/
theorem createdUrls_sublist (h : PrefixWalk urls xs res) :
    (createdUrls xs).Sublist (urls.filterMap Except.toOption) := by
  induction h with
  | done => simp
  | noUrl => simp
  | readFails => simp
  | found _ _ ih => simpa [Except.toOption] using ih.cons _
  | @created u _ _ _ _ _ _ _ hpost hurl _ _ ih =>
    rw [createdUrls_get, createdUrls_post _ _ hpost, hurl]
    simpa [Except.toOption] using ih.cons_cons u
  | createFails _ hpost hurl _ =>
    rw [createdUrls_get, createdUrls_post _ _ hpost, hurl]
    simp [Except.toOption]

/-- **A create comes after every earlier prefix was confirmed**: the create
at position `i` goes to the URL of some prefix `k`, and each prefix before
`k` was confirmed at a position before `i`. -/
theorem created_after_confirmed (h : PrefixWalk urls xs res) :
    ∀ {i : Nat} {x : Exchange}, xs[i]? = some x → x.request.method = .post →
      ∃ k : Nat, urls[k]? = some (.ok x.request.url) ∧
        ∀ k' < k, ∃ j < i, ∃ u y, urls[k']? = some (.ok u) ∧ xs[j]? = some y ∧ Confirms u y := by
  induction h with
  | done => simp
  | noUrl => simp
  | readFails =>
    rintro (_ | _) x hx hpost
    · cases hx
      exact (get_not_post hpost).elim
    · cases hx
  | @found u _ resp _ _ hst _ ih =>
    rintro (_ | i) x hx hpost
    · cases hx
      exact (get_not_post hpost).elim
    · obtain ⟨k, hk, hbefore⟩ := ih hx hpost
      refine ⟨k + 1, hk, fun k' hk' => ?_⟩
      cases k' with
      | zero => exact ⟨0, by omega, u, _, rfl, rfl, .inl ⟨rfl, resp, rfl, hst⟩⟩
      | succ k' =>
        obtain ⟨j, hj, rest⟩ := hbefore k' (by omega)
        exact ⟨j + 1, by omega, rest⟩
  | @created u _ _ resp' req _ _ _ hpost hurl hst' _ ih =>
    rintro (_ | _ | i) x hx hpost'
    · cases hx
      exact (get_not_post hpost').elim
    · cases hx
      exact ⟨0, by rw [hurl]; rfl, fun k' hk' => absurd hk' (Nat.not_lt_zero k')⟩
    · obtain ⟨k, hk, hbefore⟩ := ih hx hpost'
      refine ⟨k + 1, hk, fun k' hk' => ?_⟩
      cases k' with
      | zero => exact ⟨1, by omega, u, _, rfl, rfl, .inr ⟨hpost, hurl, resp', rfl, hst'⟩⟩
      | succ k' =>
        obtain ⟨j, hj, rest⟩ := hbefore k' (by omega)
        exact ⟨j + 2, by omega, rest⟩
  | createFails _ _ hurl _ =>
    rintro (_ | _ | i) x hx hpost'
    · cases hx
      exact (get_not_post hpost').elim
    · cases hx
      exact ⟨0, by rw [hurl]; rfl, fun k' hk' => absurd hk' (Nat.not_lt_zero k')⟩
    · cases hx

/-- **A walk that succeeds confirmed every prefix.** -/
theorem confirms_every (h : PrefixWalk urls xs res) (hok : res = .ok ()) :
    ∀ k < urls.length, ∃ u, ∃ j : Nat, ∃ y, urls[k]? = some (.ok u) ∧ xs[j]? = some y ∧
      Confirms u y := by
  induction h with
  | done => simp
  | noUrl => cases hok
  | readFails => cases hok
  | createFails => cases hok
  | @found u _ resp _ _ hst _ ih =>
    rintro (_ | k) hk
    · exact ⟨u, 0, _, rfl, rfl, .inl ⟨rfl, resp, rfl, hst⟩⟩
    · obtain ⟨u', j, y, hu', hy, hconf⟩ := ih hok k (by simpa using hk)
      exact ⟨u', j + 1, y, hu', hy, hconf⟩
  | @created u _ _ resp' _ _ _ _ hpost hurl hst' _ ih =>
    rintro (_ | k) hk
    · exact ⟨u, 1, _, rfl, rfl, .inr ⟨hpost, hurl, resp', rfl, hst'⟩⟩
    · obtain ⟨u', j, y, hu', hy, hconf⟩ := ih hok k (by simpa using hk)
      exact ⟨u', j + 2, y, hu', hy, hconf⟩

/-- **A failed exchange is the last one, and the walk fails.** -/
theorem stops_last (h : PrefixWalk urls xs res) :
    ∀ {i : Nat} {x : Exchange}, xs[i]? = some x → x.Stops →
      i + 1 = xs.length ∧ ∃ e, res = .error e := by
  induction h with
  | done => simp
  | noUrl => simp
  | @readFails _ _ e =>
    rintro (_ | _) x hx _
    · exact ⟨rfl, e, rfl⟩
    · cases hx
  | found _ _ ih =>
    rintro (_ | i) x hx hstop
    · cases hx
      exact (not_stops_get hstop).elim
    · obtain ⟨hlen, hres⟩ := ih hx hstop
      exact ⟨by simp [hlen], hres⟩
  | created _ _ _ hst' _ ih =>
    rintro (_ | _ | i) x hx hstop
    · cases hx
      exact (not_stops_get hstop).elim
    · cases hx
      exact (not_stops_created hst' hstop).elim
    · obtain ⟨hlen, hres⟩ := ih hx hstop
      exact ⟨by simp [hlen], hres⟩
  | @createFails _ _ _ _ _ e =>
    rintro (_ | _ | i) x hx hstop
    · cases hx
      exact (not_stops_get hstop).elim
    · exact ⟨rfl, e, rfl⟩
    · cases hx

/-- The walk only reads and creates. -/
theorem methods (h : PrefixWalk urls xs res) :
    ∀ x ∈ xs, x.request.method = .get ∨ x.request.method = .post := by
  induction h with
  | done => simp
  | noUrl => simp
  | readFails => simp [Request.get, Request.new]
  | found _ _ ih =>
    intro x hx
    rcases List.mem_cons.mp hx with rfl | hx
    · exact .inl rfl
    · exact ih x hx
  | created _ hpost _ _ _ ih =>
    intro x hx
    rcases List.mem_cons.mp hx with rfl | hx
    · exact .inl rfl
    rcases List.mem_cons.mp hx with rfl | hx
    · exact .inr hpost
    · exact ih x hx
  | createFails _ hpost _ _ =>
    intro x hx
    rcases List.mem_cons.mp hx with rfl | hx
    · exact .inl rfl
    rcases List.mem_cons.mp hx with rfl | hx
    · exact .inr hpost
    · cases hx

end PrefixWalk

/-! ## The URLs of the prefixes -/

/-- The URLs the walk visits after the items path `base`, when each prefix
adds one of `adds`: `base` with the first of them, then with the first two,
and so on. -/
def stepUrls (items : Url) (base : List String) : List String → List Url
  | [] => []
  | a :: adds => { items with path := .segments (base ++ [a]) } :: stepUrls items (base ++ [a]) adds

/-- The URLs visited after `base` are `base` with each nonempty prefix of
the added segments. -/
theorem mem_stepUrls {items v : Url} :
    ∀ {adds base : List String}, v ∈ stepUrls items base adds ↔
      ∃ more, more ≠ [] ∧ more <+: adds ∧ v = { items with path := .segments (base ++ more) }
  | [], base => by
    simp only [stepUrls, List.not_mem_nil, false_iff, not_exists, not_and]
    intro more hmore hpre
    exact (hmore (List.prefix_nil.mp hpre)).elim
  | a :: adds, base => by
    rw [stepUrls, List.mem_cons, mem_stepUrls]
    constructor
    · rintro (rfl | ⟨more, -, hpre, rfl⟩)
      · exact ⟨[a], by simp, List.cons_prefix_cons.mpr ⟨rfl, List.nil_prefix⟩, rfl⟩
      · exact ⟨a :: more, by simp, List.cons_prefix_cons.mpr ⟨rfl, hpre⟩, by simp⟩
    · rintro ⟨more, hmore, hpre, rfl⟩
      obtain ⟨b, rest, rfl⟩ := List.exists_cons_of_ne_nil hmore
      obtain ⟨rfl, hrest⟩ := List.cons_prefix_cons.mp hpre
      by_cases hnil : rest = []
      · subst hnil
        exact .inl rfl
      · exact .inr ⟨rest, hnil, hrest, by simp⟩

/-- The URLs visited for more added segments: those for the first ones, then
those after them. -/
theorem stepUrls_append (items : Url) :
    ∀ (adds more base : List String),
      stepUrls items base (adds ++ more) = stepUrls items base adds ++ stepUrls items (base ++ adds) more
  | [], more, base => by simp [stepUrls]
  | a :: adds, more, base => by
    rw [List.cons_append, stepUrls, stepUrls, stepUrls_append items adds more (base ++ [a])]
    simp

theorem length_stepUrls (items : Url) :
    ∀ (adds base : List String), (stepUrls items base adds).length = adds.length
  | [], _ => rfl
  | a :: adds, base => by rw [stepUrls, List.length_cons, length_stepUrls, List.length_cons]

theorem stepUrls_nodup (items : Url) :
    ∀ (adds base : List String), (stepUrls items base adds).Nodup
  | [], _ => List.nodup_nil
  | a :: adds, base => by
    refine List.nodup_cons.mpr ⟨fun hmem => ?_, stepUrls_nodup items adds (base ++ [a])⟩
    -- a later URL has more segments than the first
    obtain ⟨more, hmore, -, heq⟩ := mem_stepUrls.mp hmem
    have hlen := congrArg List.length (Url.UrlPath.segments.inj (congrArg Url.path heq))
    simp only [List.length_append] at hlen
    exact hmore (List.eq_nil_of_length_eq_zero (by omega))

/-- **The URLs of the prefixes, once the items root has one**: when no
segment reads `..` once its tabs and line breaks are dropped, the walk over
`segs` after the segments `pre` visits `stepUrls`, each prefix adding the
escaped form of its last segment. -/
theorem prefixUrls_eq_stepUrls {ws : Workspace} {items : Url} {base : List String}
    (hitems : ws.itemUrl "" [] = .ok items) (hbase : items.path = .segments base) :
    ∀ (segs pre : List String),
      (∀ s ∈ pre ++ segs, s ≠ "" ∧ s ≠ "." ∧ s ≠ ".." ∧ '/' ∉ s.toList ∧
        Url.keptChars s ≠ ['.', '.']) →
      (prefixPaths (joinPath pre) segs).map (ws.itemUrl · []) =
        (stepUrls items (base ++ pre.map (Url.addedSegment (Url.isSpecialScheme items.scheme)))
          (segs.map (Url.addedSegment (Url.isSpecialScheme items.scheme)))).map .ok
  | [], _, _ => rfl
  | s :: segs, pre, h => by
    have hread : segmentsOf (joinPath (pre ++ [s])) = .ok (pre ++ [s]) :=
      segmentsOf_joinPath fun t ht => by
        obtain ⟨h₁, h₂, h₃, h₄, -⟩ := h t (by simp at ht ⊢; tauto)
        exact ⟨h₁, h₂, h₃, h₄⟩
    have hadd : ∀ raw ∈ pre ++ [s] ++ [],
        raw ≠ "." ∧ raw ≠ ".." ∧ Url.keptChars raw ≠ ['.', '.'] := by
      intro raw hraw
      obtain ⟨-, h₂, h₃, -, h₅⟩ := h raw (by simp at hraw ⊢; tauto)
      exact ⟨h₂, h₃, h₅⟩
    have hrest := prefixUrls_eq_stepUrls hitems hbase segs (pre ++ [s]) (by simpa using h)
    rw [prefixPaths, ← joinPath_append_single, List.map_cons, hrest, List.map_cons, stepUrls,
      List.map_cons, itemUrl_eq_append hitems hbase hread hadd]
    simp

/-- The URLs of the prefixes of an item path whose segments do not read
`..`, from the items root. -/
theorem prefixUrls_of_segmentsOf {ws : Workspace} {items : Url} {base : List String}
    (hitems : ws.itemUrl "" [] = .ok items) (hbase : items.path = .segments base)
    {path : String} {segs : List String} (hsegs : segmentsOf path = .ok segs)
    (hplain : ∀ s ∈ segs, Url.keptChars s ≠ ['.', '.']) :
    (prefixPaths "" segs).map (ws.itemUrl · []) =
      (stepUrls items base (segs.map (Url.addedSegment (Url.isSpecialScheme items.scheme)))).map .ok := by
  have hall : ∀ s ∈ [] ++ segs, s ≠ "" ∧ s ≠ "." ∧ s ≠ ".." ∧ '/' ∉ s.toList ∧
      Url.keptChars s ≠ ['.', '.'] := by
    intro s hs
    obtain ⟨h₁, h₂, h₃, h₄⟩ := mem_segmentsOf hsegs (by simpa using hs)
    exact ⟨h₁, h₂, h₃, h₄, hplain s (by simpa using hs)⟩
  simpa using prefixUrls_eq_stepUrls hitems hbase segs [] hall

/-- Where the URLs of a folder path lie under the items root `items`, whose
path has the segments `base`: the path has the segments `segs`, each adding
one segment of `adds` with no slash in it; the folder's URL is the items root
with all of `adds`, and its prefixes have the URLs `stepUrls items base adds`. -/
structure FolderLayout (ws : Workspace) (path : String) (items : Url)
    (base segs adds : List String) : Prop where
  segments : segmentsOf path = .ok segs
  length : adds.length = segs.length
  slash : ∀ a ∈ adds, '/' ∉ a.toList
  folder : ws.itemUrl path [] = .ok { items with path := .segments (base ++ adds) }
  prefixes : (prefixPaths "" segs).map (ws.itemUrl · []) = (stepUrls items base adds).map .ok

/-- The layout of a path none of whose segments reads `..`: each segment
adds its escaped form. -/
theorem FolderLayout.of_plain {ws : Workspace} {items : Url} {base : List String}
    (hitems : ws.itemUrl "" [] = .ok items) (hbase : items.path = .segments base)
    {path : String} {segs : List String} (hsegs : segmentsOf path = .ok segs)
    (hplain : ∀ s ∈ segs, Url.keptChars s ≠ ['.', '.']) :
    FolderLayout ws path items base segs
      (segs.map (Url.addedSegment (Url.isSpecialScheme items.scheme))) where
  segments := hsegs
  length := List.length_map _
  slash := by
    simp only [List.mem_map]
    rintro a ⟨s, -, rfl⟩
    exact Url.slash_not_mem_addedSegment _ s
  folder := by
    have hadd : ∀ raw ∈ segs ++ [], raw ≠ "." ∧ raw ≠ ".." ∧ Url.keptChars raw ≠ ['.', '.'] := by
      intro raw hraw
      obtain ⟨-, h₂, h₃, -⟩ := mem_segmentsOf hsegs (by simpa using hraw)
      exact ⟨h₂, h₃, hplain raw (by simpa using hraw)⟩
    simpa using itemUrl_eq_append hitems hbase hsegs hadd
  prefixes := prefixUrls_of_segmentsOf hitems hbase hsegs hplain

/-- **The prefixes of a path have distinct URLs** when no segment reads
`..` once its tabs and line breaks are dropped: each prefix URL is the items
root with one more segment than the one before. -/
theorem prefixUrls_nodup (ws : Workspace) {path : String} {segs : List String}
    (hsegs : segmentsOf path = .ok segs) (hplain : ∀ s ∈ segs, Url.keptChars s ≠ ['.', '.']) :
    (((prefixPaths "" segs).map (ws.itemUrl · [])).filterMap Except.toOption).Nodup := by
  rcases hitems : ws.itemUrl "" [] with e | items
  · -- no URL can be built, so none is kept
    rw [prefixPaths_empty, List.map_map, List.filterMap_map, List.filterMap_eq_nil_iff.mpr
      fun k _ => by
        simp [itemUrl_of_root_error hitems (segmentsOf_joinPath_take hsegs (k + 1)), Except.toOption]]
    exact List.nodup_nil
  · obtain ⟨base, hbase, -⟩ := itemUrl_root_segments hitems
    rw [prefixUrls_of_segmentsOf hitems hbase hsegs hplain]
    simpa [List.filterMap_map, Function.comp_def, Except.toOption] using stepUrls_nodup items _ _

namespace FolderTalk

variable {ws : Workspace} {path : String} {xs : List Exchange} {res : Except Error Unit}
  {segs : List String}

/-- **A refused path, or one without segments, sends nothing.** -/
theorem silent (h : FolderTalk ws path xs res)
    (hnone : segmentsOf path = .ok [] ∨ ∃ e, segmentsOf path = .error e) : xs = [] := by
  have hsome : ∀ segs, segmentsOf path = .ok segs → segs ≠ [] → False := by
    intro segs hs hne
    rcases hnone with hroot | ⟨e, herr⟩
    · rw [hs] at hroot
      cases hroot
      exact hne rfl
    · rw [hs] at herr
      cases herr
  cases h with
  | refused => rfl
  | root => rfl
  | noUrl => rfl
  | readFails hs hne => exact (hsome _ hs hne).elim
  | found hs hne => exact (hsome _ hs hne).elim
  | walk hs hne => exact (hsome _ hs hne).elim

theorem created_after_confirmed (h : FolderTalk ws path xs res)
    (hsegs : segmentsOf path = .ok segs) :
    ∀ {i : Nat} {x : Exchange}, xs[i]? = some x → x.request.method = .post →
      ∃ k < segs.length, ws.itemUrl (joinPath (segs.take (k + 1))) [] = .ok x.request.url ∧
        ∀ k' < k, ∃ j < i, ∃ u y, ws.itemUrl (joinPath (segs.take (k' + 1))) [] = .ok u ∧
          xs[j]? = some y ∧ Confirms u y := by
  cases h with
  | refused => simp
  | root => simp
  | noUrl => simp
  | readFails =>
    rintro (_ | _) x hx hpost
    · cases hx
      exact (get_not_post hpost).elim
    · cases hx
  | found =>
    rintro (_ | _) x hx hpost
    · cases hx
      exact (get_not_post hpost).elim
    · cases hx
  | walk hs _ _ _ hwalk =>
    rw [hsegs] at hs
    cases hs
    rintro (_ | i) x hx hpost
    · cases hx
      exact (get_not_post hpost).elim
    · -- the walk's positions are one past the read of the whole path
      obtain ⟨k, hk, hbefore⟩ := hwalk.created_after_confirmed hx hpost
      obtain ⟨hlt, hurl⟩ := prefixUrls_getElem? hk
      refine ⟨k, hlt, hurl.symm, fun k' hk' => ?_⟩
      obtain ⟨j, hj, u, y, hu, hy, hconf⟩ := hbefore k' hk'
      exact ⟨j + 1, by omega, u, y, (prefixUrls_getElem? hu).2.symm, hy, hconf⟩

theorem confirms_every (h : FolderTalk ws path xs res) (hsegs : segmentsOf path = .ok segs)
    (hok : res = .ok ()) :
    (∃ u resp, ws.itemUrl path [] = .ok u ∧ xs = [⟨Request.get u, .ok resp⟩] ∧
        resp.status = statusOk) ∨
      ∀ k < segs.length, ∃ u, ∃ j : Nat, ∃ y,
        ws.itemUrl (joinPath (segs.take (k + 1))) [] = .ok u ∧ xs[j]? = some y ∧ Confirms u y := by
  cases h with
  | refused => cases hok
  | root hroot =>
    rw [hsegs] at hroot
    cases hroot
    exact .inr fun k hk => absurd hk (Nat.not_lt_zero k)
  | noUrl => cases hok
  | readFails => cases hok
  | found _ _ hu hst => exact .inl ⟨_, _, hu, rfl, hst⟩
  | walk hs _ _ _ hwalk =>
    rw [hsegs] at hs
    cases hs
    refine .inr fun k hk => ?_
    obtain ⟨u, j, y, hu, hy, hconf⟩ :=
      hwalk.confirms_every hok k (by simpa [length_prefixPaths] using hk)
    exact ⟨u, j + 1, y, (prefixUrls_getElem? hu).2.symm, hy, hconf⟩

theorem stops_last (h : FolderTalk ws path xs res) :
    ∀ {i : Nat} {x : Exchange}, xs[i]? = some x → x.Stops →
      i + 1 = xs.length ∧ ∃ e, res = .error e := by
  cases h with
  | refused => simp
  | root => simp
  | noUrl => simp
  | @readFails _ _ e =>
    rintro (_ | _) x hx _
    · exact ⟨rfl, e, rfl⟩
    · cases hx
  | found =>
    rintro (_ | _) x hx hstop
    · cases hx
      exact (not_stops_get hstop).elim
    · cases hx
  | walk _ _ _ _ hwalk =>
    rintro (_ | i) x hx hstop
    · cases hx
      exact (not_stops_get hstop).elim
    · obtain ⟨hlen, hres⟩ := hwalk.stops_last hx hstop
      exact ⟨by simp [hlen], hres⟩

theorem createdUrls_nodup (h : FolderTalk ws path xs res) (hsegs : segmentsOf path = .ok segs)
    (hplain : ∀ s ∈ segs, Url.keptChars s ≠ ['.', '.']) : (createdUrls xs).Nodup := by
  cases h with
  | refused => simp
  | root => simp
  | noUrl => simp
  | readFails => simp
  | found => simp
  | walk hs _ _ _ hwalk =>
    rw [hsegs] at hs
    cases hs
    rw [createdUrls_get]
    exact hwalk.createdUrls_sublist.nodup (prefixUrls_nodup ws hsegs hplain)

/-- Making a folder exist only reads and creates. -/
theorem methods (h : FolderTalk ws path xs res) :
    ∀ x ∈ xs, x.request.method = .get ∨ x.request.method = .post := by
  cases h with
  | refused => simp
  | root => simp
  | noUrl => simp
  | readFails => simp [Request.get, Request.new]
  | found => simp [Request.get, Request.new]
  | walk _ _ _ _ hwalk =>
    intro x hx
    rcases List.mem_cons.mp hx with rfl | hx
    · exact .inl rfl
    · exact hwalk.methods x hx

end FolderTalk

/-! ## Every run follows the pattern -/

namespace Session

variable {σ : Type} (t : Transport σ)

theorem folderUrl_new (ws : Workspace) (path : String) :
    (FolderNode.new ws path).url = ws.itemUrl path [] := rfl

/-- Creating the folder at a path whose URL is `u`: one create request to
`u`, and the outcome of its answer. -/
theorem createFolder_talked (ws : Workspace) {path : String} {u : Url}
    (hu : ws.itemUrl path [] = .ok u) (w : World σ) :
    ∃ req : Request, req.method = .post ∧ req.url = u ∧
      Talked t ws.server w (run (createNode t (.folder (FolderNode.new ws path))) w).2
        [⟨req, (t.respond ws.server req w.remote).1⟩] ∧
      (run (createNode t (.folder (FolderNode.new ws path))) w).1 =
        writeOutcome (.folder (FolderNode.new ws path)) ws statusCreated "create"
          (t.respond ws.server req w.remote).1 := by
  have hws : (PathNode.folder (FolderNode.new ws path)).workspace? = some ws := rfl
  have hbody : (PathNode.folder (FolderNode.new ws path)).content w.files =
      .ok (some (FolderNode.new ws path).document.toBytes) := rfl
  have hurl : (PathNode.folder (FolderNode.new ws path)).writeUrl = .ok u := by
    simp [PathNode.writeUrl, PathNode.url, FolderNode.url, FolderNode.new, hu]
  exact ⟨_, rfl, rfl, writeNode_talked t .post statusCreated "create" w hws hbody hurl⟩

/-- **The visit of the prefixes follows `PrefixWalk`**, whatever the
transport answers: the walk goes over the remaining segments, one prefix at
a time. -/
theorem createMissing_talked (ws : Workspace) :
    ∀ (segs : List String) (done : String) (w : World σ),
      ∃ xs, Talked t ws.server w (run (createMissing t ws done segs) w).2 xs ∧
        PrefixWalk ((prefixPaths done segs).map (ws.itemUrl · [])) xs
          (run (createMissing t ws done segs) w).1
  | [], _, w => ⟨[], Talked.refl w, .done⟩
  | s :: rest, done, w => by
    rw [createMissing]
    simp only [run_bind, run_lift, folderUrl_new, prefixPaths, List.map_cons]
    cases hu : ws.itemUrl (done ++ "/" ++ s) [] with
    | error e => exact ⟨[], Talked.refl w, .noUrl⟩
    | ok u =>
      simp only
      obtain ⟨w₁, ⟨e, hp, hread⟩ | ⟨resp, hst, hp, hread⟩ | ⟨resp, hst, hp, hread⟩⟩ :=
        pathExists_cases t ws.server u w
      · -- the read failed to connect
        simp only [hp]
        exact ⟨_, hread, .readFails⟩
      · -- the prefix is there: the walk goes on
        simp only [hp, Bool.not_true, Bool.false_eq_true, if_false]
        obtain ⟨xs, htalk, hwalk⟩ := createMissing_talked ws rest (done ++ "/" ++ s) w₁
        exact ⟨_, hread.trans htalk, .found hst hwalk⟩
      · -- the prefix is missing: it is created first
        simp only [hp, Bool.not_false, if_true, run_bind]
        obtain ⟨req, hpost, hreq, hcreate, hout⟩ := createFolder_talked t ws hu w₁
        rcases hc : run (createNode t (.folder (FolderNode.new ws (done ++ "/" ++ s)))) w₁ with
          ⟨created, w₂⟩
        rw [hc] at hcreate hout
        cases created with
        | error e =>
          exact ⟨_, hread.trans hcreate,
            .createFails hst hpost hreq (writeOutcome_eq_error hout.symm)⟩
        | ok _ =>
          obtain ⟨resp', hans', hst'⟩ := writeOutcome_eq_ok.mp hout.symm
          rw [hans'] at hcreate
          obtain ⟨xs, htalk, hwalk⟩ := createMissing_talked ws rest (done ++ "/" ++ s) w₂
          exact ⟨_, (hread.trans hcreate).trans htalk, .created hst hpost hreq hst' hwalk⟩

/-- **Making a folder exist follows `FolderTalk`**, over every transport and
from every state. -/
theorem ensureFolderExists_talked (ws : Workspace) (path : String) (w : World σ) :
    ∃ xs, Talked t ws.server w (run (ensureFolderExists t ws path) w).2 xs ∧
      FolderTalk ws path xs (run (ensureFolderExists t ws path) w).1 := by
  simp only [ensureFolderExists, run_bind, run_lift]
  cases hsegs : segmentsOf path with
  | error e => exact ⟨[], Talked.refl w, .refused hsegs⟩
  | ok segs =>
    cases segs with
    | nil => exact ⟨[], Talked.refl w, .root hsegs⟩
    | cons s rest =>
      have hne : s :: rest ≠ [] := List.cons_ne_nil s rest
      simp only [List.isEmpty_cons, Bool.false_eq_true, if_false, run_bind, run_lift,
        folderUrl_new]
      cases hu : ws.itemUrl path [] with
      | error e => exact ⟨[], Talked.refl w, .noUrl hsegs hne hu⟩
      | ok u =>
        simp only
        obtain ⟨w₁, ⟨e, hp, hread⟩ | ⟨resp, hst, hp, hread⟩ | ⟨resp, hst, hp, hread⟩⟩ :=
          pathExists_cases t ws.server u w
        · simp only [hp]
          exact ⟨_, hread, .readFails hsegs hne hu⟩
        · -- the whole folder is there
          simp only [hp, if_true]
          exact ⟨_, hread, .found hsegs hne hu hst⟩
        · -- it is not: the prefixes are visited from the first
          simp only [hp, Bool.false_eq_true, if_false]
          obtain ⟨xs, htalk, hwalk⟩ := createMissing_talked t ws (s :: rest) "" w₁
          exact ⟨_, hread.trans htalk, .walk hsegs hne hu hst hwalk⟩

/-- **Making a folder exist talks in a fixed pattern, over every transport.**
The exchanges of a run follow `FolderTalk`; an exchange that fails is the
last one and the run fails; a refused path or one without segments sends
nothing. For a path with segments `segs`: every create goes to the URL of
some prefix `k`, after every prefix before `k` was confirmed in the same
run; a run that succeeds found the whole folder at once or confirmed every
prefix; and when no segment reads `..` once its tabs and line breaks are
dropped, no URL is created twice. -/
theorem ensureFolderExists_follows_pattern (ws : Workspace) (path : String) (w : World σ) :
    ∃ xs, Talked t ws.server w (run (ensureFolderExists t ws path) w).2 xs ∧
      FolderTalk ws path xs (run (ensureFolderExists t ws path) w).1 ∧
      (∀ (i : Nat) (x : Exchange), xs[i]? = some x → x.Stops →
        i + 1 = xs.length ∧ ∃ e, (run (ensureFolderExists t ws path) w).1 = .error e) ∧
      ((segmentsOf path = .ok [] ∨ ".." ∈ path.splitToList (· == '/')) → xs = []) ∧
      ∀ segs, segmentsOf path = .ok segs →
        (∀ (i : Nat) (x : Exchange), xs[i]? = some x → x.request.method = .post →
          ∃ k < segs.length, ws.itemUrl (joinPath (segs.take (k + 1))) [] = .ok x.request.url ∧
            ∀ k' < k, ∃ j < i, ∃ u y, ws.itemUrl (joinPath (segs.take (k' + 1))) [] = .ok u ∧
              xs[j]? = some y ∧ Confirms u y) ∧
        ((run (ensureFolderExists t ws path) w).1 = .ok () →
          (∃ u resp, ws.itemUrl path [] = .ok u ∧ xs = [⟨Request.get u, .ok resp⟩] ∧
              resp.status = statusOk) ∨
            ∀ k < segs.length, ∃ u, ∃ j : Nat, ∃ y,
              ws.itemUrl (joinPath (segs.take (k + 1))) [] = .ok u ∧ xs[j]? = some y ∧
                Confirms u y) ∧
        ((∀ s ∈ segs, Url.keptChars s ≠ ['.', '.']) → (createdUrls xs).Nodup) := by
  obtain ⟨xs, htalk, hpat⟩ := ensureFolderExists_talked t ws path w
  have hnone : segmentsOf path = .ok [] ∨ ".." ∈ path.splitToList (· == '/') →
      segmentsOf path = .ok [] ∨ ∃ e, segmentsOf path = .error e := by
    rintro (hroot | hdotdot)
    · exact .inl hroot
    · exact .inr (segmentsOf_error_of_dotDot hdotdot)
  exact ⟨xs, htalk, hpat, fun _ _ hx hstop => hpat.stops_last hx hstop,
    fun h => hpat.silent (hnone h), fun segs hsegs =>
      ⟨fun _ _ hx hpost => hpat.created_after_confirmed hsegs hx hpost,
        hpat.confirms_every hsegs, hpat.createdUrls_nodup hsegs⟩⟩

/-- Making `/docs` exist in the in-memory repository creates no URL twice. -/
theorem ensureFolderExists_docs_created_once :
    segmentsOf "/docs" = .ok ["docs"] ∧ (∀ s ∈ ["docs"], Url.keptChars s ≠ ['.', '.']) ∧
      ∃ xs, (createdUrls xs).Nodup ∧
        Talked MemoryRepository.transport
          (Workspace.mk "default" ⟨"repo", Server.new "http://localhost:8080/resources" "admin" "admin"⟩).server
          ⟨MemoryRepository.initial, LocalFiles.empty, []⟩
          (run (ensureFolderExists MemoryRepository.transport
            ⟨"default", ⟨"repo", Server.new "http://localhost:8080/resources" "admin" "admin"⟩⟩ "/docs")
            ⟨MemoryRepository.initial, LocalFiles.empty, []⟩).2 xs := by
  have hsegs : segmentsOf "/docs" = .ok ["docs"] :=
    segmentsOf_of_joinPath (by decide) (by decide)
  have hplain : ∀ s ∈ ["docs"], Url.keptChars s ≠ ['.', '.'] := by decide
  obtain ⟨xs, htalk, -, -, -, hconseq⟩ := ensureFolderExists_follows_pattern
    MemoryRepository.transport ⟨"default", ⟨"repo", Server.new "http://localhost:8080/resources" "admin" "admin"⟩⟩
    "/docs" ⟨MemoryRepository.initial, LocalFiles.empty, []⟩
  exact ⟨hsegs, hplain, xs, (hconseq ["docs"] hsegs).2.2 hplain, htalk⟩

end Session

end ContentPublish
