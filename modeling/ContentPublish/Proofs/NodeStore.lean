import ContentPublish.Proofs.FolderWalk
import Mathlib.Data.List.Induction

/-
  Making a folder exist in the node store

  The in-memory repository with no script and no routes answers every
  request from its node store, a set of URL paths. Against such a store the
  pattern of `FolderTalk` becomes a computation: a prefix reads as present
  exactly when its path is in the store, and creating a missing prefix whose
  parent path is present answers `201` and adds its path.

  When the store holds the path of the items root and is closed under
  parents, and no segment of the folder's path reads `..` once its tabs and
  line breaks are dropped, making the folder exist succeeds: the store gains
  exactly the paths of the prefixes and stays closed under parents, and the
  creates go to the missing prefixes in order, each answered `201`.

  What is stated here:
    1. `mem_addPath` and `parentPath_append_slash` — the store's set, and
       the parent of a path.
    2. `StoreOnly`, `respond_get` and `respond_post_fresh` — how the store
       answers reads and creates.
    3. `WalkOutcome` and `storeWalk` — the visit of the prefixes against
       the store.
    4. `FolderOutcome` and `folderTalk_outcome` — making a folder exist
       against the store, from the pattern of its exchanges.
    5. `ensureFolderExists_creates_missing_prefixes` — the whole operation.
-/

namespace ContentPublish

namespace MemoryRepository

/-! ## The store's set and parents -/

theorem mem_addPath {q p : String} : ∀ {ns : List String}, q ∈ addPath ns p ↔ q = p ∨ q ∈ ns
  | [] => by simp [addPath]
  | n :: rest => by
    unfold addPath
    by_cases hlt : p < n
    · simp [hlt]
    · by_cases heq : p = n
      · subst heq
        simp
      · rw [if_neg hlt, if_neg heq, List.mem_cons, List.mem_cons, mem_addPath]
        tauto

/-- The parent of a path with one more segment is the path before it. -/
theorem parentPath_append_slash (pre : String) {s : String} (hs : '/' ∉ s.toList) :
    parentPath (pre ++ "/" ++ s) = pre := by
  have hrev : (pre ++ "/" ++ s).toList.reverse = s.toList.reverse ++ '/' :: pre.toList.reverse := by
    simp
  have hother : ∀ c ∈ s.toList.reverse, (c == '/') = false := by
    intro c hc
    have hne : c ≠ '/' := by
      rintro rfl
      exact hs (List.mem_reverse.mp hc)
    simpa using hne
  have hfind : (s.toList.reverse ++ '/' :: pre.toList.reverse).findIdx? (· == '/') =
      some s.toList.length := by
    rw [List.findIdx?_append, List.findIdx?_eq_none_iff.mpr hother]
    simp [List.findIdx?_cons]
  simp only [parentPath, hrev, hfind]
  have hlen : (pre ++ "/" ++ s).toList.length - 1 - s.toList.length = pre.toList.length := by
    simp
  rw [hlen]
  simp

/-- Every node but the root has its parent in the store. -/
def ParentClosed (root : String) (nodes : List String) : Prop :=
  ∀ q ∈ nodes, q ≠ root → parentPath q ∈ nodes

/-! ## How the store answers -/

/-- A repository that answers every request from its node store. -/
def StoreOnly (m : MemoryRepository) : Prop := m.script = [] ∧ m.routes = []

theorem respond_storeOnly {m : MemoryRepository} (h : m.StoreOnly) (server : Server)
    (request : Request) :
    respond server request m =
      (.ok ⟨(m.store request.method request.url.pathText (request.body.getD [])).1, ""⟩,
        (m.store request.method request.url.pathText (request.body.getD [])).2) := by
  simp [respond, h.1, h.2]

/-- A read answers `200` when the path is in the store, and changes nothing. -/
theorem respond_get {m : MemoryRepository} (h : m.StoreOnly) (server : Server) (u : Url) :
    respond server (Request.get u) m =
      (.ok ⟨if u.pathText ∈ m.nodes then statusOk else 404, ""⟩, m) := by
  rw [respond_storeOnly h]
  simp [store, Request.get, Request.new, statusOk]

/-- A create of a missing path whose parent is present answers `201`, adds
the path and keeps the request's body there. -/
theorem respond_post_fresh {m : MemoryRepository} (h : m.StoreOnly) (server : Server)
    {request : Request} (hpost : request.method = .post) (hfresh : request.url.pathText ∉ m.nodes)
    (hparent : parentPath request.url.pathText ∈ m.nodes) :
    respond server request m =
      (.ok ⟨statusCreated, ""⟩, m.create request.url.pathText (request.body.getD [])) := by
  rw [respond_storeOnly h, hpost]
  simp [store, hfresh, hparent, statusCreated]

/-! ## The visit of the prefixes -/

/-- The URLs among `urls` whose paths are missing from `nodes`. -/
def missing (nodes : List String) (urls : List Url) : List Url :=
  urls.filter fun u => !nodes.contains u.pathText

theorem missing_cons_of_mem {nodes : List String} {u : Url} (urls : List Url)
    (h : u.pathText ∈ nodes) : missing nodes (u :: urls) = missing nodes urls :=
  List.filter_cons_of_neg (by simpa using h)

theorem missing_cons_of_not_mem {nodes : List String} {u : Url} (urls : List Url)
    (h : u.pathText ∉ nodes) : missing nodes (u :: urls) = u :: missing nodes urls :=
  List.filter_cons_of_pos (by simpa using h)

/-- Adding a path that no URL of `urls` has leaves their missing ones as
they were. -/
theorem missing_addPath {nodes : List String} {p : String} {urls : List Url}
    (h : ∀ v ∈ urls, v.pathText ≠ p) : missing (addPath nodes p) urls = missing nodes urls :=
  List.filter_congr fun v hv => by simp [mem_addPath, h v hv]

/-- What the visit of the prefixes at `urls` did, from the store `m` to the
store `m'` with the exchanges `xs`: the store still answers alone and gained
the paths of `urls`; the creates went to the URLs missing from `m`, in order,
each answered `201`; and there was one read for each prefix and one create
for each missing one. -/
structure WalkOutcome (m m' : MemoryRepository) (urls : List Url) (xs : List Exchange) :
    Prop where
  storeOnly : m'.StoreOnly
  nodes : ∀ q, q ∈ m'.nodes ↔ q ∈ m.nodes ∨ ∃ u ∈ urls, u.pathText = q
  created : createdUrls xs = missing m.nodes urls
  answered : ∀ x ∈ xs, x.request.method = .post →
    ∃ resp, x.answer = .ok resp ∧ resp.status = statusCreated
  length : xs.length = urls.length + (missing m.nodes urls).length

namespace WalkOutcome

variable {m m' : MemoryRepository} {urls : List Url} {xs : List Exchange}

theorem nil (h : m.StoreOnly) : WalkOutcome m m [] [] :=
  ⟨h, by simp, rfl, by simp, rfl⟩

/-- A prefix read as present adds nothing. -/
theorem cons_found {u : Url} {resp : Response} (hin : u.pathText ∈ m.nodes)
    (out : WalkOutcome m m' urls xs) :
    WalkOutcome m m' (u :: urls) (⟨Request.get u, .ok resp⟩ :: xs) where
  storeOnly := out.storeOnly
  nodes q := by
    rw [out.nodes q]
    constructor
    · rintro (hq | ⟨v, hv, rfl⟩)
      · exact .inl hq
      · exact .inr ⟨v, List.mem_cons_of_mem u hv, rfl⟩
    · rintro (hq | ⟨v, hv, rfl⟩)
      · exact .inl hq
      · rcases List.mem_cons.mp hv with rfl | hv
        · exact .inl hin
        · exact .inr ⟨v, hv, rfl⟩
  created := by rw [createdUrls_get, out.created, missing_cons_of_mem _ hin]
  answered x hx hpost := by
    rcases List.mem_cons.mp hx with rfl | hx
    · exact (get_not_post hpost).elim
    · exact out.answered x hx hpost
  length := by
    rw [List.length_cons, out.length, missing_cons_of_mem _ hin, List.length_cons]
    omega

/-- A missing prefix created with `201` adds its path. -/
theorem cons_created {u : Url} {req : Request} {resp resp' : Response} (hpost : req.method = .post)
    (hurl : req.url = u) (hst : resp'.status = statusCreated) (hnot : u.pathText ∉ m.nodes)
    (hlater : ∀ v ∈ urls, v.pathText ≠ u.pathText)
    (out : WalkOutcome (m.create u.pathText (req.body.getD [])) m' urls xs) :
    WalkOutcome m m' (u :: urls) (⟨Request.get u, .ok resp⟩ :: ⟨req, .ok resp'⟩ :: xs) where
  storeOnly := out.storeOnly
  nodes q := by
    rw [out.nodes q, create_nodes, mem_addPath]
    constructor
    · rintro ((rfl | hq) | ⟨v, hv, rfl⟩)
      · exact .inr ⟨u, List.mem_cons_self, rfl⟩
      · exact .inl hq
      · exact .inr ⟨v, List.mem_cons_of_mem u hv, rfl⟩
    · rintro (hq | ⟨v, hv, rfl⟩)
      · exact .inl (.inr hq)
      · rcases List.mem_cons.mp hv with rfl | hv
        · exact .inl (.inl rfl)
        · exact .inr ⟨v, hv, rfl⟩
  created := by
    rw [createdUrls_get, createdUrls_post _ _ hpost, out.created, create_nodes,
      missing_addPath hlater, missing_cons_of_not_mem _ hnot, hurl]
  answered x hx hpost' := by
    rcases List.mem_cons.mp hx with rfl | hx
    · exact (get_not_post hpost').elim
    rcases List.mem_cons.mp hx with rfl | hx
    · exact ⟨resp', rfl, hst⟩
    · exact out.answered x hx hpost'
  length := by
    have hlen := out.length
    rw [create_nodes, missing_addPath hlater] at hlen
    rw [List.length_cons, List.length_cons, hlen, missing_cons_of_not_mem _ hnot,
      List.length_cons, List.length_cons]
    omega

end WalkOutcome

/-- A read answered by the store. -/
theorem answers_get {m m' : MemoryRepository} (hm : m.StoreOnly) {server : Server} {u : Url}
    {answer : Except Error Response} {xs : List Exchange}
    (h : Answers transport server m (⟨Request.get u, answer⟩ :: xs) m') :
    answer = .ok ⟨if u.pathText ∈ m.nodes then statusOk else 404, ""⟩ ∧
      Answers transport server m xs m' := by
  cases h with
  | cons hr ha =>
    simp only [transport, respond_get hm, Prod.mk.injEq] at hr
    obtain ⟨rfl, rfl⟩ := hr
    exact ⟨rfl, ha⟩

/-- A create of a missing path with its parent present, answered by the
store. -/
theorem answers_post_fresh {m m' : MemoryRepository} (hm : m.StoreOnly) {server : Server}
    {request : Request} {answer : Except Error Response} {xs : List Exchange}
    (hpost : request.method = .post) (hfresh : request.url.pathText ∉ m.nodes)
    (hparent : parentPath request.url.pathText ∈ m.nodes)
    (h : Answers transport server m (⟨request, answer⟩ :: xs) m') :
    answer = .ok ⟨statusCreated, ""⟩ ∧
      Answers transport server (m.create request.url.pathText (request.body.getD [])) xs m' := by
  cases h with
  | cons hr ha =>
    simp only [transport, respond_post_fresh hm server hpost hfresh hparent, Prod.mk.injEq] at hr
    obtain ⟨rfl, rfl⟩ := hr
    exact ⟨rfl, ha⟩

/-- **The visit of the prefixes against the store.** Each prefix after the
items path `base` adds one segment without a slash; when `base` is in the
store, every prefix is read, each missing one is created with `201`, and the
visit succeeds. The induction is on the added segments, the store growing by
the created prefix at each step. -/
theorem storeWalk (items : Url) (server : Server) :
    ∀ (adds base : List String) {m m' : MemoryRepository} {xs : List Exchange}
      {res : Except Error Unit}, (∀ a ∈ adds, '/' ∉ a.toList) → m.StoreOnly →
      joinPath base ∈ m.nodes →
      PrefixWalk ((stepUrls items base adds).map .ok) xs res →
      Answers transport server m xs m' →
      res = .ok () ∧ WalkOutcome m m' (stepUrls items base adds) xs
  | [], _, m, _, _, _, _, hm, _, hw, ha => by
    cases hw
    cases ha
    exact ⟨rfl, .nil hm⟩
  | a :: adds, base, m, m', xs, res, hslash, hm, hbase, hw, ha => by
    have hslash' : ∀ b ∈ adds, '/' ∉ b.toList := fun b hb => hslash b (List.mem_cons_of_mem a hb)
    have htext : ({ items with path := .segments (base ++ [a]) } : Url).pathText =
        joinPath (base ++ [a]) := rfl
    have hparent : parentPath (joinPath (base ++ [a])) = joinPath base := by
      rw [joinPath_append_single]
      exact parentPath_append_slash _ (hslash a List.mem_cons_self)
    -- the later prefixes have longer paths
    have hlater : ∀ v ∈ stepUrls items (base ++ [a]) adds, v.pathText ≠ joinPath (base ++ [a]) := by
      intro v hv heq
      obtain ⟨more, hmore, -, rfl⟩ := mem_stepUrls.mp hv
      have hlt := length_joinPath_lt (base ++ [a]) hmore
      rw [pathText_segments] at heq
      rw [heq] at hlt
      exact Nat.lt_irrefl _ hlt
    simp only [stepUrls, List.map_cons] at hw
    cases hw with
    | readFails => cases (answers_get hm ha).1
    | found hst hw' =>
      obtain ⟨hans, ha'⟩ := answers_get hm ha
      cases hans
      have hin : joinPath (base ++ [a]) ∈ m.nodes := by
        by_contra hnot
        simp [htext, hnot, statusOk] at hst
      obtain ⟨hres, out⟩ := storeWalk items server adds (base ++ [a]) hslash' hm hin hw' ha'
      exact ⟨hres, out.cons_found hin⟩
    | @created _ _ _ _ req _ _ hst hpost hurl hst' hw' =>
      obtain ⟨hans, ha'⟩ := answers_get hm ha
      cases hans
      have hnot : req.url.pathText ∉ m.nodes := by
        rw [hurl, htext]
        intro hin
        simp [htext, hin] at hst
      have hpar : parentPath req.url.pathText ∈ m.nodes := by
        rw [hurl, htext, hparent]
        exact hbase
      obtain ⟨hans', ha''⟩ := answers_post_fresh hm hpost hnot hpar ha'
      cases hans'
      rw [hurl, htext] at ha''
      have hin : joinPath (base ++ [a]) ∈ (addPath m.nodes (joinPath (base ++ [a]))) :=
        mem_addPath.mpr (.inl rfl)
      obtain ⟨hres, out⟩ := @storeWalk items server adds (base ++ [a])
        (m.create (joinPath (base ++ [a])) (req.body.getD [])) _ _ _ hslash' hm hin hw' ha''
      rw [hurl] at hnot
      exact ⟨hres, out.cons_created hpost hurl hst' hnot hlater⟩
    | @createFails _ _ _ req _ _ hst hpost hurl hfail =>
      obtain ⟨hans, ha'⟩ := answers_get hm ha
      cases hans
      have hnot : req.url.pathText ∉ m.nodes := by
        rw [hurl, htext]
        intro hin
        simp [htext, hin] at hst
      have hpar : parentPath req.url.pathText ∈ m.nodes := by
        rw [hurl, htext, hparent]
        exact hbase
      -- the store answers the create with `201`, so it did not fail
      obtain ⟨hans', -⟩ := answers_post_fresh hm hpost hnot hpar ha'
      rcases hfail with hfail | ⟨resp', hresp', hne⟩
      · rw [hans'] at hfail
        cases hfail
      · rw [hans'] at hresp'
        cases hresp'
        exact (hne rfl).elim

/-! ## Closure under parents -/

/-- In a store closed under parents, a present path after `base` has each
of its prefixes present. The induction takes segments off the end. -/
theorem mem_of_prefix {nodes base : List String} (hclosed : ParentClosed (joinPath base) nodes) :
    ∀ l : List String, (∀ a ∈ l, '/' ∉ a.toList) → joinPath (base ++ l) ∈ nodes →
      ∀ l', l' <+: l → joinPath (base ++ l') ∈ nodes := by
  intro l
  induction l using List.reverseRecOn with
  | nil =>
    intro _ hin l' hl'
    rw [List.prefix_nil.mp hl']
    exact hin
  | append_singleton l₀ a ih =>
    intro hslash hin l' hl'
    rcases List.prefix_concat_iff.mp hl' with rfl | hl'
    · exact hin
    · -- the parent of the whole path is the path without its last segment
      have hne : joinPath (base ++ (l₀ ++ [a])) ≠ joinPath base := by
        intro heq
        have hlt := length_joinPath_lt base (show l₀ ++ [a] ≠ [] by simp)
        rw [heq] at hlt
        exact Nat.lt_irrefl _ hlt
      have hpar := hclosed _ hin hne
      rw [← List.append_assoc, joinPath_append_single,
        parentPath_append_slash _ (hslash a (by simp))] at hpar
      exact ih (fun b hb => hslash b (by simp [hb])) hpar l' hl'

/-- A store closed under parents that gains the prefixes visited after its
root stays closed under parents. -/
theorem parentClosed_extend {nodes nodes' base adds : List String} {items : Url}
    (hclosed : ParentClosed (joinPath base) nodes) (hbase : joinPath base ∈ nodes)
    (hslash : ∀ a ∈ adds, '/' ∉ a.toList)
    (hnodes : ∀ q, q ∈ nodes' ↔ q ∈ nodes ∨ ∃ u ∈ stepUrls items base adds, u.pathText = q) :
    ParentClosed (joinPath base) nodes' := by
  intro q hq hne
  rcases (hnodes q).mp hq with hq | ⟨v, hv, rfl⟩
  · exact (hnodes _).mpr (.inl (hclosed q hq hne))
  · obtain ⟨more, hmore, hpre, rfl⟩ := mem_stepUrls.mp hv
    obtain ⟨init, a, rfl⟩ : ∃ init a, more = init ++ [a] :=
      ⟨more.dropLast, more.getLast hmore, (List.dropLast_append_getLast hmore).symm⟩
    -- the parent drops the last added segment
    rw [pathText_segments, ← List.append_assoc, joinPath_append_single,
      parentPath_append_slash _ (hslash a (hpre.subset (by simp)))]
    by_cases hinit : init = []
    · subst hinit
      exact (hnodes _).mpr (.inl (by simpa using hbase))
    · exact (hnodes _).mpr (.inr ⟨{ items with path := .segments (base ++ init) },
        mem_stepUrls.mpr ⟨init, hinit, (List.prefix_append init [a]).trans hpre, rfl⟩, rfl⟩)

/-- In a store closed under parents that holds the whole path after `base`,
every prefix visited is present. -/
theorem stepUrls_present {nodes base adds : List String} {items : Url}
    (hclosed : ParentClosed (joinPath base) nodes) (hslash : ∀ a ∈ adds, '/' ∉ a.toList)
    (hin : joinPath (base ++ adds) ∈ nodes) : ∀ u ∈ stepUrls items base adds, u.pathText ∈ nodes := by
  intro u hu
  obtain ⟨more, -, hpre, rfl⟩ := mem_stepUrls.mp hu
  exact mem_of_prefix hclosed adds hslash hin more hpre

theorem missing_eq_nil {nodes : List String} {urls : List Url}
    (h : ∀ u ∈ urls, u.pathText ∈ nodes) : missing nodes urls = [] :=
  List.filter_eq_nil_iff.mpr fun u hu => by simpa using h u hu

/-! ## Making a folder exist against the store -/

/-- What making a folder exist did, from the store `m` to the store `m'`
with the exchanges `xs`, where the items root has path `root`, the whole
folder has path `full` and its prefixes have the URLs `urls`: the store still
answers alone, gained the paths of `urls` and stays closed under parents;
the creates went to the prefixes missing from `m`, in order, each answered
`201`; and the run sent nothing when there is no prefix, one read when the
folder was present, and otherwise one read of the folder, one for each
prefix and one create for each missing one. -/
structure FolderOutcome (m m' : MemoryRepository) (root full : String) (urls : List Url)
    (xs : List Exchange) : Prop where
  storeOnly : m'.StoreOnly
  nodes : ∀ q, q ∈ m'.nodes ↔ q ∈ m.nodes ∨ ∃ u ∈ urls, u.pathText = q
  closed : ParentClosed root m'.nodes
  created : createdUrls xs = missing m.nodes urls
  answered : ∀ x ∈ xs, x.request.method = .post →
    ∃ resp, x.answer = .ok resp ∧ resp.status = statusCreated
  silent : urls = [] → xs = []
  found : full ∈ m.nodes → urls ≠ [] → xs.length = 1
  walked : full ∉ m.nodes → xs.length = 1 + urls.length + (missing m.nodes urls).length

/-- **Making a folder exist, answered by a store closed under parents.**
For a folder path laid out under the items root, whatever the pattern of the
run, it succeeds with a `FolderOutcome`. The cases are those of
`FolderTalk`. -/
theorem folderTalk_outcome {ws : Workspace} {path : String} {segs adds base : List String}
    {items : Url} {xs : List Exchange} {res : Except Error Unit} {m m' : MemoryRepository}
    (hstore : m.StoreOnly) (hroot : joinPath base ∈ m.nodes)
    (hclosed : ParentClosed (joinPath base) m.nodes) (hlay : FolderLayout ws path items base segs adds)
    (hpat : FolderTalk ws path xs res) (hans : Answers transport ws.server m xs m') :
    res = .ok () ∧
      FolderOutcome m m' (joinPath base) (joinPath (base ++ adds)) (stepUrls items base adds) xs := by
  obtain ⟨hsegs, hlen, hslash, hfull, hurls⟩ := hlay
  have hfull_eq : ∀ u, ws.itemUrl path [] = .ok u → u = { items with path := .segments (base ++ adds) } := by
    intro u hu
    rw [hfull, Except.ok.injEq] at hu
    exact hu.symm
  cases hpat with
  | refused h =>
    rw [hsegs] at h
    cases h
  | noUrl _ _ hu =>
    rw [hfull] at hu
    cases hu
  | readFails _ _ hu =>
    rw [hfull_eq _ hu] at hans
    cases (answers_get hstore hans).1
  | root h =>
    -- no segment: nothing is sent, and the folder is the items root
    rw [hsegs] at h
    cases h
    rw [List.length_nil, List.length_eq_zero_iff] at hlen
    subst hlen
    rw [hans.eq_of_nil]
    refine ⟨rfl, ⟨hstore, by simp [stepUrls], hclosed, rfl, by simp, fun _ => rfl,
      fun _ hne => (hne rfl).elim, fun hnot => (hnot (by simpa using hroot)).elim⟩⟩
  | found hs hne hu hst =>
    -- the whole folder was present, so every prefix was and nothing changes
    rw [hsegs, Except.ok.injEq] at hs
    subst hs
    rw [hfull_eq _ hu] at hans
    obtain ⟨hresp, hrest⟩ := answers_get hstore hans
    cases hresp
    rw [hrest.eq_of_nil]
    have hin : joinPath (base ++ adds) ∈ m.nodes := by
      by_contra hnot
      simp [pathText_segments, hnot, statusOk] at hst
    have hall : ∀ u ∈ stepUrls items base adds, u.pathText ∈ m.nodes :=
      stepUrls_present hclosed hslash hin
    refine ⟨rfl, ⟨hstore, fun q => ⟨.inl, ?_⟩, hclosed,
      by rw [createdUrls_get, missing_eq_nil hall]; rfl, ?_, fun hnil => ?_, fun _ _ => rfl,
      fun hnot => (hnot hin).elim⟩⟩
    · rintro (hq | ⟨u, hu, rfl⟩)
      · exact hq
      · exact hall u hu
    · intro x hx hpost
      rw [List.mem_singleton] at hx
      subst hx
      exact (get_not_post hpost).elim
    · rw [← List.length_eq_zero_iff, length_stepUrls, hlen, List.length_eq_zero_iff] at hnil
      exact (hne hnil).elim
  | walk hs hne hu hst hwalk =>
    -- the whole folder was missing; the prefixes are visited against the store
    rw [hsegs, Except.ok.injEq] at hs
    subst hs
    rw [hfull_eq _ hu] at hans
    obtain ⟨hresp, hrest⟩ := answers_get hstore hans
    cases hresp
    have hnot : joinPath (base ++ adds) ∉ m.nodes := by
      intro hin
      simp [pathText_segments, hin] at hst
    rw [hurls] at hwalk
    obtain ⟨hres, out⟩ := storeWalk items ws.server adds base hslash hstore hroot hwalk hrest
    refine ⟨hres, ⟨out.storeOnly, out.nodes, parentClosed_extend hclosed hroot hslash out.nodes,
      by rw [createdUrls_get, out.created], ?_, fun hnil => ?_, fun hin => (hnot hin).elim,
      fun _ => ?_⟩⟩
    · intro x hx hpost
      rcases List.mem_cons.mp hx with rfl | hx
      · exact (get_not_post hpost).elim
      · exact out.answered x hx hpost
    · rw [← List.length_eq_zero_iff, length_stepUrls, hlen, List.length_eq_zero_iff] at hnil
      exact (hne hnil).elim
    · rw [List.length_cons, out.length]
      omega

end MemoryRepository

namespace Session

open MemoryRepository

/-- **Making a folder exist in a store closed under parents creates exactly
the missing prefixes.** The store answers alone, holds the path of the
items root and has every other node's parent; no segment of the path reads
`..` once its tabs and line breaks are dropped. Then the operation
succeeds; the store gains the paths of the prefix URLs `urls` and stays
closed under parents; the creates go to the prefixes missing from the store,
in order, each answered `201`; and the run sends nothing for a path without
segments, one read when the whole path was present, and otherwise one read
of the whole path, one read for each prefix and one create for each
missing one. -/
theorem ensureFolderExists_creates_missing_prefixes {ws : Workspace} {items : Url}
    {m : MemoryRepository} {path : String} {segs : List String} (hstore : m.StoreOnly)
    (hitems : ws.itemUrl "" [] = .ok items) (hroot : items.pathText ∈ m.nodes)
    (hclosed : ParentClosed items.pathText m.nodes) (hsegs : segmentsOf path = .ok segs)
    (hplain : ∀ s ∈ segs, Url.keptChars s ≠ ['.', '.']) (files : LocalFiles) (sent : List Sent) :
    ∃ urls : List Url, (prefixPaths "" segs).map (ws.itemUrl · []) = urls.map .ok ∧
      ∃ xs, Talked transport ws.server ⟨m, files, sent⟩
          (run (ensureFolderExists transport ws path) ⟨m, files, sent⟩).2 xs ∧
        (run (ensureFolderExists transport ws path) ⟨m, files, sent⟩).1 = .ok () ∧
        (∀ q, q ∈ (run (ensureFolderExists transport ws path) ⟨m, files, sent⟩).2.remote.nodes ↔
          q ∈ m.nodes ∨ ∃ u ∈ urls, u.pathText = q) ∧
        ParentClosed items.pathText
          (run (ensureFolderExists transport ws path) ⟨m, files, sent⟩).2.remote.nodes ∧
        createdUrls xs = missing m.nodes urls ∧
        (∀ x ∈ xs, x.request.method = .post →
          ∃ resp, x.answer = .ok resp ∧ resp.status = statusCreated) ∧
        (segs = [] → xs = []) ∧
        (∀ u, ws.itemUrl path [] = .ok u → u.pathText ∈ m.nodes → segs ≠ [] → xs.length = 1) ∧
        (∀ u, ws.itemUrl path [] = .ok u → u.pathText ∉ m.nodes →
          xs.length = 1 + segs.length + (missing m.nodes urls).length) := by
  -- the items root, the URL of the whole path and the URLs of the prefixes
  obtain ⟨base, hbase, hI⟩ := itemUrl_root_segments hitems
  rw [hI] at hroot hclosed ⊢
  have hlay := FolderLayout.of_plain hitems hbase hsegs hplain
  refine ⟨_, hlay.prefixes, ?_⟩
  -- the exchanges follow the pattern, answered by the store
  obtain ⟨xs, htalk, hpat⟩ := ensureFolderExists_talked transport ws path ⟨m, files, sent⟩
  obtain ⟨hres, out⟩ := folderTalk_outcome hstore hroot hclosed hlay hpat htalk.answers
  have hlen : (stepUrls items base (segs.map (Url.addedSegment (Url.isSpecialScheme items.scheme)))).length =
      segs.length := by
    rw [length_stepUrls, hlay.length]
  refine ⟨xs, htalk, hres, out.nodes, out.closed, out.created, out.answered, fun hnil => ?_,
    fun u hu hin hne => ?_, fun u hu hnot => ?_⟩
  · exact out.silent (List.length_eq_zero_iff.mp (by rw [hlen, hnil, List.length_nil]))
  · rw [hlay.folder, Except.ok.injEq] at hu
    subst hu
    exact out.found hin fun hnil => hne (List.length_eq_zero_iff.mp (by rw [← hlen, hnil, List.length_nil]))
  · rw [hlay.folder, Except.ok.injEq] at hu
    subst hu
    rw [out.walked hnot, hlen]

/-- Making `/docs` exist in a store holding only the items root succeeds. -/
theorem ensureFolderExists_docs_succeeds :
    (run (ensureFolderExists transport ⟨"w", ⟨"r", Server.new "a:/" "u" "p"⟩⟩ "/docs")
      ⟨⟨[], [], ["/r/w/items"], .empty, false⟩, LocalFiles.empty, []⟩).1 = .ok () := by
  have hitems : (Workspace.mk "w" ⟨"r", Server.new "a:/" "u" "p"⟩).itemUrl "" [] =
      .ok ⟨"a", "", none, none, none, .segments ["r", "w", "items"], none, none⟩ := by
    decide +kernel
  have hroot : (⟨"a", "", none, none, none, .segments ["r", "w", "items"], none, none⟩ : Url).pathText =
      "/r/w/items" := by
    decide
  have hstore : StoreOnly ⟨[], [], ["/r/w/items"], .empty, false⟩ := ⟨rfl, rfl⟩
  have hsegs : segmentsOf "/docs" = .ok ["docs"] :=
    segmentsOf_of_joinPath (by decide) (by decide)
  obtain ⟨_, _, _, _, hok, _⟩ := ensureFolderExists_creates_missing_prefixes hstore hitems
    (by rw [hroot]; exact List.mem_singleton_self _)
    (fun q hq hne => (hne (by rw [hroot]; exact List.mem_singleton.mp hq)).elim) hsegs
    (by decide) LocalFiles.empty []
  exact hok

end Session

end ContentPublish
