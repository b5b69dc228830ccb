import ContentPublish.Proofs.PublishAreas

/-
  Runs of publishing and marking, over any transport

  Publishing a file and marking a folder talk to the server in fixed
  patterns, whatever it answers: `PublishTalk` and `MarkTalk`, built on the
  pattern of making a folder exist. From the patterns, for a path laid out
  under the items root, a run obeys a discipline that does not depend on the
  transport. It never deletes. It creates ever deeper paths, each longer than
  the one before. And when it fails, it failed at its last exchange, in one
  of three ways: the transport failed; an update of a path shown present
  earlier in the run was not answered `200`; or a create of a path read as
  missing earlier in the run, whose parent is the items root or was shown
  present earlier, was not answered `201`.

  Marking a folder whose path adds no segment to its parent's reads the
  parent folder again after making it exist. Its discipline holds when the
  answers agree with a store that only grows (`Consistent`): such a read
  then finds the folder, so it is updated and never created.

  What is stated here:
    1. `Exchange.Shows`, `Exchange.ReadsMissing` and `Consistent`.
    2. `EndsRun`, `FailedLast` and `Disciplined` — the discipline of a run.
    3. `PrefixWalk.failedLast`, `FolderTalk.disciplined`,
       `FolderTalk.shows_folder` and `FolderTalk.not_readsMissing_after` —
       making a folder exist obeys it.
    4. `PublishTalk`, `MarkTalk`, `tryPublish_talked` and `tryMark_talked` —
       the patterns of publishing and marking.
    5. `PublishTalk.noDelete`, `MarkTalk.noDelete`,
       `PublishTalk.disciplined` and `MarkTalk.disciplined`.
-/

namespace ContentPublish

open MemoryRepository

/-! ## What an exchange shows of the store -/

/-- The exchange shows the node at path `p` present: a read of it answered
`200`, or a create of it answered `201`. -/
def Exchange.Shows (p : String) (x : Exchange) : Prop :=
  x.request.url.pathText = p ∧
    ((x.request.method = .get ∧ ∃ r, x.answer = .ok r ∧ r.status = statusOk) ∨
      (x.request.method = .post ∧ ∃ r, x.answer = .ok r ∧ r.status = statusCreated))

/-- The exchange reads the node at path `p` as missing: a read of it
answered with another status than `200`. -/
def Exchange.ReadsMissing (p : String) (x : Exchange) : Prop :=
  x.request.method = .get ∧ x.request.url.pathText = p ∧
    ∃ r, x.answer = .ok r ∧ r.status ≠ statusOk

theorem Confirms.shows {u : Url} {x : Exchange} (h : Confirms u x) : x.Shows u.pathText := by
  rcases h with ⟨hreq, hok⟩ | ⟨hpost, hurl, hok⟩
  · refine ⟨by rw [hreq]; rfl, .inl ⟨by rw [hreq]; rfl, hok⟩⟩
  · exact ⟨by rw [hurl], .inr ⟨hpost, hok⟩⟩

/-- Answers that agree with a store that holds `root` and never loses a
node: neither the root nor a node shown present earlier is read as
missing. -/
def Consistent (root : String) (xs : List Exchange) : Prop :=
  (∀ x ∈ xs, ¬ x.ReadsMissing root) ∧ xs.Pairwise fun y x => ∀ p, y.Shows p → ¬ x.ReadsMissing p

/-! ## The discipline of a run -/

/-- How the exchange `x` ended a run after the exchanges `init`: the
transport failed; or `x` updated a path shown present in `init` and was not
answered `200`; or `x` created a path read as missing in `init`, whose
parent is `root` or was shown present in `init`, and was not answered
`201`. -/
def EndsRun (root : String) (init : List Exchange) (x : Exchange) : Prop :=
  (∃ e, x.answer = .error e) ∨
    (x.request.method = .put ∧ (∃ r, x.answer = .ok r ∧ r.status ≠ statusOk) ∧
      ∃ g ∈ init, g.Shows x.request.url.pathText) ∨
    (x.request.method = .post ∧ (∃ r, x.answer = .ok r ∧ r.status ≠ statusCreated) ∧
      (∃ g ∈ init, g.ReadsMissing x.request.url.pathText) ∧
      (parentPath x.request.url.pathText = root ∨
        ∃ y ∈ init, y.Shows (parentPath x.request.url.pathText)))

/-- A run that ended at its last exchange, in one of the ways of `EndsRun`. -/
def FailedLast (root : String) (xs : List Exchange) : Prop :=
  ∃ init x, xs = init ++ [x] ∧ EndsRun root init x

/-- What a run does whatever the transport answers: it never deletes, its
creates go to ever longer paths, and when `failed` holds it failed at its
last exchange. -/
structure Disciplined (root : String) (xs : List Exchange) (failed : Prop) : Prop where
  noDelete : ∀ x ∈ xs, x.request.method ≠ .delete
  deepening : (createdUrls xs).Pairwise fun u v => u.pathText.length < v.pathText.length
  failedLast : failed → FailedLast root xs

/-- Earlier exchanges keep an ending an ending, and the root may be any
path they show present. -/
theorem EndsRun.widen {root root' : String} {init : List Exchange} {x : Exchange}
    (pre : List Exchange) (h : EndsRun root' init x)
    (hroot : root' = root ∨ ∃ y ∈ pre, y.Shows root') : EndsRun root (pre ++ init) x := by
  have hmem : ∀ {y}, y ∈ init → y ∈ pre ++ init := fun hy => List.mem_append_right pre hy
  rcases h with herr | ⟨hput, hst, g, hg, hshows⟩ | ⟨hpost, hst, ⟨g, hg, hmiss⟩, hparent⟩
  · exact .inl herr
  · exact .inr (.inl ⟨hput, hst, g, hmem hg, hshows⟩)
  · refine .inr (.inr ⟨hpost, hst, ⟨g, hmem hg, hmiss⟩, ?_⟩)
    rcases hparent with hroot' | ⟨y, hy, hshows⟩
    · -- the run's root is the parent: the new root or shown present before
      rcases hroot with rfl | ⟨y, hy, hshows⟩
      · exact .inl hroot'
      · exact .inr ⟨y, List.mem_append_left init hy, hroot' ▸ hshows⟩
    · exact .inr ⟨y, hmem hy, hshows⟩

theorem FailedLast.widen {root root' : String} {xs : List Exchange} (pre : List Exchange)
    (h : FailedLast root' xs) (hroot : root' = root ∨ ∃ y ∈ pre, y.Shows root') :
    FailedLast root (pre ++ xs) := by
  obtain ⟨init, x, rfl, hend⟩ := h
  exact ⟨pre ++ init, x, by rw [List.append_assoc], hend.widen pre hroot⟩

theorem createdUrls_cons_of_ne {req : Request} (answer : Except Error Response) (xs : List Exchange)
    (h : req.method ≠ .post) : createdUrls (⟨req, answer⟩ :: xs) = createdUrls xs := by
  simp [createdUrls, h]

/-- A URL created by a run was the URL of one of its creates. -/
theorem mem_createdUrls {xs : List Exchange} {x : Exchange} (hx : x ∈ xs)
    (hpost : x.request.method = .post) : x.request.url ∈ createdUrls xs :=
  List.mem_filterMap.mpr ⟨x, hx, by simp [hpost]⟩

/-! ## Making a folder exist -/

/-- The prefixes of a path are ever longer. -/
theorem stepUrls_pairwise (items : Url) :
    ∀ (adds base : List String),
      (stepUrls items base adds).Pairwise fun u v => u.pathText.length < v.pathText.length
  | [], _ => List.Pairwise.nil
  | a :: adds, base => by
    refine List.pairwise_cons.mpr ⟨fun v hv => ?_, stepUrls_pairwise items adds (base ++ [a])⟩
    obtain ⟨more, hmore, -, rfl⟩ := mem_stepUrls.mp hv
    rw [pathText_segments, pathText_segments]
    exact length_joinPath_lt (base ++ [a]) hmore

/-- Every prefix of a folder is shorter than a path one segment below the
folder. -/
theorem pathText_stepUrls_lt {items v : Url} {base adds : List String} (a : String)
    (hv : v ∈ stepUrls items base adds) :
    v.pathText.length < (joinPath (base ++ adds ++ [a])).length := by
  obtain ⟨more, -, hmore, rfl⟩ := mem_stepUrls.mp hv
  have hle := length_joinPath_le_of_prefix base hmore
  rw [pathText_segments]
  exact Nat.lt_of_le_of_lt hle (length_joinPath_lt (base ++ adds) (List.cons_ne_nil a []))

/-- A visit of the steps below `base` whose first URL is `u` goes down one
segment `a`: `u` is the URL of `base ++ [a]`, and the steps below it follow. -/
theorem map_ok_stepUrls_eq_cons {items u : Url} {base adds : List String}
    {urls : List (Except Error Url)} (h : .ok u :: urls = (stepUrls items base adds).map .ok) :
    ∃ a rest, adds = a :: rest ∧ u = { items with path := .segments (base ++ [a]) } ∧
      urls = (stepUrls items (base ++ [a]) rest).map .ok := by
  cases adds with
  | nil => cases h
  | cons a rest =>
    simp only [stepUrls, List.map_cons, List.cons.injEq, Except.ok.injEq] at h
    exact ⟨a, rest, rfl, h.1, h.2⟩

namespace PrefixWalk

variable {items : Url} {xs : List Exchange} {res : Except Error Unit}

/-- **A visit of the prefixes that failed ended at its last exchange**: a
failed read, or a failed create of a prefix read as missing just before,
whose parent was confirmed earlier or is where the visit started. The
induction is on the walk, the start moving one prefix down at each step. -/
theorem failedLast {urls : List (Except Error Url)} (h : PrefixWalk urls xs res) :
    ∀ {base adds : List String}, urls = (stepUrls items base adds).map .ok →
      (∀ a ∈ adds, '/' ∉ a.toList) → res ≠ .ok () → FailedLast (joinPath base) xs := by
  induction h with
  | done => exact fun _ _ hres => (hres rfl).elim
  | noUrl =>
    intro base adds hurls
    cases adds <;> simp [stepUrls] at hurls
  | @readFails u _ e =>
    intro _ _ _ _ _
    exact ⟨[], _, rfl, .inl ⟨e, rfl⟩⟩
  | @found u _ resp _ _ hst _ ih =>
    intro base adds hurls hslash hres
    obtain ⟨a, adds, rfl, hu, hrest⟩ := map_ok_stepUrls_eq_cons hurls
    -- the read found the prefix, which becomes the start of the rest
    have hshows : (⟨Request.get u, .ok resp⟩ : Exchange).Shows (joinPath (base ++ [a])) :=
      ⟨by rw [hu]; rfl, .inl ⟨rfl, resp, rfl, hst⟩⟩
    exact (ih hrest (fun b hb => hslash b (List.mem_cons_of_mem a hb)) hres).widen _
      (.inr ⟨_, List.mem_singleton_self _, hshows⟩)
  | @created u _ resp resp' req _ _ _ hpost hurl hst' _ ih =>
    intro base adds hurls hslash hres
    obtain ⟨a, adds, rfl, hu, hrest⟩ := map_ok_stepUrls_eq_cons hurls
    -- the create made the prefix, which becomes the start of the rest
    have hshows : (⟨req, .ok resp'⟩ : Exchange).Shows (joinPath (base ++ [a])) :=
      ⟨by rw [hurl, hu]; rfl, .inr ⟨hpost, resp', rfl, hst'⟩⟩
    exact (ih hrest (fun b hb => hslash b (List.mem_cons_of_mem a hb)) hres).widen
      [⟨Request.get u, .ok resp⟩, ⟨req, .ok resp'⟩] (.inr ⟨⟨req, .ok resp'⟩, by simp, hshows⟩)
  | @createFails u _ resp req answer e hst hpost hurl hfail =>
    intro base adds hurls hslash _
    obtain ⟨a, adds, rfl, rfl, -⟩ := map_ok_stepUrls_eq_cons hurls
    refine ⟨[⟨Request.get _, .ok resp⟩], ⟨req, answer⟩, rfl, ?_⟩
    rcases hfail with rfl | ⟨resp', rfl, hst'⟩
    · exact .inl ⟨e, rfl⟩
    · -- the create of a prefix read as missing, right below the start
      refine .inr (.inr ⟨hpost, ⟨resp', rfl, hst'⟩, ⟨_, List.mem_singleton_self _,
        rfl, by rw [hurl]; rfl, resp, rfl, hst⟩, .inl ?_⟩)
      rw [hurl, pathText_segments, joinPath_append_single,
        parentPath_append_slash _ (hslash a List.mem_cons_self)]

/-- **A visit of the prefixes that succeeded showed the last one present.** -/
theorem shows_last {urls : List (Except Error Url)} (h : PrefixWalk urls xs res) :
    ∀ {base adds : List String}, urls = (stepUrls items base adds).map .ok → res = .ok () →
      adds = [] ∨ ∃ y ∈ xs, y.Shows (joinPath (base ++ adds)) := by
  induction h with
  | done =>
    intro base adds hurls _
    cases adds <;> simp [stepUrls] at hurls ⊢
  | noUrl => intro _ _ _ hres; cases hres
  | readFails => intro _ _ _ hres; cases hres
  | createFails => intro _ _ _ hres; cases hres
  | @found u _ resp _ _ hst _ ih =>
    intro base adds hurls hres
    obtain ⟨a, adds, rfl, rfl, hrest⟩ := map_ok_stepUrls_eq_cons hurls
    refine .inr ?_
    rcases ih hrest hres with rfl | ⟨y, hy, hshows⟩
    · exact ⟨_, List.mem_cons_self, rfl, .inl ⟨rfl, resp, rfl, hst⟩⟩
    · exact ⟨y, List.mem_cons_of_mem _ hy, by simpa using hshows⟩
  | @created u _ resp resp' req _ _ _ hpost hurl hst' _ ih =>
    intro base adds hurls hres
    obtain ⟨a, adds, rfl, rfl, hrest⟩ := map_ok_stepUrls_eq_cons hurls
    refine .inr ?_
    rcases ih hrest hres with rfl | ⟨y, hy, hshows⟩
    · exact ⟨⟨req, .ok resp'⟩, by simp, by rw [hurl]; rfl, .inr ⟨hpost, resp', rfl, hst'⟩⟩
    · exact ⟨y, by simp [hy], by simpa using hshows⟩

end PrefixWalk

namespace FolderTalk

variable {ws : Workspace} {path : String} {items : Url} {base segs adds : List String}
  {xs : List Exchange} {res : Except Error Unit}

/-- The creates of a run that makes a folder exist go to its prefixes, in
order. -/
theorem createdUrls_sublist_stepUrls (h : FolderTalk ws path xs res)
    (hlay : FolderLayout ws path items base segs adds) :
    (createdUrls xs).Sublist (stepUrls items base adds) := by
  cases h with
  | refused => simp
  | root => simp
  | noUrl => simp
  | readFails => simp
  | found => simp
  | walk hs _ _ _ hwalk =>
    rw [hlay.segments, Except.ok.injEq] at hs
    subst hs
    rw [hlay.prefixes] at hwalk
    rw [createdUrls_get]
    simpa [List.filterMap_map, Function.comp_def, Except.toOption] using hwalk.createdUrls_sublist

/-- Making a folder exist never deletes: it reads and creates. -/
theorem noDelete (h : FolderTalk ws path xs res) : ∀ x ∈ xs, x.request.method ≠ .delete := by
  intro x hx
  rcases h.methods x hx with hm | hm <;> rw [hm] <;> decide

/-- **Making a folder exist obeys the discipline of a run**, with the items
root as the root. -/
theorem disciplined (h : FolderTalk ws path xs res) (hlay : FolderLayout ws path items base segs adds) :
    Disciplined (joinPath base) xs (res ≠ .ok ()) where
  noDelete := h.noDelete
  deepening := (stepUrls_pairwise items adds base).sublist (h.createdUrls_sublist_stepUrls hlay)
  failedLast hres := by
    cases h with
    | refused hs =>
      rw [hlay.segments] at hs
      cases hs
    | root => exact (hres rfl).elim
    | noUrl _ _ hu =>
      rw [hlay.folder] at hu
      cases hu
    | @readFails _ _ e => exact ⟨[], _, rfl, .inl ⟨e, rfl⟩⟩
    | found => exact (hres rfl).elim
    | walk hs _ _ _ hwalk =>
      rw [hlay.segments, Except.ok.injEq] at hs
      subst hs
      rw [hlay.prefixes] at hwalk
      exact (hwalk.failedLast rfl hlay.slash hres).widen [_] (.inl rfl)

/-- **A folder made to exist was shown present by the run**, unless it is the
items root. -/
theorem shows_folder (h : FolderTalk ws path xs (.ok ()))
    (hlay : FolderLayout ws path items base segs adds) :
    adds = [] ∨ ∃ y ∈ xs, y.Shows (joinPath (base ++ adds)) := by
  cases h with
  | root hs =>
    rw [hlay.segments] at hs
    cases hs
    exact .inl (List.length_eq_zero_iff.mp hlay.length)
  | found _ _ hu hst =>
    rw [hlay.folder, Except.ok.injEq] at hu
    subst hu
    exact .inr ⟨_, List.mem_singleton_self _, rfl, .inl ⟨rfl, _, rfl, hst⟩⟩
  | walk hs _ _ _ hwalk =>
    rw [hlay.segments, Except.ok.injEq] at hs
    subst hs
    rw [hlay.prefixes] at hwalk
    rcases hwalk.shows_last rfl rfl with hnil | ⟨y, hy, hshows⟩
    · exact .inl hnil
    · exact .inr ⟨y, List.mem_cons_of_mem _ hy, hshows⟩

/-- **A folder made to exist is not read as missing afterwards**, when the
answers agree with a store that only grows. -/
theorem not_readsMissing_after (h : FolderTalk ws path xs (.ok ()))
    (hlay : FolderLayout ws path items base segs adds) {later : List Exchange}
    (hcons : Consistent (joinPath base) (xs ++ later)) :
    ∀ x ∈ later, ¬ x.ReadsMissing (joinPath (base ++ adds)) := by
  intro x hx hmiss
  rcases h.shows_folder hlay with rfl | ⟨y, hy, hshows⟩
  · exact hcons.1 x (List.mem_append_right _ hx) (by simpa using hmiss)
  · exact (List.pairwise_append.mp hcons.2).2.2 y hy x hx _ hshows hmiss

end FolderTalk

/-! ## The patterns of publishing and marking -/

/-- The exchanges of publishing the file node `node`, whose URL is `u` and
whose body is `body`, into the folder at `path` of `ws`, and the result. -/
inductive PublishTalk (ws : Workspace) (path : String) (node : FileNode) (u : Url)
    (body : List UInt8) : List Exchange → Except Error Unit → Prop where
  /-- Reading the file failed to connect. -/
  | readFails {e : Error} : PublishTalk ws path node u body [⟨Request.get u, .error e⟩] (.error e)
  /-- The file answered `200`: it is updated. -/
  | update {resp : Response} {answer : Except Error Response} : resp.status = statusOk →
      PublishTalk ws path node u body
        [⟨Request.get u, .ok resp⟩, ⟨Session.fileWrite .put u body, answer⟩]
        (Session.writeOutcome (.file node) ws statusOk "update" answer)
  /-- The file did not answer `200`, and making its folder exist failed. -/
  | folderFails {resp : Response} {ys : List Exchange} {e : Error} : resp.status ≠ statusOk →
      FolderTalk ws path ys (.error e) →
      PublishTalk ws path node u body (⟨Request.get u, .ok resp⟩ :: ys) (.error e)
  /-- The file did not answer `200`: its folder is made to exist, then it is
  created. -/
  | create {resp : Response} {ys : List Exchange} {answer : Except Error Response} :
      resp.status ≠ statusOk → FolderTalk ws path ys (.ok ()) →
      PublishTalk ws path node u body
        (⟨Request.get u, .ok resp⟩ :: (ys ++ [⟨Session.fileWrite .post u body, answer⟩]))
        (Session.writeOutcome (.file node) ws statusCreated "create" answer)

/-- The exchanges of writing the folder `f` of `ws`, whose URL is `u`, and
the result. -/
inductive WriteTalk (ws : Workspace) (f : FolderNode) (u : Url) :
    List Exchange → Except Error Unit → Prop where
  /-- Reading the folder failed to connect. -/
  | readFails {e : Error} : WriteTalk ws f u [⟨Request.get u, .error e⟩] (.error e)
  /-- The folder answered `200`: it is updated. -/
  | update {resp : Response} {answer : Except Error Response} : resp.status = statusOk →
      WriteTalk ws f u [⟨Request.get u, .ok resp⟩, ⟨Session.folderWrite .put u f.document.toBytes, answer⟩]
        (Session.writeOutcome (.folder f) ws statusOk "update" answer)
  /-- The folder did not answer `200`: it is created. -/
  | create {resp : Response} {answer : Except Error Response} : resp.status ≠ statusOk →
      WriteTalk ws f u [⟨Request.get u, .ok resp⟩, ⟨Session.folderWrite .post u f.document.toBytes, answer⟩]
        (Session.writeOutcome (.folder f) ws statusCreated "create" answer)

/-- The exchanges of marking the folder `f`, whose URL is `u`, once its
parent at `parent` is made to exist, and the result. -/
inductive MarkTalk (ws : Workspace) (parent : String) (f : FolderNode) (u : Url) :
    List Exchange → Except Error Unit → Prop where
  /-- Making the parent exist failed. -/
  | folderFails {ys : List Exchange} {e : Error} : FolderTalk ws parent ys (.error e) →
      MarkTalk ws parent f u ys (.error e)
  /-- The parent was made to exist, then the folder written. -/
  | write {ys zs : List Exchange} {res : Except Error Unit} : FolderTalk ws parent ys (.ok ()) →
      WriteTalk ws f u zs res → MarkTalk ws parent f u (ys ++ zs) res

namespace Session

variable {σ : Type} (t : Transport σ)

/-- **Publishing a file follows `PublishTalk`**, over every transport. -/
theorem tryPublish_talked {ws : Workspace} {path file : String} {versioning : Bool}
    {node : FileNode} {u : Url} {body : List UInt8} (w : World σ)
    (hnode : FileNode.new w.files ws path file versioning = .ok node) (hws : node.workspace = ws)
    (hurl : node.url = .ok u) (hbody : node.content w.files = .ok body) :
    ∃ xs, Talked t ws.server w (run (tryPublish t ws path file versioning) w).2 xs ∧
      PublishTalk ws path node u body xs (run (tryPublish t ws path file versioning) w).1 := by
  have hws' : (PathNode.file node).workspace? = some ws := by simp [PathNode.workspace?, hws]
  have hurl' : (PathNode.file node).writeUrl = .ok (u.setQuery (some Jcr.terseResponseQuery)) := by
    simp [PathNode.writeUrl, PathNode.url, hurl]
  -- the body is read from the local files, which no exchange changes
  have hbodyAt : ∀ w' : World σ, w'.files = w.files →
      (PathNode.file node).content w'.files = .ok (some body) := by
    intro w' hfiles
    rw [hfiles, PathNode.content, hbody]
    rfl
  simp only [tryPublish, run_bind, run_files, hnode, run_lift, hurl]
  obtain ⟨w₁, ⟨e, hp, hread⟩ | ⟨resp, hst, hp, hread⟩ | ⟨resp, hst, hp, hread⟩⟩ :=
    pathExists_cases t ws.server u w
  · simp only [hp]
    exact ⟨_, hread, .readFails⟩
  · -- the file is there: it is updated
    simp only [hp, if_true, updateNode]
    obtain ⟨hwrite, hout⟩ :=
      writeNode_talked t .put statusOk "update" w₁ hws' (hbodyAt w₁ hread.files) hurl'
    exact ⟨_, hread.trans hwrite, by rw [hout]; exact .update hst⟩
  · -- it is not: its folder is made to exist, then it is created
    simp only [hp, Bool.false_eq_true, if_false, run_bind]
    obtain ⟨ys, htalk, hpat⟩ := ensureFolderExists_talked t ws path w₁
    rcases he : run (ensureFolderExists t ws path) w₁ with ⟨res, w₂⟩
    rw [he] at htalk hpat
    cases res with
    | error e => exact ⟨_, hread.trans htalk, .folderFails hst hpat⟩
    | ok _ =>
      obtain ⟨hwrite, hout⟩ := writeNode_talked t .post statusCreated "create" w₂ hws'
        (hbodyAt w₂ (htalk.files.trans hread.files)) hurl'
      exact ⟨_, (hread.trans htalk).trans hwrite, by rw [createNode, hout]; exact .create hst hpat⟩

/-- **Writing a folder follows `WriteTalk`**, over every transport. -/
theorem writeFolder_talked {ws : Workspace} {f : FolderNode} {u : Url} (w : World σ)
    (hws : f.workspace = ws) (hurl : f.url = .ok u) :
    ∃ xs, Talked t ws.server w (run (writeFolder t ws f) w).2 xs ∧
      WriteTalk ws f u xs (run (writeFolder t ws f) w).1 := by
  have hws' : (PathNode.folder f).workspace? = some ws := by simp [PathNode.workspace?, hws]
  have hbody : ∀ files, (PathNode.folder f).content files = .ok (some f.document.toBytes) :=
    fun _ => rfl
  have hurl' : (PathNode.folder f).writeUrl = .ok u := by
    simp [PathNode.writeUrl, PathNode.url, hurl]
  simp only [writeFolder, run_bind, run_lift, hurl]
  obtain ⟨w₁, ⟨e, hp, hread⟩ | ⟨resp, hst, hp, hread⟩ | ⟨resp, hst, hp, hread⟩⟩ :=
    pathExists_cases t ws.server u w
  · simp only [hp]
    exact ⟨_, hread, .readFails⟩
  · -- the folder is there: it is updated
    simp only [hp, if_true, updateNode]
    obtain ⟨hwrite, hout⟩ := writeNode_talked t .put statusOk "update" w₁ hws' (hbody _) hurl'
    exact ⟨_, hread.trans hwrite, by rw [hout]; exact .update hst⟩
  · -- it is not: it is created
    simp only [hp, Bool.false_eq_true, if_false, createNode]
    obtain ⟨hwrite, hout⟩ := writeNode_talked t .post statusCreated "create" w₁ hws' (hbody _) hurl'
    exact ⟨_, hread.trans hwrite, by rw [hout]; exact .create hst⟩

/-- **Marking a folder follows `MarkTalk`**, over every transport. -/
theorem tryMark_talked {ws : Workspace} {path : String} {title description : Option String}
    {u : Url} (w : World σ)
    (hurl : ((FolderNode.new ws (trimTrailingSlash path)).markedAsPublishArea title description).url =
      .ok u) :
    ∃ xs, Talked t ws.server w (run (tryMark t ws path title description) w).2 xs ∧
      MarkTalk ws (parentOf (trimTrailingSlash path))
        ((FolderNode.new ws (trimTrailingSlash path)).markedAsPublishArea title description) u xs
        (run (tryMark t ws path title description) w).1 := by
  rw [tryMark_eq, run_bind]
  obtain ⟨ys, htalk, hpat⟩ := ensureFolderExists_talked t ws (parentOf (trimTrailingSlash path)) w
  rcases he : run (ensureFolderExists t ws (parentOf (trimTrailingSlash path))) w with ⟨res, w₁⟩
  rw [he] at htalk hpat
  cases res with
  | error e => exact ⟨_, htalk, .folderFails hpat⟩
  | ok _ =>
    obtain ⟨zs, hwrite, hw⟩ := writeFolder_talked t w₁ rfl hurl
    exact ⟨_, htalk.trans hwrite, .write hpat hw⟩

end Session

/-! ## The discipline of publishing and marking -/

theorem writeOutcome_ne_ok {node : PathNode} {ws : Workspace} {expected : Nat} {operation : String}
    {answer : Except Error Response} (h : Session.writeOutcome node ws expected operation answer ≠ .ok ()) :
    (∃ e, answer = .error e) ∨ ∃ r, answer = .ok r ∧ r.status ≠ expected := by
  cases answer with
  | error e => exact .inl ⟨e, rfl⟩
  | ok r => exact .inr ⟨r, rfl, fun hst => h (Session.writeOutcome_eq_ok.mpr ⟨r, rfl, hst⟩)⟩

/-- Publishing a file never deletes: it reads, creates and updates. -/
theorem PublishTalk.noDelete {ws : Workspace} {path : String} {node : FileNode} {u : Url}
    {body : List UInt8} {xs : List Exchange} {res : Except Error Unit}
    (h : PublishTalk ws path node u body xs res) : ∀ x ∈ xs, x.request.method ≠ .delete := by
  intro x hx
  cases h with
  | folderFails _ hpat =>
    rcases List.mem_cons.mp hx with rfl | hx
    · simp [Request.get, Request.new]
    · exact hpat.noDelete x hx
  | create _ hpat =>
    simp only [List.mem_cons, List.mem_append, List.not_mem_nil, or_false] at hx
    rcases hx with rfl | hx | rfl
    · simp [Request.get, Request.new]
    · exact hpat.noDelete x hx
    · simp [Session.fileWrite, Request.withBody, Request.new]
  | readFails | update =>
    simp only [List.mem_cons, List.not_mem_nil, or_false] at hx
    rcases hx with rfl | rfl <;> simp [Request.get, Request.new, Session.fileWrite, Request.withBody]

/-- **Publishing a file obeys the discipline of a run**, for a folder laid out
under the items root and a file one segment below it. -/
theorem PublishTalk.disciplined {ws : Workspace} {path : String} {node : FileNode} {u : Url}
    {body : List UInt8} {xs : List Exchange} {res : Except Error Unit} {items : Url}
    {base segs adds : List String} {a : String} (h : PublishTalk ws path node u body xs res)
    (hlay : FolderLayout ws path items base segs adds)
    (hu : u.pathText = joinPath (base ++ adds ++ [a])) (ha : '/' ∉ a.toList) :
    Disciplined (joinPath base) xs (res ≠ .ok ()) := by
  have hwrite : ∀ method, (Session.fileWrite method u body).url.pathText = u.pathText :=
    fun method => Session.pathText_fileWrite method u body
  have hnoDelete := h.noDelete
  cases h with
  | readFails =>
    refine ⟨hnoDelete, by simp, fun _ => ⟨[], _, rfl, .inl ⟨_, rfl⟩⟩⟩
  | @update resp answer hst =>
    refine ⟨hnoDelete,
      by simp [createdUrls, Request.get, Request.new, Session.fileWrite, Request.withBody],
      fun hres => ⟨[⟨Request.get u, .ok resp⟩], _, rfl, ?_⟩⟩
    rcases writeOutcome_ne_ok hres with ⟨e, rfl⟩ | ⟨r, rfl, hr⟩
    · exact .inl ⟨e, rfl⟩
    · -- an update of the file the read found
      exact .inr (.inl ⟨rfl, ⟨r, rfl, hr⟩, _, List.mem_singleton_self _,
        by rw [hwrite]; rfl, .inl ⟨rfl, resp, rfl, hst⟩⟩)
  | @folderFails resp ys e hst hpat =>
    have hfolder := hpat.disciplined hlay
    exact ⟨hnoDelete, by simpa using hfolder.deepening, fun _ =>
      (hfolder.failedLast (by simp)).widen [_] (.inl rfl)⟩
  | @create resp ys answer hst hpat =>
    have hfolder := hpat.disciplined hlay
    refine ⟨hnoDelete, ?_, fun hres => ?_⟩
    · -- the folder's creates go to its prefixes, all shorter than the file
      rw [createdUrls_get, createdUrls_append, createdUrls_post _ _ rfl, createdUrls_nil]
      refine List.pairwise_append.mpr ⟨hfolder.deepening, List.pairwise_singleton _ _,
        fun v hv w hw => ?_⟩
      rw [List.mem_singleton.mp hw, hwrite, hu]
      exact pathText_stepUrls_lt a ((hpat.createdUrls_sublist_stepUrls hlay).subset hv)
    · refine ⟨⟨Request.get u, .ok resp⟩ :: ys, ⟨Session.fileWrite .post u body, answer⟩, by simp, ?_⟩
      rcases writeOutcome_ne_ok hres with ⟨e, rfl⟩ | ⟨r, rfl, hr⟩
      · exact .inl ⟨e, rfl⟩
      · -- a create of the file the read missed, under its folder
        refine .inr (.inr ⟨rfl, ⟨r, rfl, hr⟩, ⟨_, List.mem_cons_self,
          rfl, by rw [hwrite]; rfl, resp, rfl, hst⟩, ?_⟩)
        have hparent : parentPath (Session.fileWrite .post u body).url.pathText = joinPath (base ++ adds) := by
          rw [hwrite, hu, joinPath_append_single, parentPath_append_slash _ ha]
        rw [hparent]
        rcases hpat.shows_folder hlay with rfl | ⟨y, hy, hshows⟩
        · exact .inl (by simp)
        · exact .inr ⟨y, List.mem_cons_of_mem _ hy, hshows⟩

/-- Marking a folder never deletes: it reads, creates and updates. -/
theorem MarkTalk.noDelete {ws : Workspace} {parent : String} {f : FolderNode} {u : Url}
    {xs : List Exchange} {res : Except Error Unit} (h : MarkTalk ws parent f u xs res) :
    ∀ x ∈ xs, x.request.method ≠ .delete := by
  cases h with
  | folderFails hpat => exact hpat.noDelete
  | write hpat hw =>
    intro x hx
    rcases List.mem_append.mp hx with hx | hx
    · exact hpat.noDelete x hx
    · cases hw <;> simp only [List.mem_cons, List.not_mem_nil, or_false] at hx <;>
        rcases hx with rfl | rfl <;> simp [Request.get, Request.new, Session.folderWrite, Request.withBody]

/-- **Marking a folder obeys the discipline of a run**, for a parent laid out
under the items root and a folder at most one segment below it, when the
answers agree with a store that only grows. -/
theorem MarkTalk.disciplined {ws : Workspace} {parent : String} {f : FolderNode} {u : Url}
    {xs : List Exchange} {res : Except Error Unit} {items : Url}
    {base parentSegs adds more : List String} (h : MarkTalk ws parent f u xs res)
    (hlay : FolderLayout ws parent items base parentSegs adds)
    (hu : u = { items with path := .segments (base ++ (adds ++ more)) }) (hmore : more.length ≤ 1)
    (hslash : ∀ b ∈ more, '/' ∉ b.toList) (hcons : Consistent (joinPath base) xs) :
    Disciplined (joinPath base) xs (res ≠ .ok ()) := by
  have hnoDelete := h.noDelete
  cases h with
  | folderFails hpat => exact hpat.disciplined hlay
  | @write ys zs _ hpat hw =>
    have hfolder := hpat.disciplined hlay
    cases hw with
    | @readFails e =>
      exact ⟨hnoDelete, by simpa [createdUrls_append] using hfolder.deepening,
        fun _ => ⟨ys, _, rfl, .inl ⟨e, rfl⟩⟩⟩
    | @update resp answer hst =>
      refine ⟨hnoDelete, ?_, fun hres => ⟨ys ++ [⟨Request.get u, .ok resp⟩],
        ⟨Session.folderWrite .put u f.document.toBytes, answer⟩, by simp, ?_⟩⟩
      · rw [createdUrls_append, createdUrls_get,
          createdUrls_cons_of_ne _ _ (by simp [Session.folderWrite, Request.withBody, Request.new]),
          createdUrls_nil, List.append_nil]
        exact hfolder.deepening
      · rcases writeOutcome_ne_ok hres with ⟨e, rfl⟩ | ⟨r, rfl, hr⟩
        · exact .inl ⟨e, rfl⟩
        · -- an update of the folder the read found
          exact .inr (.inl ⟨rfl, ⟨r, rfl, hr⟩, ⟨Request.get u, .ok resp⟩, by simp, rfl,
            .inl ⟨rfl, resp, rfl, hst⟩⟩)
    | @create resp answer hst =>
      -- the folder was read as missing, so it is not its parent: it adds a segment
      have hmissed : ¬ (⟨Request.get u, .ok resp⟩ : Exchange).ReadsMissing (joinPath (base ++ adds)) :=
        hpat.not_readsMissing_after hlay hcons _ (by simp)
      obtain ⟨b, rfl⟩ : ∃ b, more = [b] := by
        rcases more with _ | ⟨b, _ | ⟨c, more⟩⟩
        · exact (hmissed ⟨rfl, by simp [hu, Request.get, Request.new, pathText_segments], resp, rfl,
            hst⟩).elim
        · exact ⟨b, rfl⟩
        · simp at hmore
      have hb := hslash b List.mem_cons_self
      refine ⟨hnoDelete, ?_, fun hres => ⟨ys ++ [⟨Request.get u, .ok resp⟩],
        ⟨Session.folderWrite .post u f.document.toBytes, answer⟩, by simp, ?_⟩⟩
      · -- the parent's creates go to its prefixes, all shorter than the folder
        rw [createdUrls_append, createdUrls_get, createdUrls_post _ _ rfl, createdUrls_nil]
        refine List.pairwise_append.mpr ⟨hfolder.deepening, List.pairwise_singleton _ _,
          fun v hv w hw => ?_⟩
        rw [List.mem_singleton.mp hw]
        show v.pathText.length < u.pathText.length
        rw [hu, pathText_segments, ← List.append_assoc]
        exact pathText_stepUrls_lt b ((hpat.createdUrls_sublist_stepUrls hlay).subset hv)
      · rcases writeOutcome_ne_ok hres with ⟨e, rfl⟩ | ⟨r, rfl, hr⟩
        · exact .inl ⟨e, rfl⟩
        · -- a create of the folder the read missed, under its parent
          refine .inr (.inr ⟨rfl, ⟨r, rfl, hr⟩, ⟨⟨Request.get u, .ok resp⟩, by simp, rfl, rfl, resp, rfl,
            hst⟩, ?_⟩)
          have hparent : parentPath u.pathText = joinPath (base ++ adds) := by
            rw [hu, pathText_segments, ← List.append_assoc, joinPath_append_single,
              parentPath_append_slash _ hb]
          show parentPath u.pathText = joinPath base ∨
            ∃ y ∈ ys ++ [⟨Request.get u, .ok resp⟩], y.Shows (parentPath u.pathText)
          rw [hparent]
          rcases hpat.shows_folder hlay with rfl | ⟨y, hy, hshows⟩
          · exact .inl (by simp)
          · exact .inr ⟨y, by simp [hy], hshows⟩

end ContentPublish
