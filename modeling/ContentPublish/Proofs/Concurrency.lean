import ContentPublish.Proofs.Operations
import Mathlib.Data.Fintype.Basic
import Mathlib.Data.Finset.Max

/-
  Operations run concurrently against one tree server

  Several publishes and marks run at once against one tree server, their
  requests reaching it interleaved in any order. The tree server answers
  the whole trace of requests in turn, and each run sees its own answers, in
  order. A run can lose a race: it reads a path as missing, another run
  creates the path, and its own create of the path is then refused.

  On plain paths, from a store that holds the items root and is closed
  under parents, that is the only way a run fails. A failed run failed at
  its last exchange, a create refused with `409` because another run had
  created the path after the failed run read it as missing. Not every run
  can fail. The run that wins a race creates the path and then goes
  deeper, so if it fails too, its refused create is deeper; the failed run
  whose refused create is deepest would have lost to a run that did not
  fail. The nodes stay closed under parents, and any of the operations run
  again alone afterwards succeeds.

  What is stated here:
    1. `runOf`, with `runOf_append`, `mem_runOf`, `runOf_sublist` and
       `runOf_eq_append_singleton` — the runs of a trace.
    2. `Interleaving`, `LostRace` and `lastDepth`.
    3. `Interleaving.noDelete` and `Interleaving.disciplined` — each run
       obeys the discipline of a run.
    4. `Interleaving.lostRace`, `Interleaving.deeper` and
       `Interleaving.some_ok` — a failed run lost a race, and some run
       succeeds.
    5. `interleaved_runs_settle` — the whole result.
-/

namespace ContentPublish

open MemoryRepository Session

/-! ## The runs of a trace -/

section Trace

variable {n : Nat}

/-- The exchanges of run `i` in a trace of exchanges tagged with their
runs, in order. -/
def runOf (i : Fin n) (trace : List (Fin n × Exchange)) : List Exchange :=
  trace.filterMap fun e => if e.1 = i then some e.2 else none

theorem runOf_append (i : Fin n) (l₁ l₂ : List (Fin n × Exchange)) :
    runOf i (l₁ ++ l₂) = runOf i l₁ ++ runOf i l₂ :=
  List.filterMap_append

@[simp] theorem runOf_cons_self (i : Fin n) (x : Exchange) (l : List (Fin n × Exchange)) :
    runOf i ((i, x) :: l) = x :: runOf i l := by
  simp [runOf]

theorem runOf_cons_of_ne {i j : Fin n} (x : Exchange) (l : List (Fin n × Exchange)) (h : j ≠ i) :
    runOf i ((j, x) :: l) = runOf i l := by
  simp [runOf, h]

theorem mem_runOf {i : Fin n} {x : Exchange} {trace : List (Fin n × Exchange)} :
    x ∈ runOf i trace ↔ (i, x) ∈ trace := by
  simp only [runOf, List.mem_filterMap, Option.ite_none_right_eq_some, Option.some.injEq]
  constructor
  · rintro ⟨⟨j, y⟩, hy, rfl, rfl⟩
    exact hy
  · intro hx
    exact ⟨(i, x), hx, rfl, rfl⟩

/-- A run's exchanges are among the trace's, in their order. -/
theorem runOf_sublist (i : Fin n) :
    ∀ trace : List (Fin n × Exchange), (runOf i trace).Sublist (trace.map Prod.snd)
  | [] => by simp [runOf]
  | (j, x) :: rest => by
    by_cases hj : j = i
    · subst hj
      rw [runOf_cons_self, List.map_cons]
      exact (runOf_sublist j rest).cons_cons x
    · rw [runOf_cons_of_ne x rest hj, List.map_cons]
      exact (runOf_sublist i rest).cons x

/-- Where the last exchange of a run stands in the trace: after it, the run
has no exchange. -/
theorem runOf_eq_append_singleton {i : Fin n} {trace : List (Fin n × Exchange)}
    {init : List Exchange} {x : Exchange} (h : runOf i trace = init ++ [x]) :
    ∃ pre post, trace = pre ++ (i, x) :: post ∧ runOf i pre = init ∧ runOf i post = [] := by
  obtain ⟨l₁, l₂, rfl, h₁, h₂⟩ := List.filterMap_eq_append_iff.mp h
  obtain ⟨m₁, ⟨j, y⟩, m₂, rfl, hnone, he, h₃⟩ := List.filterMap_eq_cons_iff.mp h₂
  -- the one exchange of run `i` in the second part is `x`
  obtain ⟨rfl, rfl⟩ : j = i ∧ y = x := by
    simpa only [Option.ite_none_right_eq_some, Option.some.injEq] using he
  have hm₁ : runOf j m₁ = [] := List.filterMap_eq_nil_iff.mpr hnone
  exact ⟨l₁ ++ m₁, m₂, by simp, by rw [runOf_append, show runOf j l₁ = init from h₁, hm₁, List.append_nil], h₃⟩

/-- The runs of a trace whose run `i` has no exchange after `x`. -/
theorem runOf_of_last {i : Fin n} {trace pre post : List (Fin n × Exchange)} {x : Exchange}
    (htrace : trace = pre ++ (i, x) :: post) (hpost : runOf i post = []) :
    runOf i trace = runOf i pre ++ [x] := by
  rw [htrace, runOf_append, runOf_cons_self, hpost]

end Trace

/-! ## Interleaved runs -/

/-- Runs of the operations `ops` against a tree server, their requests
interleaved in any order. The tree server answered the whole trace, from
`s` to `s'`; and the exchanges of each run `i`, in their order in the trace,
are a run of its operation that reports `statuses i`. -/
structure Interleaving (ws : Workspace) (files : LocalFiles) {n : Nat} (ops : Fin n → Operation)
    (s s' : TreeServer) (trace : List (Fin n × Exchange)) (statuses : Fin n → Status) : Prop where
  answers : Answers TreeServer.transport ws.server s (trace.map Prod.snd) s'
  runs : ∀ i, (ops i).Runs ws files (runOf i trace) (statuses i)

/-- Run `i` of the trace lost a race for a path. It read the path as
missing; then another run created the path; then `i`'s create of the path,
its last exchange, came while the path was there and was refused with
`409`. -/
def LostRace (server : Server) (s : TreeServer) {n : Nat} (trace : List (Fin n × Exchange))
    (i : Fin n) : Prop :=
  ∃ (before between after : List (Fin n × Exchange)) (read create : Exchange),
    trace = before ++ (i, read) :: (between ++ (i, create) :: after) ∧ runOf i after = [] ∧
    read.ReadsMissing create.request.url.pathText ∧
    (∃ j won, j ≠ i ∧ (j, won) ∈ between ∧ won.Creates create.request.url.pathText) ∧
    create.request.method = .post ∧ create.answer = .ok ⟨409, ""⟩ ∧
    ∃ s₁, Answers TreeServer.transport server s ((before ++ (i, read) :: between).map Prod.snd) s₁ ∧
      create.request.url.pathText ∈ s₁.repo.nodes

/-- The length of the path of the last request of run `i`, or `0` when it
sent none. -/
def lastDepth {n : Nat} (trace : List (Fin n × Exchange)) (i : Fin n) : Nat :=
  ((runOf i trace).getLast?.map fun x => x.request.url.pathText.length).getD 0

theorem lastDepth_of_last {n : Nat} {trace : List (Fin n × Exchange)} {i : Fin n}
    {init : List Exchange} {x : Exchange} (h : runOf i trace = init ++ [x]) :
    lastDepth trace i = x.request.url.pathText.length := by
  simp [lastDepth, h]

/-- In a disciplined run that ends with a create, every earlier create went
to a shorter path. -/
theorem Disciplined.shorter {root : String} {init : List Exchange} {x y : Exchange} {failed : Prop}
    (h : Disciplined root (init ++ [x]) failed) (hx : x.request.method = .post) (hy : y ∈ init)
    (hpost : y.request.method = .post) :
    y.request.url.pathText.length < x.request.url.pathText.length := by
  have hdeep := h.deepening
  obtain ⟨req, answer⟩ := x
  rw [createdUrls_append, createdUrls_post _ _ hx, createdUrls_nil] at hdeep
  exact (List.pairwise_append.mp hdeep).2.2 _ (mem_createdUrls hy hpost) _ (List.mem_singleton_self _)

namespace Interleaving

section

variable {ws : Workspace} {files : LocalFiles} {n : Nat} {ops : Fin n → Operation}
  {s s' : TreeServer} {trace : List (Fin n × Exchange)} {statuses : Fin n → Status}
  {items : Url} {base : List String}
  (h : Interleaving ws files ops s s' trace statuses) (hitems : ws.itemUrl "" [] = .ok items)
  (hbase : items.path = .segments base) (hplain : ∀ i, (ops i).Plain files)
include h hitems hbase hplain

/-- No run deletes, so the trace has no delete. -/
theorem noDelete : ∀ x ∈ trace.map Prod.snd, x.request.method ≠ .delete := by
  intro x hx
  obtain ⟨⟨i, y⟩, hy, rfl⟩ := List.mem_map.mp hx
  exact ((h.runs i).disciplined hitems hbase (hplain i)).1 y (mem_runOf.mpr hy)

/-- **Each run obeys the discipline of a run.** The tree server's answers to
the whole trace agree with a store that only grows, and so do each run's:
every run creates ever deeper paths, and a run that reports a failure
failed at its last exchange. -/
theorem disciplined (hroot : joinPath base ∈ s.repo.nodes) (i : Fin n) :
    Disciplined (joinPath base) (runOf i trace) (statuses i ≠ Status.ok) := by
  have hcons := h.answers.consistent (h.noDelete hitems hbase hplain) hroot
  exact ((h.runs i).disciplined hitems hbase (hplain i)).2 (hcons.sublist (runOf_sublist i trace))

/-- **A run that reports a failure lost a race.** It failed at its last
exchange. The tree server always answers, and answers `200` to an update
of a path shown present, so that exchange was a create of a path read as
missing, whose parent was there; it was refused because the path was there
too. So between the read and the create some create of the path was
answered `201`, and it was not one of the run's own, which go to ever
deeper paths. -/
theorem lostRace (hroot : joinPath base ∈ s.repo.nodes) {i : Fin n}
    (hfail : statuses i ≠ Status.ok) : LostRace ws.server s trace i := by
  have hdisc := h.disciplined hitems hbase hplain hroot i
  obtain ⟨init, x, hrun, hend⟩ := hdisc.failedLast hfail
  rw [hrun] at hdisc
  obtain ⟨pre, post, htrace, hpre, hpost⟩ := runOf_eq_append_singleton hrun
  -- the state the last exchange found
  have hans := h.answers
  rw [htrace, List.map_append, List.map_cons] at hans
  obtain ⟨s₁, hans₁, hans₂⟩ := Answers.split hans
  obtain ⟨_, hr, -⟩ := Answers.cons_inv hans₂
  have hdel : ∀ y ∈ pre.map Prod.snd, y.request.method ≠ .delete := fun y hy =>
    h.noDelete hitems hbase hplain y (by rw [htrace, List.map_append]; exact List.mem_append_left _ hy)
  have hinit : ∀ {y}, y ∈ init → y ∈ pre.map Prod.snd := fun hy =>
    (runOf_sublist i pre).subset (hpre ▸ hy)
  rcases hend with ⟨e, he⟩ | ⟨hput, ⟨r, hr', hst⟩, g, hg, hshows⟩ |
    ⟨hpost', hrefused, ⟨g, hg, hmiss⟩, hparent⟩
  · -- the tree server always answers
    rw [(TreeServer.respond_eq hr).1] at he
    cases he
  · -- an update of a path shown present is answered `200`
    rw [TreeServer.put_answer hr hput (hans₁.mem_of_shows hdel (hinit hg) hshows)] at hr'
    cases hr'
    exact (hst rfl).elim
  · -- a create refused while its parent was there: the path was there
    have hparentIn : parentPath x.request.url.pathText ∈ s₁.repo.nodes := by
      rcases hparent with hparent | ⟨y, hy, hshows⟩
      · rw [hparent]
        exact hans₁.nodes_mono hdel hroot
      · exact hans₁.mem_of_shows hdel (hinit hy) hshows
    obtain ⟨h409, hin⟩ := TreeServer.post_refused hr hpost' hparentIn hrefused
    -- the read that found the path missing, and the exchanges after it
    rw [← hpre] at hg
    obtain ⟨before, between, rfl⟩ := List.append_of_mem (mem_runOf.mp hg)
    have hsplit := hans₁
    rw [List.map_append, List.map_cons] at hsplit hdel
    obtain ⟨y, hy, hcreates⟩ := hsplit.created_after_read
      (fun y hy => hdel y (List.mem_append_right _ (List.mem_cons_of_mem _ hy))) hmiss hin
    obtain ⟨⟨j, y⟩, hj, rfl⟩ := List.mem_map.mp hy
    refine ⟨before, between, post, g, x, by rw [htrace, List.append_assoc, List.cons_append], hpost,
      hmiss, ⟨j, y, ?_, hj, hcreates⟩, hpost', h409, s₁, hans₁, hin⟩
    -- the run's own earlier creates went to shorter paths
    rintro rfl
    have hy' : y ∈ init := by
      rw [← hpre, runOf_append, runOf_cons_self]
      exact List.mem_append_right _ (List.mem_cons_of_mem _ (mem_runOf.mpr hj))
    have hlt := hdisc.shorter hpost' hy' hcreates.2.1
    rw [hcreates.1] at hlt
    exact Nat.lt_irrefl _ hlt

/-- **The run that won a race against a failed run, if it failed too,
failed deeper.** Its create that won came before its own last exchange,
a refused create, and its creates go ever deeper. -/
theorem deeper (hroot : joinPath base ∈ s.repo.nodes) {i : Fin n}
    (hfail : statuses i ≠ Status.ok) :
    ∃ j, statuses j ≠ Status.ok → lastDepth trace i < lastDepth trace j := by
  obtain ⟨before, between, after, read, create, htrace, hafter, -, ⟨j, won, -, hwon, hcreates⟩,
    -, -, -⟩ := h.lostRace hitems hbase hplain hroot hfail
  refine ⟨j, fun hfail' => ?_⟩
  obtain ⟨before', between', after', read', create', htrace', hafter', -, -, hpost', h409', -⟩ :=
    h.lostRace hitems hbase hplain hroot hfail'
  have hi : runOf i trace = runOf i (before ++ (i, read) :: between) ++ [create] :=
    runOf_of_last (by rw [htrace, List.append_assoc, List.cons_append]) hafter
  have hj : runOf j trace = runOf j (before' ++ (j, read') :: between') ++ [create'] :=
    runOf_of_last (by rw [htrace', List.append_assoc, List.cons_append]) hafter'
  rw [lastDepth_of_last hi, lastDepth_of_last hj, ← hcreates.1]
  -- the create that won is an exchange of run `j` before its last, which was refused
  have hmem : won ∈ runOf j trace := mem_runOf.mpr (by rw [htrace]; simp [hwon])
  rw [hj] at hmem
  have hne : won ≠ create' := by
    rintro rfl
    obtain ⟨-, -, r, hr, hst⟩ := hcreates
    rw [h409'] at hr
    cases hr
    exact absurd hst (by decide)
  have hwon' : won ∈ runOf j (before' ++ (j, read') :: between') := by
    rcases List.mem_append.mp hmem with hmem | hmem
    · exact hmem
    · exact (hne (List.mem_singleton.mp hmem)).elim
  have hdisc := h.disciplined hitems hbase hplain hroot j
  rw [hj] at hdisc
  exact hdisc.shorter hpost' hwon' hcreates.2.1

/-- **Some run succeeds.** Were every run to fail, the one whose last
request goes deepest would have lost a race to a run that failed deeper
still. -/
theorem some_ok (hroot : joinPath base ∈ s.repo.nodes) (hn : 0 < n) :
    ∃ i, statuses i = Status.ok := by
  by_contra hsome
  have hall : ∀ i, statuses i ≠ Status.ok := not_exists.mp hsome
  obtain ⟨i, -, hmax⟩ :=
    Finset.exists_max_image Finset.univ (lastDepth trace) ⟨⟨0, hn⟩, Finset.mem_univ _⟩
  obtain ⟨j, hdeeper⟩ := h.deeper hitems hbase hplain hroot (hall i)
  exact absurd (hmax j (Finset.mem_univ j)) (not_le.mpr (hdeeper (hall j)))

end

/-- A plain operation run alone against the tree server is an interleaving
of one run. -/
theorem single {ws : Workspace} {files : LocalFiles} {op : Operation} {items : Url}
    {base : List String} {s : TreeServer} {status : Status} (hitems : ws.itemUrl "" [] = .ok items)
    (hbase : items.path = .segments base) (hplain : op.Plain files) (sent : List Sent)
    (hrun : (run (op.session TreeServer.transport ws) ⟨s, files, sent⟩).1 = .ok status) :
    ∃ trace, Interleaving ws files (fun _ : Fin 1 => op) s
      (run (op.session TreeServer.transport ws) ⟨s, files, sent⟩).2.remote trace fun _ => status := by
  obtain ⟨xs, htalk⟩ := Operation.talked TreeServer.transport hitems hbase hplain ⟨s, files, sent⟩ rfl
  have hrunOf : runOf 0 (xs.map fun x => ((0 : Fin 1), x)) = xs := by
    simp [runOf, List.filterMap_map]
  refine ⟨xs.map fun x => (0, x), ?_, fun i => ?_⟩
  · simpa [List.map_map, Function.comp_def] using htalk.answers
  · rw [Subsingleton.elim i 0, hrunOf]
    exact ⟨TreeServer, TreeServer.transport, ⟨s, files, sent⟩, rfl, htalk, hrun⟩

end Interleaving

/-- **Publishes and marks run concurrently against a tree server settle.**
The store holds the items root and is closed under parents;
every operation has a plain path and, to publish, a regular local file with
a plain name. Let the runs' requests reach the server interleaved in any
order; the tree server never fails to answer and no run deletes. Then some
run succeeds; every run that fails lost a race, its last exchange a create
refused with `409` because another run had created the path after it read
the path as missing; the nodes stay closed under parents; and every one of
the operations, run again alone afterwards, succeeds. -/
theorem interleaved_runs_settle {n : Nat} {ws : Workspace} {items : Url} {files : LocalFiles}
    {ops : Fin n → Operation} {s s' : TreeServer} {trace : List (Fin n × Exchange)}
    {statuses : Fin n → Status} (hitems : ws.itemUrl "" [] = .ok items)
    (hroot : items.pathText ∈ s.repo.nodes) (hclosed : ParentClosed items.pathText s.repo.nodes)
    (hplain : ∀ i, (ops i).Plain files) (h : Interleaving ws files ops s s' trace statuses) :
    (0 < n → ∃ i, statuses i = Status.ok) ∧
      (∀ i, statuses i ≠ Status.ok → LostRace ws.server s trace i) ∧
      ParentClosed items.pathText s'.repo.nodes ∧
      ∀ i sent, (run ((ops i).session TreeServer.transport ws) ⟨s', files, sent⟩).1 =
        .ok Status.ok := by
  obtain ⟨base, hbase, hI⟩ := itemUrl_root_segments hitems
  rw [hI] at hroot hclosed
  have hdel := h.noDelete hitems hbase hplain
  -- the state after the trace holds the items root and is closed
  have hroot' : items.pathText ∈ s'.repo.nodes := by
    rw [hI]
    exact h.answers.nodes_mono hdel hroot
  have hclosed' : ParentClosed items.pathText s'.repo.nodes := by
    rw [hI]
    exact h.answers.closed hdel hclosed
  exact ⟨h.some_ok hitems hbase hplain hroot, fun i => h.lostRace hitems hbase hplain hroot,
    hclosed', fun i sent => Operation.session_ok hitems hroot' hclosed' (hplain i) sent⟩

/-- Two marks of `/docs` race against a tree server holding only the items
root: both read the folder as missing, the first creates it, and the
second's create is refused with `409`. The first run succeeds and the
second lost the race. The second run is realised against a repository that
replays its two answers. -/
theorem two_marks_of_docs_race :
    let ws : Workspace := ⟨"w", ⟨"r", Server.new "a:/" "u" "p"⟩⟩
    let s : TreeServer := ⟨⟨[], [], ["/r/w/items"], .empty, false⟩, ⟨rfl, rfl⟩⟩
    ∃ s' trace statuses,
      Interleaving ws LocalFiles.empty (fun _ : Fin 2 => Operation.mark "/docs" none none) s s'
        trace statuses ∧
      statuses 1 ≠ Status.ok ∧ LostRace ws.server s trace 1 ∧ ∃ i, statuses i = Status.ok := by
  intro ws s
  let items : Url := ⟨"a", "", none, none, none, .segments ["r", "w", "items"], none, none⟩
  have hitems : ws.itemUrl "" [] = .ok items := by decide +kernel
  have hpath : items.pathText = "/r/w/items" := by decide
  have hroot : items.pathText ∈ s.repo.nodes := by
    rw [hpath]
    exact List.mem_singleton_self _
  have hclosed : ParentClosed items.pathText s.repo.nodes := by
    intro q hq hne
    exact (hne (by rw [hpath]; exact List.mem_singleton.mp hq)).elim
  have htrim : trimTrailingSlash "/docs" = "/docs" := by decide +kernel
  have hplain : ∀ _ : Fin 2, (Operation.mark "/docs" none none).Plain LocalFiles.empty := fun _ =>
    ⟨["docs"], by rw [htrim]; exact segmentsOf_of_joinPath (by decide) (by decide), by decide⟩
  -- the folder, the create of the marked folder, and the second run's status
  let u : Url := ⟨"a", "", none, none, none, .segments ["r", "w", "items", "docs"], none, none⟩
  let post := Session.folderWrite .post u (Text.utf8 (FolderNode.markedJson none none).render)
  let lost : Status := Status.error "failed to mark /docs in workspace r/w as a publish area"
    (.remoteOperation "create" 409 "could not create folder /docs in workspace r/w: ")
  let trace : List (Fin 2 × Exchange) :=
    [(0, ⟨Request.get u, .ok ⟨404, ""⟩⟩), (1, ⟨Request.get u, .ok ⟨404, ""⟩⟩),
      (0, ⟨post, .ok ⟨statusCreated, ""⟩⟩), (1, ⟨post, .ok ⟨409, ""⟩⟩)]
  let statuses : Fin 2 → Status := fun i => if i = 0 then Status.ok else lost
  have hmissing : u.pathText ∉ s.repo.nodes := by decide
  have hparent : parentPath u.pathText ∈ s.repo.nodes := by decide +kernel
  -- the tree server answers the whole trace, creating the folder once
  have hans : Answers TreeServer.transport ws.server s (trace.map Prod.snd)
      (s.create u.pathText (post.body.getD [])) :=
    .cons (TreeServer.respond_get_missing _ hmissing)
      (.cons (TreeServer.respond_get_missing _ hmissing)
        (.cons (TreeServer.respond_post_fresh _ rfl hmissing hparent)
          (.cons (TreeServer.respond_post_present _ rfl (by simp [mem_addPath]))
            (.nil _))))
  -- each run's exchanges, in the order of the trace
  let xs₀ : List Exchange := [⟨Request.get u, .ok ⟨404, ""⟩⟩, ⟨post, .ok ⟨statusCreated, ""⟩⟩]
  let xs₁ : List Exchange := [⟨Request.get u, .ok ⟨404, ""⟩⟩, ⟨post, .ok ⟨409, ""⟩⟩]
  have hxs₀ : runOf 0 trace = xs₀ := rfl
  have hxs₁ : runOf 1 trace = xs₁ := rfl
  -- the first run alone against the tree server
  have hans₀ : Answers TreeServer.transport ws.server s xs₀ (s.create u.pathText (post.body.getD [])) :=
    .cons (TreeServer.respond_get_missing _ hmissing)
      (.cons (TreeServer.respond_post_fresh _ rfl hmissing hparent) (.nil _))
  have hrun₀ : (Operation.mark "/docs" none none).Runs ws LocalFiles.empty xs₀ (statuses 0) :=
    Operation.Runs.of_sent TreeServer.transport hitems rfl ⟨s, .empty, []⟩ (hplain 0) hans₀
      (by decide +kernel) (by decide +kernel)
  -- the second run against a repository that replays its answers
  let m : MemoryRepository := ⟨[.answer ⟨404, ""⟩, .answer ⟨409, ""⟩], [], [], .empty, false⟩
  have hans₁ : Answers MemoryRepository.transport ws.server m xs₁ ⟨[], [], [], .empty, false⟩ :=
    .cons rfl (.cons rfl (.nil _))
  have hrun₁ : (Operation.mark "/docs" none none).Runs ws LocalFiles.empty xs₁ (statuses 1) :=
    Operation.Runs.of_sent MemoryRepository.transport hitems rfl ⟨m, .empty, []⟩ (hplain 1) hans₁
      (by decide +kernel) (by decide +kernel)
  have h : Interleaving ws LocalFiles.empty (fun _ => Operation.mark "/docs" none none) s
      (s.create u.pathText (post.body.getD [])) trace statuses := by
    refine ⟨hans, fun i => ?_⟩
    obtain ⟨_ | _ | k, hk⟩ := i
    · exact hxs₀ ▸ hrun₀
    · exact hxs₁ ▸ hrun₁
    · omega
  have hfail : statuses 1 ≠ Status.ok := by decide
  obtain ⟨hsome, hlost, -, -⟩ := interleaved_runs_settle hitems hroot hclosed hplain h
  exact ⟨_, trace, statuses, h, hfail, hlost 1 hfail, hsome (by decide)⟩

end ContentPublish
