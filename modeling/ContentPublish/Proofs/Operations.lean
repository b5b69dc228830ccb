import ContentPublish.Proofs.ServerHistory

/-
  Operations and their runs

  The operations that write to a server: publishing a local file into a
  folder, and marking a folder as a publish area. Each reports a status
  instead of failing: `ok` when its attempt succeeded, and an error status
  carrying the failure otherwise.

  A session is a function of the answers it gets. Many runs against one
  server each see only their own answers, in the order the server gave
  them, so what a run does is described without the server. `Runs` says
  that the operation's session, answered with the answers of `xs`, makes
  exactly the requests of `xs` and reports `status`. From the patterns of
  publishing and marking, such a run never deletes; and when its answers
  agree with a store that only grows, it obeys the discipline of a run.

  Run alone against a tree server that holds the items root and is closed
  under parents, an operation on a plain path always succeeds.

  What is stated here:
    1. `Operation`, `Operation.session`, `PlainPath` and `Operation.Plain`.
    2. `reported` and `run_report` — the status an attempt is reported
       with.
    3. `Operation.Runs`, with `Runs.publishTalk` and `Runs.markTalk` — a
       run follows the pattern of its operation.
    4. `talked` and `Runs.disciplined` — a plain operation talks to the
       server; a run of it never deletes, and obeys the discipline of a run.
    5. `session_ok` — an operation run alone succeeds.
-/

namespace ContentPublish

/-- An operation a client runs against a workspace: publishing a local
file into the folder at a path, or marking the folder at a path as a
publish area. -/
inductive Operation where
  | publish (path file : String) (versioning : Bool)
  | mark (path : String) (title description : Option String)

/-- A path none of whose segments reads `..` once its tabs and line breaks
are dropped. -/
def PlainPath (path : String) : Prop :=
  ∃ segs, segmentsOf path = .ok segs ∧ ∀ s ∈ segs, Url.keptChars s ≠ ['.', '.']

namespace Operation

/-- The session of an operation. -/
def session {σ : Type} (t : Transport σ) (ws : Workspace) : Operation → Session σ Status
  | publish path file versioning => Session.publishVersioned t ws path file versioning
  | mark path title description => Session.markAsPublishArea t ws path title description

/-- The operation has a plain path and, to publish, a regular local file
whose name does not read `..` once its tabs and line breaks are dropped. -/
def Plain (files : LocalFiles) : Operation → Prop
  | publish path file _ => PlainPath path ∧
      ∃ place bytes modified name, files.stat file = .ok (place, .file bytes modified) ∧
        fileName file = .ok name ∧ Url.keptChars name ≠ ['.', '.']
  | mark path _ _ => PlainPath (trimTrailingSlash path)

end Operation

/-! ## Reporting an attempt -/

namespace Session

/-- The status an attempt is reported with. -/
def reported (message : String) : Except Error Unit → Status
  | .ok () => Status.ok
  | .error e => Status.error message e

theorem reported_eq_ok_iff {message : String} {r : Except Error Unit} :
    reported message r = Status.ok ↔ r = .ok () := by
  cases r with
  | ok u => simp [reported]
  | error e => simp [reported, Status.error, Status.ok]

/-- An attempt reported as a status leaves the world the attempt left. -/
theorem run_report {σ : Type} (x : Session σ Unit) (message : String) (w : World σ) :
    run (tryCatch (do x; return Status.ok) fun err => return Status.error message err) w =
      (.ok (reported message (run x w).1), (run x w).2) := by
  rw [run_tryCatch, run_bind]
  rcases run x w with ⟨_ | _, _⟩ <;> rfl

end Session

/-! ## Runs of an operation -/

/-- A discipline holds of every failure that implies a failure it holds of. -/
theorem Disciplined.weaken {root : String} {xs : List Exchange} {failed failed' : Prop}
    (h : Disciplined root xs failed) (himp : failed' → failed) : Disciplined root xs failed' :=
  ⟨h.noDelete, h.deepening, fun hf => h.failedLast (himp hf)⟩

namespace Operation

open Session MemoryRepository

/-- The session of `op`, answered with the answers of `xs` by some transport
from some world with the local files `files`, makes exactly the requests of
`xs` and reports `status`. -/
def Runs (ws : Workspace) (files : LocalFiles) (op : Operation) (xs : List Exchange)
    (status : Status) : Prop :=
  ∃ (σ : Type) (t : Transport σ) (w : World σ), w.files = files ∧
    Talked t ws.server w (run (op.session t ws) w).2 xs ∧ (run (op.session t ws) w).1 = .ok status

/-- A run of a publish follows `PublishTalk`, and reports `ok` exactly when
the attempt succeeded. -/
theorem Runs.publishTalk {ws : Workspace} {files : LocalFiles} {path file : String}
    {versioning : Bool} {xs : List Exchange} {status : Status} {node : FileNode} {u : Url}
    {body : List UInt8} (h : (publish path file versioning).Runs ws files xs status)
    (hnode : FileNode.new files ws path file versioning = .ok node) (hws : node.workspace = ws)
    (hurl : node.url = .ok u) (hbody : node.content files = .ok body) :
    ∃ res, PublishTalk ws path node u body xs res ∧ (status = Status.ok ↔ res = .ok ()) := by
  obtain ⟨σ, t, w, rfl, htalk, hstatus⟩ := h
  obtain ⟨ys, htalk', hpat⟩ := tryPublish_talked t w hnode hws hurl hbody
  simp only [session, publishVersioned, run_report] at htalk hstatus
  -- the run made the exchanges of the pattern, and its status reports them
  rw [htalk.unique htalk']
  obtain rfl := Except.ok.inj hstatus
  exact ⟨_, hpat, reported_eq_ok_iff⟩

/-- A run of a mark follows `MarkTalk`, and reports `ok` exactly when the
attempt succeeded. -/
theorem Runs.markTalk {ws : Workspace} {files : LocalFiles} {path : String}
    {title description : Option String} {xs : List Exchange} {status : Status} {u : Url}
    (h : (mark path title description).Runs ws files xs status)
    (hurl : ((FolderNode.new ws (trimTrailingSlash path)).markedAsPublishArea title description).url =
      .ok u) :
    ∃ res, MarkTalk ws (parentOf (trimTrailingSlash path))
        ((FolderNode.new ws (trimTrailingSlash path)).markedAsPublishArea title description) u xs res ∧
      (status = Status.ok ↔ res = .ok ()) := by
  obtain ⟨σ, t, w, -, htalk, hstatus⟩ := h
  obtain ⟨ys, htalk', hpat⟩ := tryMark_talked t w hurl
  simp only [session, markAsPublishArea, run_report] at htalk hstatus
  rw [htalk.unique htalk']
  obtain rfl := Except.ok.inj hstatus
  exact ⟨_, hpat, reported_eq_ok_iff⟩

/-- The node, URL, body and folder layout of a plain publish. -/
theorem plain_publish {files : LocalFiles} {ws : Workspace} {items : Url} {base : List String}
    {path file : String} {versioning : Bool} (hitems : ws.itemUrl "" [] = .ok items)
    (hbase : items.path = .segments base) (h : (publish path file versioning).Plain files) :
    ∃ node body segs adds a, FileNode.new files ws path file versioning = .ok node ∧
      node.workspace = ws ∧ node.url = .ok { items with path := .segments (base ++ adds ++ [a]) } ∧
      node.content files = .ok body ∧ FolderLayout ws path items base segs adds ∧ '/' ∉ a.toList := by
  obtain ⟨⟨segs, hsegs, hplain⟩, place, bytes, modified, name, hstat, hname, hplainName⟩ := h
  obtain ⟨hdot, hdotdot⟩ := fileName_plain hname
  exact ⟨_, _, segs, _, _, FileNode.new_of_stat ws path versioning hstat hname, rfl,
    fileUrl_of_plain hitems hbase hsegs hplain hdot hdotdot hplainName, FileNode.content_of_stat hstat,
    FolderLayout.of_plain hitems hbase hsegs hplain, Url.slash_not_mem_addedSegment _ name⟩

/-- The layouts of a plain mark's folder and of its parent, and the URL of
the marked folder. -/
theorem plain_mark {files : LocalFiles} {ws : Workspace} {items : Url} {base : List String}
    {path : String} {title description : Option String} (hitems : ws.itemUrl "" [] = .ok items)
    (hbase : items.path = .segments base) (h : (mark path title description).Plain files) :
    ∃ parentSegs segs adds more,
      FolderLayout ws (parentOf (trimTrailingSlash path)) items base parentSegs adds ∧
      FolderLayout ws (trimTrailingSlash path) items base segs (adds ++ more) ∧ more.length ≤ 1 ∧
      ((FolderNode.new ws (trimTrailingSlash path)).markedAsPublishArea title description).url =
        .ok { items with path := .segments (base ++ (adds ++ more)) } := by
  obtain ⟨segs, hsegs, hplain⟩ := h
  obtain ⟨parentSegs, adds, more, hparent, hfolder, hmore⟩ :=
    FolderLayout.of_parentOf hitems hbase hsegs hplain
  refine ⟨parentSegs, segs, adds, more, hparent, hfolder, hmore, ?_⟩
  rw [FolderNode.url_markedAsPublishArea, folderUrl_new]
  exact hfolder.folder

/-- A plain operation talks to the server, over every transport. -/
theorem talked {σ : Type} (t : Transport σ) {ws : Workspace} {files : LocalFiles} {op : Operation}
    {items : Url} {base : List String} (hitems : ws.itemUrl "" [] = .ok items)
    (hbase : items.path = .segments base) (hplain : op.Plain files) (w : World σ)
    (hfiles : w.files = files) :
    ∃ xs, Talked t ws.server w (run (op.session t ws) w).2 xs := by
  subst hfiles
  cases op with
  | publish path file versioning =>
    obtain ⟨node, body, segs, adds, a, hnode, hws, hurl, hbody, -, -⟩ := plain_publish hitems hbase hplain
    obtain ⟨xs, htalk, -⟩ := tryPublish_talked t w hnode hws hurl hbody
    exact ⟨xs, by simpa only [session, publishVersioned, run_report] using htalk⟩
  | mark path title description =>
    obtain ⟨_, _, _, _, _, _, _, hurl⟩ := plain_mark hitems hbase hplain
    obtain ⟨xs, htalk, -⟩ := tryMark_talked t w hurl
    exact ⟨xs, by simpa only [session, markAsPublishArea, run_report] using htalk⟩

/-- **A run of a plain operation never deletes, and obeys the discipline of
a run** when its answers agree with a store that only grows: its creates go
ever deeper, and when it reports a failure it failed at its last exchange. -/
theorem Runs.disciplined {ws : Workspace} {files : LocalFiles} {op : Operation}
    {xs : List Exchange} {status : Status} {items : Url} {base : List String}
    (hitems : ws.itemUrl "" [] = .ok items) (hbase : items.path = .segments base)
    (hplain : op.Plain files) (h : op.Runs ws files xs status) :
    (∀ x ∈ xs, x.request.method ≠ .delete) ∧
      (Consistent (joinPath base) xs → Disciplined (joinPath base) xs (status ≠ Status.ok)) := by
  cases op with
  | publish path file versioning =>
    obtain ⟨node, body, segs, adds, a, hnode, hws, hurl, hbody, hlay, ha⟩ :=
      plain_publish hitems hbase hplain
    obtain ⟨res, hpat, hstatus⟩ := h.publishTalk hnode hws hurl hbody
    have hdisc := hpat.disciplined hlay rfl ha
    exact ⟨hdisc.noDelete, fun _ => hdisc.weaken fun hs hres => hs (hstatus.mpr hres)⟩
  | mark path title description =>
    obtain ⟨parentSegs, segs, adds, more, hparent, hfolder, hmore, hurl⟩ :=
      plain_mark hitems hbase hplain
    obtain ⟨res, hpat, hstatus⟩ := h.markTalk hurl
    have hslash : ∀ b ∈ more, '/' ∉ b.toList := fun b hb => hfolder.slash b (List.mem_append_right _ hb)
    refine ⟨hpat.noDelete, fun hcons => ?_⟩
    exact (hpat.disciplined hparent rfl hmore hslash hcons).weaken fun hs hres => hs (hstatus.mpr hres)

/-- A plain operation run from `w` made the exchanges `ys` when it sent
exactly their requests and the transport gives their answers: the
transport is deterministic, so the requests fix the answers. -/
theorem Runs.of_sent {σ : Type} (t : Transport σ) {ws : Workspace} {op : Operation} {items : Url}
    {base : List String} (hitems : ws.itemUrl "" [] = .ok items) (hbase : items.path = .segments base)
    (w : World σ) (hplain : op.Plain w.files) {ys : List Exchange} {s' : σ}
    (hans : Answers t ws.server w.remote ys s')
    (hsent : (run (op.session t ws) w).2.sent = w.sent ++ ys.map fun y => Sent.mk ws.server.user y.request)
    {status : Status} (hstatus : (run (op.session t ws) w).1 = .ok status) :
    op.Runs ws w.files ys status := by
  obtain ⟨xs, htalk⟩ := talked t hitems hbase hplain w rfl
  have hreq : xs.map (·.request) = ys.map (·.request) := by
    have hlog := List.append_cancel_left (htalk.sent.symm.trans hsent)
    simpa [List.map_map, Function.comp_def] using congrArg (List.map Sent.request) hlog
  obtain ⟨rfl, -⟩ := htalk.answers.unique hans hreq
  exact ⟨σ, t, w, rfl, htalk, hstatus⟩

/-- **A plain operation run alone against a tree server succeeds**, from any
store that holds the items root and is closed under parents. -/
theorem session_ok {ws : Workspace} {items : Url} {s : TreeServer} {files : LocalFiles}
    {op : Operation} (hitems : ws.itemUrl "" [] = .ok items)
    (hroot : items.pathText ∈ s.repo.nodes) (hclosed : ParentClosed items.pathText s.repo.nodes)
    (hplain : op.Plain files) (sent : List Sent) :
    (run (op.session TreeServer.transport ws) ⟨s, files, sent⟩).1 = .ok Status.ok := by
  obtain ⟨base, hbase, hI⟩ := itemUrl_root_segments hitems
  rw [hI] at hroot hclosed
  cases op with
  | publish path file versioning =>
    obtain ⟨node, body, segs, adds, a, hnode, hws, hurl, hbody, hlay, ha⟩ :=
      plain_publish hitems hbase hplain
    obtain ⟨w', hrun, -⟩ := tryPublish_publishes ⟨s, files, sent⟩ hroot hclosed hlay ha
      hnode hws hurl hbody
    rw [session, run_publishVersioned_of_ok _ hrun]
  | mark path title description =>
    obtain ⟨parentSegs, segs, adds, more, hparent, hfolder, hmore, -⟩ :=
      plain_mark hitems hbase hplain
    obtain ⟨w', -, hrun, -⟩ := tryMark_marks ⟨s, files, sent⟩ title description hroot hclosed
      hparent hfolder hmore
    rw [session, run_markAsPublishArea_of_ok _ hrun]

end Operation

end ContentPublish
