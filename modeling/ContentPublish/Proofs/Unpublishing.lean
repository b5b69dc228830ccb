import ContentPublish.Proofs.Publishing
import ContentPublish.Proofs.Validation

/-
  Unpublishing a file from a tree server

  A tree server may refuse deletes: it then answers every delete with `500`
  and changes nothing. Otherwise a delete of a node that is there answers
  `204` and drops the node with its body, and a delete of a node that is not
  there answers `404`.

  Unpublishing deletes the node at the file's URL and reads the answer. A
  `204` means the file is gone. Any other answer is checked by reading the
  node again: a node that is not there means the file was never published,
  which is reported as information, and a node still there is an error of
  the `unpublish` operation with the status of the delete. So the outcome
  depends only on whether the node is there and whether deletes are
  honoured, and unpublishing a file that was never published is never an
  error.

  What is stated here:
    1. The tree server's answers to a delete.
    2. `tryUnpublish_removed` and `tryUnpublish_kept` — the runs of
       unpublishing, when the delete drops the node and when it does not.
    3. `unpublish_outcomes` — the outcome, over every state of the server.
-/

namespace ContentPublish

/-- The item URL of every path with segments builds once the items root
does: only the base URL can fail. -/
theorem itemUrl_ok_of_root {ws : Workspace} {items : Url} (h : ws.itemUrl "" [] = .ok items)
    {path : String} {segs : List String} (hsegs : segmentsOf path = .ok segs)
    (trailing : List String) : ∃ u, ws.itemUrl path trailing = .ok u := by
  obtain ⟨u, ss, hparse, hpath, -⟩ := itemUrl_root h
  simp [Workspace.itemUrl, hsegs, joinSegments, hparse, Url.pushSegments, hpath]

namespace TreeServer

theorem mem_erase {s : TreeServer} {path q : String} :
    q ∈ (s.erase path).repo.nodes ↔ q ∈ s.repo.nodes ∧ q ≠ path := by
  simp

/-- A server that refuses deletes answers `500` and changes nothing. -/
theorem respond_delete_refused {s : TreeServer} (server : Server) (u : Url)
    (hflag : s.repo.refuseDelete = true) :
    respond server (Request.delete u) s = (.ok ⟨500, ""⟩, s) :=
  respond_of_store (by simp [MemoryRepository.store, Request.delete, Request.new, hflag])

/-- A delete of a node that is there, when deletes are honoured, answers
`204` and drops the node with its body. -/
theorem respond_delete_present {s : TreeServer} (server : Server) {u : Url}
    (hflag : s.repo.refuseDelete = false) (hin : u.pathText ∈ s.repo.nodes) :
    respond server (Request.delete u) s = (.ok ⟨statusNoContent, ""⟩, s.erase u.pathText) :=
  respond_of_store (by simp [MemoryRepository.store, Request.delete, Request.new, hflag, hin,
    statusNoContent])

/-- A delete of a node that is not there, when deletes are honoured,
answers `404` and changes nothing. -/
theorem respond_delete_missing {s : TreeServer} (server : Server) {u : Url}
    (hflag : s.repo.refuseDelete = false) (hnot : u.pathText ∉ s.repo.nodes) :
    respond server (Request.delete u) s = (.ok ⟨404, ""⟩, s) :=
  respond_of_store (by simp [MemoryRepository.store, Request.delete, Request.new, hflag, hnot])

/-- A delete that does not drop the node answers something other than
`204` and changes nothing: the node is not there, or deletes are refused. -/
theorem respond_delete_kept {s : TreeServer} (server : Server) {u : Url}
    (h : u.pathText ∉ s.repo.nodes ∨ s.repo.refuseDelete = true) :
    ∃ status, status ≠ statusNoContent ∧
      respond server (Request.delete u) s = (.ok ⟨status, ""⟩, s) ∧
      (u.pathText ∈ s.repo.nodes → status = 500) := by
  cases hflag : s.repo.refuseDelete with
  | true => exact ⟨500, by decide, respond_delete_refused server u hflag, fun _ => rfl⟩
  | false =>
    have hnot : u.pathText ∉ s.repo.nodes := h.resolve_right (by simp [hflag])
    exact ⟨404, by decide, respond_delete_missing server hflag hnot, fun hin => (hnot hin).elim⟩

end TreeServer

namespace Session

variable {σ : Type} (t : Transport σ)

/-- A delete answered with a response: its status. -/
theorem run_deleteAt (server : Server) {url : Url} {w : World σ} {resp : Response} {s' : σ}
    (hr : t.respond server (Request.delete url) w.remote = (.ok resp, s')) :
    run (deleteAt t server url) w =
      (.ok resp.status,
        { w with remote := s', sent := w.sent ++ [Sent.mk server.user (Request.delete url)] }) := by
  simp only [deleteAt, run_bind, run_send, hr, run_pure]

/-- **Unpublishing a file that is there, from a server that honours
deletes**: one delete, answered `204`, which drops the node and its body. -/
theorem tryUnpublish_removed {ws : Workspace} {path file name : String} {u : Url}
    {w : World TreeServer} (hname : fileName file = .ok name) (hurl : ws.fileUrl path name = .ok u)
    (hflag : w.remote.repo.refuseDelete = false) (hin : u.pathText ∈ w.remote.repo.nodes) :
    run (tryUnpublish TreeServer.transport ws path file) w =
      (.ok Status.ok, { w with
        remote := w.remote.erase u.pathText
        sent := w.sent ++ [Sent.mk ws.server.user (Request.delete u)] }) := by
  have hdel := run_deleteAt TreeServer.transport ws.server
    (TreeServer.respond_delete_present ws.server hflag hin)
  simp only [tryUnpublish, hname, hurl, run_bind, run_lift, hdel, statusNoContent,
    beq_self_eq_true, if_true, run_pure]

/-- **Unpublishing a file that is not there, or that a server refusing
deletes keeps**: the delete is answered with another status and changes
nothing, and the node is read again. Then unpublishing reports that the
file was never published when it is not there, and refuses with the status
of the delete when it is. -/
theorem tryUnpublish_kept {ws : Workspace} {path file name : String} {u : Url}
    {w : World TreeServer} (hname : fileName file = .ok name) (hurl : ws.fileUrl path name = .ok u)
    (h : u.pathText ∉ w.remote.repo.nodes ∨ w.remote.repo.refuseDelete = true) :
    ∃ status, (u.pathText ∈ w.remote.repo.nodes → status = 500) ∧
      run (tryUnpublish TreeServer.transport ws path file) w =
        (if u.pathText ∈ w.remote.repo.nodes then
            .error (.remoteOperation "unpublish" status (u.serialize ++ " still exists after delete"))
          else
            .ok (Status.info
              (file ++ " was never published to " ++ path ++ " in workspace " ++ ws.display)),
          { w with sent := w.sent ++ [Sent.mk ws.server.user (Request.delete u),
            Sent.mk ws.server.user (Request.get u)] }) := by
  obtain ⟨status, hne, hdelete, h500⟩ := TreeServer.respond_delete_kept ws.server h
  have hdel := run_deleteAt TreeServer.transport ws.server hdelete
  refine ⟨status, h500, ?_⟩
  have hne' : (status == statusNoContent) = false := by simpa using hne
  -- the node is read again, from the unchanged server
  by_cases hin : u.pathText ∈ w.remote.repo.nodes
  · have hread : TreeServer.transport.respond ws.server (Request.get u) w.remote =
        (.ok ⟨statusOk, ""⟩, w.remote) :=
      TreeServer.respond_get_present ws.server hin
    have hget := run_pathExists TreeServer.transport
      (w := { w with sent := w.sent ++ [Sent.mk ws.server.user (Request.delete u)] }) hread
    simp only [tryUnpublish, hname, hurl, run_bind, run_lift, hdel, hne', hget, hin,
      beq_self_eq_true, Bool.not_true, Bool.false_eq_true, if_false, if_true, run_throw]
    simp [List.append_assoc]
  · have hread : TreeServer.transport.respond ws.server (Request.get u) w.remote =
        (.ok ⟨404, ""⟩, w.remote) :=
      TreeServer.respond_get_missing ws.server hin
    have hget := run_pathExists TreeServer.transport
      (w := { w with sent := w.sent ++ [Sent.mk ws.server.user (Request.delete u)] }) hread
    simp only [tryUnpublish, hname, hurl, run_bind, run_lift, hdel, hne', hget, hin,
      Bool.false_eq_true, if_false]
    simp [List.append_assoc, statusOk]

/-- An unpublish whose attempt ended with a status reports it. -/
theorem run_unpublish_of_ok {ws : Workspace} {path file : String} {w w' : World σ}
    {status : Status} (h : run (tryUnpublish t ws path file) w = (.ok status, w')) :
    run (unpublish t ws path file) w = (.ok status, w') := by
  rw [unpublish, run_tryCatch, h]

/-- An unpublish whose attempt failed reports the failure as its cause. -/
theorem run_unpublish_of_error {ws : Workspace} {path file : String} {w w' : World σ}
    {e : Error} (h : run (tryUnpublish t ws path file) w = (.error e, w')) :
    run (unpublish t ws path file) w =
      (.ok (Status.error
        ("failed to unpublish " ++ file ++ " from " ++ path ++ " in workspace " ++ ws.display) e), w') := by
  rw [unpublish, run_tryCatch, h]
  rfl

/-- **Unpublishing a file from a tree server.** Take a workspace whose items
root has a URL, a folder path with segments, and a local path with a usable
name; the local file need not exist. From every state of the server,
unpublishing deletes the node at the file's URL `u`, and:
  * when the node is there and deletes are honoured, it succeeds and drops
    exactly that node and its body;
  * when the node is not there, whatever the flag, it reports with no cause
    that the file was never published, and changes nothing;
  * when the node is there and deletes are refused, it fails with the
    `unpublish` operation and the status `500`, and changes nothing.
So it never reports an error for a file that was never published. -/
theorem unpublish_outcomes {ws : Workspace} {items : Url} {path file name : String}
    {segs : List String} (hitems : ws.itemUrl "" [] = .ok items)
    (hsegs : segmentsOf path = .ok segs) (hname : fileName file = .ok name)
    (s : TreeServer) (files : LocalFiles) (sent : List Sent) :
    let r := run (unpublish TreeServer.transport ws path file) ⟨s, files, sent⟩
    ∃ u, ws.fileUrl path name = .ok u ∧
      (u.pathText ∈ s.repo.nodes → s.repo.refuseDelete = false →
        r.1 = .ok Status.ok ∧ r.2.remote = s.erase u.pathText ∧
        (∀ q, q ∈ r.2.remote.repo.nodes ↔ q ∈ s.repo.nodes ∧ q ≠ u.pathText) ∧
        ∀ q, r.2.remote.repo.bodyOf q = if q = u.pathText then none else s.repo.bodyOf q) ∧
      (u.pathText ∉ s.repo.nodes →
        r.1 = .ok (Status.info
          (file ++ " was never published to " ++ path ++ " in workspace " ++ ws.display)) ∧
        r.2.remote = s) ∧
      (u.pathText ∈ s.repo.nodes → s.repo.refuseDelete = true →
        r.1 = .ok (Status.error
          ("failed to unpublish " ++ file ++ " from " ++ path ++ " in workspace " ++ ws.display)
          (.remoteOperation "unpublish" 500 (u.serialize ++ " still exists after delete"))) ∧
        r.2.remote = s) ∧
      ∀ status, r.1 = .ok status → status.severity = .error → u.pathText ∈ s.repo.nodes := by
  intro r
  obtain ⟨u, hurl⟩ := itemUrl_ok_of_root hitems hsegs [name]
  have hkept := @tryUnpublish_kept ws path file name u ⟨s, files, sent⟩ hname hurl
  -- a node that is not there is reported, whatever the flag
  have hmissing : u.pathText ∉ s.repo.nodes →
      r.1 = .ok (Status.info
        (file ++ " was never published to " ++ path ++ " in workspace " ++ ws.display)) ∧
      r.2.remote = s := by
    intro hnot
    obtain ⟨status, -, hrun⟩ := hkept (.inl hnot)
    simp only [hnot, if_false] at hrun
    rw [show r = _ from run_unpublish_of_ok TreeServer.transport hrun]
    exact ⟨rfl, rfl⟩
  refine ⟨u, hurl, fun hin hflag => ?_, hmissing, fun hin hflag => ?_, ?_⟩
  · -- the node is there and deletes are honoured
    have hrun := run_unpublish_of_ok TreeServer.transport
      (@tryUnpublish_removed ws path file name u ⟨s, files, sent⟩ hname hurl hflag hin)
    rw [show r = _ from hrun]
    exact ⟨rfl, rfl, fun q => TreeServer.mem_erase, MemoryRepository.bodyOf_erase s.repo u.pathText⟩
  · -- the node is there and deletes are refused
    obtain ⟨status, h500, hrun⟩ := hkept (.inr hflag)
    simp only [hin, if_true, h500 hin] at hrun
    rw [show r = _ from run_unpublish_of_error TreeServer.transport hrun]
    exact ⟨rfl, rfl⟩
  · -- an error needs the node to be there
    intro status hr herr
    by_contra hnot
    rw [(hmissing hnot).1, Except.ok.injEq] at hr
    rw [← hr] at herr
    cases herr

/-- Unpublishing `b` from `/docs` on a server that refuses deletes, where
it was never published, reports that it was never published. -/
theorem unpublish_never_published_file :
    let ws : Workspace := ⟨"w", ⟨"r", Server.new "a:/" "u" "p"⟩⟩
    let s : TreeServer := ⟨⟨[], [], ["/r/w/items"], .empty, true⟩, ⟨rfl, rfl⟩⟩
    (run (unpublish TreeServer.transport ws "/docs" "b") ⟨s, LocalFiles.empty, []⟩).1 =
      .ok (Status.info "b was never published to /docs in workspace r/w") := by
  intro ws s
  have hitems : ws.itemUrl "" [] =
      .ok ⟨"a", "", none, none, none, .segments ["r", "w", "items"], none, none⟩ := by
    decide +kernel
  have hsegs : segmentsOf "/docs" = .ok ["docs"] :=
    segmentsOf_of_joinPath (by decide) (by decide)
  have hsplit : "b".splitOn "/" = ["b"] := by
    rw [String.splitOn, if_neg (by decide), String.splitOnAux, if_neg (by decide), if_neg (by decide),
      String.splitOnAux, if_pos (by decide)]
    decide
  have hname : fileName "b" = .ok "b" := by simp [fileName, fileName?, hsplit]
  have hfile : ws.fileUrl "/docs" "b" =
      .ok ⟨"a", "", none, none, none, .segments ["r", "w", "items", "docs", "b"], none, none⟩ := by
    decide +kernel
  obtain ⟨u, hurl, -, hmissing, -, -⟩ := unpublish_outcomes hitems hsegs hname s LocalFiles.empty []
  rw [hfile, Except.ok.injEq] at hurl
  subst hurl
  exact (hmissing (by decide)).1

end Session

end ContentPublish
