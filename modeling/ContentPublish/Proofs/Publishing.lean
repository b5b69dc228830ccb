import ContentPublish.Proofs.NodeStore
import ContentPublish.Client

/-
  Publishing a file to a tree server

  A tree server is the node store of a repository that also keeps the body
  of each node: a create answered `201` or an update answered `200` keeps
  the request's body at the node's path, and a delete answered `204` drops
  it. Its answers and its nodes are the store's, so what is known of making
  a folder exist against the store carries over.

  Publishing a local file reads the file's URL first. A file already there
  is updated in place: one read and one update, with the file's body. A file
  not there has its folder made to exist and is then created. From a store
  closed under parents that holds the items root, and for a folder path and
  a file name none of whose segments reads `..` once its tabs and line
  breaks are dropped, publishing succeeds, the store gains the prefixes of
  the folder and the file, the file's body is kept at its path, and
  publishing the unchanged file again changes nothing.

  What is stated here:
    1. `TreeServer`, `TreeServer.respond` and `respond_store` — the tree
       server.
    2. `Answers.toRepo` — the exchanges of a tree server are those of its
       repository.
    3. `FileNode.new_of_stat`, `fileName_plain`, `content_of_stat` and
       `fileUrl_of_plain` — the node of a regular file and its URL.
    4. `Published` — what publishing leaves behind; `tryPublish_present`,
       `tryPublish_absent` and `tryPublish_publishes` — publishing a file
       that is there already, one that is not, and either.
    5. `publishVersioned_publishes_file` — publishing, twice.
-/

namespace ContentPublish

/-! ## The tree server -/

namespace MemoryRepository

/-- The store changes only the nodes and the bodies, so a repository that
answers alone keeps answering alone. -/
theorem storeOnly_store {m : MemoryRepository} (hm : m.StoreOnly) (method : Method)
    (path : String) (body : List UInt8) : (m.store method path body).2.StoreOnly := by
  obtain ⟨hscript, hroutes⟩ := hm
  cases method with
  | get => exact ⟨hscript, hroutes⟩
  | put =>
    simp only [store]
    split <;> exact ⟨hscript, hroutes⟩
  | post =>
    simp only [store]
    split <;> exact ⟨hscript, hroutes⟩
  | delete =>
    simp only [store]
    split
    · exact ⟨hscript, hroutes⟩
    · split <;> exact ⟨hscript, hroutes⟩

theorem storeOnly_respond {m : MemoryRepository} (hm : m.StoreOnly) (server : Server)
    (request : Request) : (m.respond server request).2.StoreOnly := by
  rw [respond_storeOnly hm]
  exact storeOnly_store hm _ _ _

end MemoryRepository

/-- A tree server: the in-memory repository when it answers every request
from its node store, with no scripted reply and no route. -/
@[ext] structure TreeServer where
  repo : MemoryRepository
  storeOnly : repo.StoreOnly

namespace TreeServer

/-- The repository's reply; after it the repository still answers alone. -/
def respond (server : Server) (request : Request) (s : TreeServer) :
    Except Error Response × TreeServer :=
  ((s.repo.respond server request).1,
    ⟨(s.repo.respond server request).2,
      MemoryRepository.storeOnly_respond s.storeOnly server request⟩)

/-- The tree server as a transport. -/
def transport : Transport TreeServer := ⟨respond⟩

/-- The tree server with a node added at a path, holding `body`. -/
def create (s : TreeServer) (path : String) (body : List UInt8) : TreeServer :=
  ⟨s.repo.create path body, s.storeOnly⟩

/-- The tree server with `body` written at a path. -/
def write (s : TreeServer) (path : String) (body : List UInt8) : TreeServer :=
  ⟨s.repo.write path body, s.storeOnly⟩

/-- The tree server without the node at a path, and without its body. -/
def erase (s : TreeServer) (path : String) : TreeServer :=
  ⟨s.repo.erase path, s.storeOnly⟩

@[simp] theorem create_repo (s : TreeServer) (path : String) (body : List UInt8) :
    (s.create path body).repo = s.repo.create path body := rfl

@[simp] theorem write_repo (s : TreeServer) (path : String) (body : List UInt8) :
    (s.write path body).repo = s.repo.write path body := rfl

@[simp] theorem erase_repo (s : TreeServer) (path : String) : (s.erase path).repo = s.repo.erase path :=
  rfl

/-- **The tree server answers as its store does.** -/
theorem respond_store (server : Server) (request : Request) (s : TreeServer) :
    (respond server request s).1 =
        .ok ⟨(s.repo.store request.method request.url.pathText (request.body.getD [])).1, ""⟩ ∧
      (respond server request s).2.repo =
        (s.repo.store request.method request.url.pathText (request.body.getD [])).2 := by
  simp [respond, MemoryRepository.respond_storeOnly s.storeOnly]

/-- The answer to a request whose store answer is known. -/
theorem respond_of_store {server : Server} {request : Request} {s s' : TreeServer} {status : Nat}
    (h : s.repo.store request.method request.url.pathText (request.body.getD []) = (status, s'.repo)) :
    respond server request s = (.ok ⟨status, ""⟩, s') := by
  obtain ⟨h₁, h₂⟩ := respond_store server request s
  rw [h] at h₁ h₂
  exact Prod.ext h₁ (TreeServer.ext h₂)

/-- A read of a present node answers `200` and changes nothing. -/
theorem respond_get_present {s : TreeServer} (server : Server) {u : Url}
    (hin : u.pathText ∈ s.repo.nodes) :
    respond server (Request.get u) s = (.ok ⟨statusOk, ""⟩, s) :=
  respond_of_store (by simp [MemoryRepository.store, Request.get, Request.new, hin, statusOk])

/-- A read of a missing node answers `404` and changes nothing. -/
theorem respond_get_missing {s : TreeServer} (server : Server) {u : Url}
    (hnot : u.pathText ∉ s.repo.nodes) :
    respond server (Request.get u) s = (.ok ⟨404, ""⟩, s) :=
  respond_of_store (by simp [MemoryRepository.store, Request.get, Request.new, hnot])

/-- An update of a present node answers `200` and keeps its body. -/
theorem respond_put_present {s : TreeServer} (server : Server) {request : Request}
    (hput : request.method = .put) (hin : request.url.pathText ∈ s.repo.nodes) :
    respond server request s =
      (.ok ⟨statusOk, ""⟩, s.write request.url.pathText (request.body.getD [])) :=
  respond_of_store (by simp [MemoryRepository.store, hput, hin, statusOk])

/-- A create of a missing node whose parent is present answers `201`, adds
the node and keeps its body. -/
theorem respond_post_fresh {s : TreeServer} (server : Server) {request : Request}
    (hpost : request.method = .post) (hfresh : request.url.pathText ∉ s.repo.nodes)
    (hparent : MemoryRepository.parentPath request.url.pathText ∈ s.repo.nodes) :
    respond server request s =
      (.ok ⟨statusCreated, ""⟩, s.create request.url.pathText (request.body.getD [])) :=
  respond_of_store (by simp [MemoryRepository.store, hpost, hfresh, hparent, statusCreated])

/-- A create of a node that is there answers `409` and changes nothing. -/
theorem respond_post_present {s : TreeServer} (server : Server) {request : Request}
    (hpost : request.method = .post) (hin : request.url.pathText ∈ s.repo.nodes) :
    respond server request s = (.ok ⟨409, ""⟩, s) :=
  respond_of_store (by simp [MemoryRepository.store, hpost, hin])

end TreeServer

/-- **The exchanges of a tree server are those of its repository.** The
induction is on the exchanges. -/
theorem Answers.toRepo {server : Server} {s s' : TreeServer} {xs : List Exchange}
    (h : Answers TreeServer.transport server s xs s') :
    Answers MemoryRepository.transport server s.repo xs s'.repo := by
  induction h with
  | nil => exact .nil _
  | @cons s₀ s₁ s₂ request answer xs hr _ ih =>
    obtain ⟨rfl, rfl⟩ := Prod.ext_iff.mp hr
    exact .cons rfl ih

/-! ## The node of a regular file -/

theorem fileName?_plain {path name : String} (h : fileName? path = some name) :
    name ≠ "." ∧ name ≠ ".." := by
  unfold fileName? at h
  split at h
  · cases h
  · rename_i last hne hlast
    cases h
    have hmem := List.mem_of_getLast? hlast
    simp only [List.mem_filter, Bool.and_eq_true, bne_iff_ne, ne_eq] at hmem
    exact ⟨hmem.2.2, hne⟩
  · cases h

/-- A usable file name is neither `.` nor `..`. -/
theorem fileName_plain {file name : String} (h : fileName file = .ok name) :
    name ≠ "." ∧ name ≠ ".." := by
  unfold fileName at h
  split at h
  · rename_i found hfound
    cases h
    exact fileName?_plain hfound
  · cases h

/-- The node of a regular file with a usable name. -/
theorem FileNode.new_of_stat {files : LocalFiles} {file name : String} {place : Place}
    {bytes : List UInt8} {modified : Int} (ws : Workspace) (path : String) (versioning : Bool)
    (hstat : files.stat file = .ok (place, .file bytes modified)) (hname : fileName file = .ok name) :
    FileNode.new files ws path file versioning =
      .ok ⟨ws, path, file, name, versioning, inferMime name, ⟨modified⟩⟩ := by
  simp [FileNode.new, hstat, hname]

/-- The body written for a regular file: its document with the file's bytes. -/
theorem FileNode.content_of_stat {files : LocalFiles} {f : FileNode} {place : Place}
    {bytes : List UInt8} {modified : Int}
    (hstat : files.stat f.file = .ok (place, .file bytes modified)) :
    f.content files = .ok (FileNode.withData f.document bytes).toBytes := by
  simp [FileNode.content, LocalFiles.read, hstat]

theorem pathText_setQuery (u : Url) (query : Option String) :
    (u.setQuery query).pathText = u.pathText := by
  cases query <;> rfl

/-- **The URL of a file** in a folder none of whose segments reads `..`,
under a name that neither is nor reads `..`: the folder's URL with the
name's added segment. -/
theorem fileUrl_of_plain {ws : Workspace} {items : Url} {base : List String}
    (hitems : ws.itemUrl "" [] = .ok items) (hbase : items.path = .segments base)
    {path name : String} {segs : List String} (hsegs : segmentsOf path = .ok segs)
    (hplain : ∀ s ∈ segs, Url.keptChars s ≠ ['.', '.']) (hdot : name ≠ ".") (hdotdot : name ≠ "..")
    (hname : Url.keptChars name ≠ ['.', '.']) :
    ws.fileUrl path name = .ok { items with
      path := .segments (base ++ segs.map (Url.addedSegment (Url.isSpecialScheme items.scheme)) ++
        [Url.addedSegment (Url.isSpecialScheme items.scheme) name]) } := by
  have hadd : ∀ raw ∈ segs ++ [name], raw ≠ "." ∧ raw ≠ ".." ∧ Url.keptChars raw ≠ ['.', '.'] := by
    intro raw hraw
    rcases List.mem_append.mp hraw with hseg | hlast
    · obtain ⟨-, h₂, h₃, -⟩ := mem_segmentsOf hsegs hseg
      exact ⟨h₂, h₃, hplain raw hseg⟩
    · rw [List.mem_singleton.mp hlast]
      exact ⟨hdot, hdotdot, hname⟩
  rw [Workspace.fileUrl, itemUrl_eq_append hitems hbase hsegs hadd, List.map_append,
    List.map_singleton, List.append_assoc]

/-- A file's path is longer than the path of every prefix of its folder. -/
theorem pathText_stepUrls_ne {items v : Url} {base adds : List String} (a : String)
    (hv : v ∈ stepUrls items base adds) : v.pathText ≠ joinPath (base ++ adds ++ [a]) := by
  obtain ⟨more, -, hmore, rfl⟩ := mem_stepUrls.mp hv
  intro heq
  have hle := length_joinPath_le_of_prefix base hmore
  have hlt := length_joinPath_lt (base ++ adds) (List.cons_ne_nil a [])
  rw [pathText_segments] at heq
  rw [heq] at hle
  omega

/-- Once the prefixes of a folder are in a store that held the items root,
so is the folder. -/
theorem folder_mem_of_nodes {nodes nodes' base adds : List String} {items : Url}
    (hroot : joinPath base ∈ nodes)
    (hnodes : ∀ q, q ∈ nodes' ↔ q ∈ nodes ∨ ∃ v ∈ stepUrls items base adds, v.pathText = q) :
    joinPath (base ++ adds) ∈ nodes' := by
  by_cases hne : adds = []
  · -- no segment: the folder is the items root
    subst hne
    exact (hnodes _).mpr (.inl (by simpa using hroot))
  · -- otherwise the folder is the last prefix
    refine (hnodes _).mpr (.inr ⟨{ items with path := .segments (base ++ adds) }, ?_, rfl⟩)
    exact mem_stepUrls.mpr ⟨adds, hne, List.prefix_refl adds, rfl⟩

/-- What publishing a file did to the tree server, from `s` to `s'`: the
store gained the prefix paths `urls` and the file's path `file`, and the
body `body` is kept at the file's path. -/
structure Published (s s' : TreeServer) (urls : List Url) (file : String) (body : List UInt8) :
    Prop where
  nodes : ∀ q, q ∈ s'.repo.nodes ↔ q ∈ s.repo.nodes ∨ (∃ v ∈ urls, v.pathText = q) ∨ q = file
  kept : s'.repo.bodyOf file = some body

/-- Publishing over a file already there gains no node: every prefix of its
folder is present already, the store being closed under parents. -/
theorem Published.of_present {s : TreeServer} {items : Url} {base adds : List String} {a : String}
    {body : List UInt8} (hclosed : MemoryRepository.ParentClosed (joinPath base) s.repo.nodes)
    (hslash : ∀ x ∈ adds ++ [a], '/' ∉ x.toList) (hin : joinPath (base ++ adds ++ [a]) ∈ s.repo.nodes) :
    Published s (s.write (joinPath (base ++ adds ++ [a])) body)
      (stepUrls items base adds) (joinPath (base ++ adds ++ [a])) body := by
  have hfolder : joinPath (base ++ adds) ∈ s.repo.nodes := by
    rw [List.append_assoc] at hin
    exact MemoryRepository.mem_of_prefix hclosed (adds ++ [a]) hslash hin adds (List.prefix_append _ _)
  have hall : ∀ v ∈ stepUrls items base adds, v.pathText ∈ s.repo.nodes :=
    MemoryRepository.stepUrls_present hclosed (fun x hx => hslash x (List.mem_append_left _ hx)) hfolder
  refine ⟨fun q => ⟨.inl, ?_⟩, by simp [MemoryRepository.bodyOf_write]⟩
  rintro (hq | ⟨v, hv, rfl⟩ | rfl)
  · exact hq
  · exact hall v hv
  · exact hin

/-! ## Publishing -/

namespace Session

open MemoryRepository

/-- A write of a file's body to its URL, asking for a terse answer. -/
def fileWrite (method : Method) (u : Url) (body : List UInt8) : Request :=
  (Request.new method (u.setQuery (some Jcr.terseResponseQuery))).withBody jsonContentType body

/-- Writing a file node, answered with the status the write expects. -/
theorem run_writeFile {σ : Type} (t : Transport σ) {node : FileNode} {ws : Workspace} {u : Url}
    {body : List UInt8} {method : Method} {expected : Nat} {operation : String} {w : World σ}
    {resp : Response} {s' : σ} (hws : node.workspace = ws) (hurl : node.url = .ok u)
    (hbody : node.content w.files = .ok body)
    (hr : t.respond ws.server (fileWrite method u body) w.remote = (.ok resp, s'))
    (hst : resp.status = expected) :
    run (writeNode t (.file node) method expected operation) w =
      (.ok (), { w with remote := s', sent := w.sent ++ [Sent.mk ws.server.user (fileWrite method u body)] }) := by
  have hws' : (PathNode.file node).workspace? = some ws := by simp [PathNode.workspace?, hws]
  have hbody' : (PathNode.file node).content w.files = .ok (some body) := by
    rw [PathNode.content, hbody]
    rfl
  have hurl' : (PathNode.file node).writeUrl = .ok (u.setQuery (some Jcr.terseResponseQuery)) := by
    simp [PathNode.writeUrl, PathNode.url, hurl]
  exact run_writeNode t hws' hbody' hurl' hr hst

/-- A write of a file is sent to the file's path. -/
theorem pathText_fileWrite (method : Method) (u : Url) (body : List UInt8) :
    (fileWrite method u body).url.pathText = u.pathText :=
  pathText_setQuery _ _

/-- An update of a present file answers `200` and keeps its body. -/
theorem respond_fileWrite_put {s : TreeServer} (server : Server) {u : Url} (body : List UInt8)
    (hin : u.pathText ∈ s.repo.nodes) :
    TreeServer.transport.respond server (fileWrite .put u body) s =
      (.ok ⟨statusOk, ""⟩, s.write u.pathText body) := by
  have hpath := pathText_fileWrite .put u body
  show TreeServer.respond server (fileWrite .put u body) s = _
  rw [TreeServer.respond_put_present server rfl (by rw [hpath]; exact hin), hpath]
  rfl

/-- A create of a missing file whose folder is present answers `201`, adds
the file and keeps its body. -/
theorem respond_fileWrite_post {s : TreeServer} (server : Server) {u : Url} (body : List UInt8)
    (hfresh : u.pathText ∉ s.repo.nodes) (hparent : parentPath u.pathText ∈ s.repo.nodes) :
    TreeServer.transport.respond server (fileWrite .post u body) s =
      (.ok ⟨statusCreated, ""⟩, s.create u.pathText body) := by
  have hpath := pathText_fileWrite .post u body
  show TreeServer.respond server (fileWrite .post u body) s = _
  rw [TreeServer.respond_post_fresh server rfl (by rw [hpath]; exact hfresh)
    (by rw [hpath]; exact hparent), hpath]
  rfl

/-- **Publishing a file that is already there** updates it in place: one
read answered `200`, then one update with the file's body, answered `200`,
which keeps the body at the file's path. -/
theorem tryPublish_present {ws : Workspace} {path file : String} {versioning : Bool}
    {node : FileNode} {u : Url} {body : List UInt8} {w : World TreeServer}
    (hnode : FileNode.new w.files ws path file versioning = .ok node) (hws : node.workspace = ws)
    (hurl : node.url = .ok u) (hbody : node.content w.files = .ok body)
    (hin : u.pathText ∈ w.remote.repo.nodes) :
    run (tryPublish TreeServer.transport ws path file versioning) w =
      (.ok (), { w with
        remote := w.remote.write u.pathText body
        sent := w.sent ++ [Sent.mk ws.server.user (Request.get u),
          Sent.mk ws.server.user (fileWrite .put u body)] }) := by
  -- the read finds the file
  have hget : TreeServer.transport.respond ws.server (Request.get u) w.remote =
      (.ok ⟨statusOk, ""⟩, w.remote) :=
    TreeServer.respond_get_present ws.server hin
  -- the update goes to the same path, which is present
  have hput := respond_fileWrite_put ws.server body hin
  have hwrite : run (updateNode TreeServer.transport (.file node))
      { w with sent := w.sent ++ [Sent.mk ws.server.user (Request.get u)] } =
      (.ok (), { w with
        remote := w.remote.write u.pathText body
        sent := (w.sent ++ [Sent.mk ws.server.user (Request.get u)]) ++
          [Sent.mk ws.server.user (fileWrite .put u body)] }) := by
    rw [updateNode]
    exact run_writeFile TreeServer.transport hws hurl hbody hput rfl
  simp only [tryPublish, run_bind, run_files, hnode, run_lift, hurl, run_pathExists _ hget,
    beq_self_eq_true, if_true]
  rw [hwrite, List.append_assoc]
  rfl

/-- **Publishing a file that is not there** makes its folder exist and then
creates it. The store answers alone, holds the items root and is closed
under parents; the folder is laid out under the items root and the file's
URL has one more segment. The read of the file answers `404`, making the
folder exist succeeds, and the create of the file, whose path is new and
whose parent is now present, answers `201`. -/
theorem tryPublish_absent {ws : Workspace} {path file : String} {versioning : Bool}
    {node : FileNode} {items : Url} {base segs adds : List String} {a : String}
    {body : List UInt8} {w : World TreeServer} (hroot : joinPath base ∈ w.remote.repo.nodes)
    (hclosed : ParentClosed (joinPath base) w.remote.repo.nodes)
    (hlay : FolderLayout ws path items base segs adds) (ha : '/' ∉ a.toList)
    (hnode : FileNode.new w.files ws path file versioning = .ok node) (hws : node.workspace = ws)
    (hurl : node.url = .ok { items with path := .segments (base ++ adds ++ [a]) })
    (hbody : node.content w.files = .ok body)
    (hnot : joinPath (base ++ adds ++ [a]) ∉ w.remote.repo.nodes) :
    ∃ w', run (tryPublish TreeServer.transport ws path file versioning) w = (.ok (), w') ∧
      w'.files = w.files ∧
      Published w.remote w'.remote (stepUrls items base adds) (joinPath (base ++ adds ++ [a])) body := by
  set u : Url := { items with path := .segments (base ++ adds ++ [a]) } with hu
  -- the read of the file answers 404
  have hget : TreeServer.transport.respond ws.server (Request.get u) w.remote =
      (.ok ⟨404, ""⟩, w.remote) :=
    TreeServer.respond_get_missing ws.server hnot
  -- the folder is made to exist against the store
  set w₁ : World TreeServer := { w with sent := w.sent ++ [Sent.mk ws.server.user (Request.get u)] }
  obtain ⟨xs, htalk, hpat⟩ := ensureFolderExists_talked TreeServer.transport ws path w₁
  obtain ⟨hres, out⟩ := folderTalk_outcome w₁.remote.storeOnly hroot hclosed hlay hpat
    htalk.answers.toRepo
  set w₂ := (run (ensureFolderExists TreeServer.transport ws path) w₁).2
  have hrun : run (ensureFolderExists TreeServer.transport ws path) w₁ = (.ok (), w₂) :=
    Prod.ext hres rfl
  -- the file's path is new, and its parent, the folder, is now present
  have hfresh : u.pathText ∉ w₂.remote.repo.nodes := by
    rw [out.nodes]
    rintro (hold | ⟨v, hv, hvq⟩)
    · exact hnot hold
    · exact pathText_stepUrls_ne a hv hvq
  have hparent : parentPath u.pathText ∈ w₂.remote.repo.nodes := by
    show parentPath (joinPath (base ++ adds ++ [a])) ∈ _
    rw [joinPath_append_single, parentPath_append_slash _ ha]
    exact folder_mem_of_nodes hroot out.nodes
  have hpost := respond_fileWrite_post ws.server body hfresh hparent
  have hcreate : run (createNode TreeServer.transport (.file node)) w₂ =
      (.ok (), { w₂ with
        remote := w₂.remote.create u.pathText body
        sent := w₂.sent ++ [Sent.mk ws.server.user (fileWrite .post u body)] }) := by
    rw [createNode]
    exact run_writeFile TreeServer.transport hws hurl (by rw [htalk.files]; exact hbody) hpost rfl
  refine ⟨?final, ?run, ?files, ?published⟩
  case run =>
    simp only [tryPublish, run_bind, run_files, hnode, run_lift, hurl, run_pathExists _ hget,
      statusOk, Nat.reduceBEq, Bool.false_eq_true, if_false]
    rw [hrun]
    exact hcreate
  case files => exact htalk.files
  case published =>
    refine ⟨fun q => ?_, (bodyOf_create _ _ _ _).trans (if_pos rfl)⟩
    -- the store gained the prefixes, then the file
    rw [TreeServer.create_repo, create_nodes, mem_addPath, out.nodes, or_comm, or_assoc]
    exact Iff.rfl

/-- **Publishing a file**, present or not: it succeeds, the local files stay,
the store gains the prefixes of the folder and the file and keeps the body,
and a file already there is read once and updated once. -/
theorem tryPublish_publishes (w : World TreeServer) {ws : Workspace} {path file : String}
    {versioning : Bool} {node : FileNode} {items : Url} {base segs adds : List String} {a : String}
    {body : List UInt8} (hroot : joinPath base ∈ w.remote.repo.nodes)
    (hclosed : ParentClosed (joinPath base) w.remote.repo.nodes)
    (hlay : FolderLayout ws path items base segs adds) (ha : '/' ∉ a.toList)
    (hnode : FileNode.new w.files ws path file versioning = .ok node) (hws : node.workspace = ws)
    (hurl : node.url = .ok { items with path := .segments (base ++ adds ++ [a]) })
    (hbody : node.content w.files = .ok body) :
    ∃ w', run (tryPublish TreeServer.transport ws path file versioning) w = (.ok (), w') ∧
      w'.files = w.files ∧
      Published w.remote w'.remote (stepUrls items base adds) (joinPath (base ++ adds ++ [a])) body ∧
      (joinPath (base ++ adds ++ [a]) ∈ w.remote.repo.nodes →
        w'.sent = w.sent ++ [Sent.mk ws.server.user (Request.get { items with path := .segments (base ++ adds ++ [a]) }),
          Sent.mk ws.server.user (fileWrite .put { items with path := .segments (base ++ adds ++ [a]) } body)]) := by
  by_cases hin : joinPath (base ++ adds ++ [a]) ∈ w.remote.repo.nodes
  · -- the file is updated in place
    have hslash : ∀ x ∈ adds ++ [a], '/' ∉ x.toList := by
      intro x hx
      rcases List.mem_append.mp hx with hx | hx
      · exact hlay.slash x hx
      · rw [List.mem_singleton.mp hx]
        exact ha
    exact ⟨_, tryPublish_present hnode hws hurl hbody hin, rfl,
      Published.of_present hclosed hslash hin, fun _ => rfl⟩
  · -- the folder is made to exist and the file created
    obtain ⟨w', hrun, hfiles, pub⟩ :=
      tryPublish_absent hroot hclosed hlay ha hnode hws hurl hbody hin
    exact ⟨w', hrun, hfiles, pub, fun h => (hin h).elim⟩

/-- A publish whose attempt succeeded reports `ok`. -/
theorem run_publishVersioned_of_ok {σ : Type} (t : Transport σ) {ws : Workspace}
    {path file : String} {versioning : Bool} {w w' : World σ}
    (h : run (tryPublish t ws path file versioning) w = (.ok (), w')) :
    run (publishVersioned t ws path file versioning) w = (.ok Status.ok, w') := by
  simp only [publishVersioned, run_tryCatch, run_bind, h, run_pure]

/-- **Publishing a file to a tree server, twice.** The store holds the items
root and is closed under parents; no segment of the folder
path reads `..`, and the file is a regular file whose name does not read
`..` either, once tabs and line breaks are dropped. Then publishing
succeeds, the store gains the prefixes of the folder and the file, the
file's body is kept at its path, and a file already there is read once and
updated once. Publishing the unchanged file again succeeds and leaves the
tree server as it was. -/
theorem publishVersioned_publishes_file {ws : Workspace} {items : Url} {s : TreeServer}
    {files : LocalFiles} {path file name : String} {segs : List String} {place : Place}
    {bytes : List UInt8} {modified : Int}
    (hitems : ws.itemUrl "" [] = .ok items)
    (hroot : items.pathText ∈ s.repo.nodes) (hclosed : ParentClosed items.pathText s.repo.nodes)
    (hsegs : segmentsOf path = .ok segs) (hplain : ∀ seg ∈ segs, Url.keptChars seg ≠ ['.', '.'])
    (hstat : files.stat file = .ok (place, .file bytes modified)) (hname : fileName file = .ok name)
    (hplainName : Url.keptChars name ≠ ['.', '.']) (versioning : Bool) (sent : List Sent) :
    let first := run (publishVersioned TreeServer.transport ws path file versioning) ⟨s, files, sent⟩
    let second := run (publishVersioned TreeServer.transport ws path file versioning) first.2
    ∃ node u body, FileNode.new files ws path file versioning = .ok node ∧
      ws.fileUrl path name = .ok u ∧ node.content files = .ok body ∧
      ∃ urls : List Url, (prefixPaths "" segs).map (ws.itemUrl · []) = urls.map .ok ∧
        first.1 = .ok Status.ok ∧
        (∀ q, q ∈ first.2.remote.repo.nodes ↔
          q ∈ s.repo.nodes ∨ (∃ v ∈ urls, v.pathText = q) ∨ q = u.pathText) ∧
        first.2.remote.repo.bodyOf u.pathText = some body ∧
        (u.pathText ∈ s.repo.nodes → first.2.sent = sent ++
          [Sent.mk ws.server.user (Request.get u), Sent.mk ws.server.user (fileWrite .put u body)]) ∧
        second.1 = .ok Status.ok ∧ second.2.remote = first.2.remote := by
  intro first second
  -- the items root, the folder's layout and the file's URL
  obtain ⟨base, hbase, hI⟩ := itemUrl_root_segments hitems
  rw [hI] at hroot hclosed
  have hlay := FolderLayout.of_plain hitems hbase hsegs hplain
  obtain ⟨hdot, hdotdot⟩ := fileName_plain hname
  have hurl := fileUrl_of_plain hitems hbase hsegs hplain hdot hdotdot hplainName
  -- the file's node and the body written for it
  have hnode := FileNode.new_of_stat ws path versioning hstat hname
  set node : FileNode := ⟨ws, path, file, name, versioning, inferMime name, ⟨modified⟩⟩
  have hbody : node.content files = .ok (FileNode.withData node.document bytes).toBytes :=
    FileNode.content_of_stat hstat
  have hurl' : node.url = .ok _ := hurl
  refine ⟨_, _, _, hnode, hurl, hbody, _, hlay.prefixes, ?_⟩
  -- the first run
  obtain ⟨w₁, hrun₁, hfiles₁, pub, hsent⟩ := tryPublish_publishes ⟨s, files, sent⟩ hroot hclosed hlay
    (Url.slash_not_mem_addedSegment _ name) hnode rfl hurl' hbody
  have hfirst : first = (.ok Status.ok, w₁) := run_publishVersioned_of_ok _ hrun₁
  -- the second run finds the file, with the local files unchanged
  have hnode₁ : FileNode.new w₁.files ws path file versioning = .ok node := by
    rw [hfiles₁]
    exact hnode
  have hbody₁ : node.content w₁.files = .ok (FileNode.withData node.document bytes).toBytes := by
    rw [hfiles₁]
    exact hbody
  have hrun₂ := tryPublish_present hnode₁ rfl hurl' hbody₁ ((pub.nodes _).mpr (.inr (.inr rfl)))
  have hsecond : second = run (publishVersioned TreeServer.transport ws path file versioning) w₁ := by
    show run _ first.2 = _
    rw [hfirst]
  rw [hsecond, hfirst, run_publishVersioned_of_ok _ hrun₂]
  -- the update writes at the file's path the body already kept there
  exact ⟨rfl, pub.nodes, pub.kept, hsent, rfl, TreeServer.ext (write_of_bodyOf pub.kept)⟩

/-- Publishing the file `b` to `/docs` twice, in a store holding only the
items root, succeeds both times. -/
theorem publishVersioned_file_twice :
    let ws : Workspace := ⟨"w", ⟨"r", Server.new "a:/" "u" "p"⟩⟩
    let first := run (publishVersioned TreeServer.transport ws "/docs" "b" false)
      ⟨⟨⟨[], [], ["/r/w/items"], .empty, false⟩, ⟨rfl, rfl⟩⟩, ⟨[(["b"], .file [121] 0)]⟩, []⟩
    first.1 = .ok Status.ok ∧
      (run (publishVersioned TreeServer.transport ws "/docs" "b" false) first.2).1 = .ok Status.ok := by
  intro ws first
  have hitems : ws.itemUrl "" [] =
      .ok ⟨"a", "", none, none, none, .segments ["r", "w", "items"], none, none⟩ := by
    decide +kernel
  have hroot : (⟨"a", "", none, none, none, .segments ["r", "w", "items"], none, none⟩ : Url).pathText =
      "/r/w/items" := by
    decide
  have hsegs : segmentsOf "/docs" = .ok ["docs"] :=
    segmentsOf_of_joinPath (by decide) (by decide)
  -- the local file `b`, whose path has no slash
  have hsplit : "b".splitOn "/" = ["b"] := by
    rw [String.splitOn, if_neg (by decide), String.splitOnAux, if_neg (by decide), if_neg (by decide),
      String.splitOnAux, if_pos (by decide)]
    decide
  have hstat : LocalFiles.stat ⟨[(["b"], .file [121] 0)]⟩ "b" = .ok (.inside ["b"], .file [121] 0) := by
    simp [LocalFiles.stat, hsplit, LocalFiles.walk, LocalFiles.entryAt, LocalFiles.entry?]
    decide +kernel
  have hname : fileName "b" = .ok "b" := by simp [fileName, fileName?, hsplit]
  have hin : (⟨"a", "", none, none, none, .segments ["r", "w", "items"], none, none⟩ : Url).pathText ∈
      (TreeServer.mk ⟨[], [], ["/r/w/items"], .empty, false⟩ ⟨rfl, rfl⟩).repo.nodes := by
    rw [hroot]
    exact List.mem_singleton_self _
  obtain ⟨_, _, _, _, _, _, _, _, hfirst, _, _, _, hsecond, _⟩ :=
    publishVersioned_publishes_file hitems hin
      (fun q hq hne => (hne (by rw [hroot]; exact List.mem_singleton.mp hq)).elim) hsegs
      (by decide) hstat hname (by decide) false []
  exact ⟨hfirst, hsecond⟩

end Session

end ContentPublish
