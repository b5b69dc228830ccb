import ContentPublish.Node
import ContentPublish.Client
import ContentPublish.Proofs.Validation

/-
  The password is a secret

  The password of a server goes with every request sent to it, and nowhere
  else: no text of a server, repository, workspace or node shows it, no URL
  is built from it, and no outcome reads it. So two servers that differ only
  in their password are told apart by nothing the library shows, and against
  a transport that does not look at the credentials every operation sends
  the same requests and ends the same way on both.

  Replacing the password everywhere is `withPassword`, one function for each
  kind of thing that carries a server. Each text and URL is left as it was,
  and each operation, given a thing with another password, runs as it did,
  or gives the same result with that password in it.

  What is stated here:
    1. `withPassword` on servers, repositories, workspaces and nodes, with
       the texts and URLs it leaves alone.
    2. `Session.send_withPassword` and one equation for each operation.
    3. `password_changes_nothing_shown` — all of it together.
-/

namespace ContentPublish

namespace Server

/-- The same server with another password. -/
def withPassword (s : Server) (p : String) : Server := { s with password := p }

variable (s : Server) (p : String)

@[simp] theorem url_withPassword : (s.withPassword p).url = s.url := rfl

@[simp] theorem user_withPassword : (s.withPassword p).user = s.user := rfl

@[simp] theorem baseUrl_withPassword : (s.withPassword p).baseUrl = s.baseUrl := rfl

@[simp] theorem discoveryUrl_withPassword :
    (s.withPassword p).discoveryUrl = s.discoveryUrl := rfl

@[simp] theorem unvalidated_withPassword :
    (s.withPassword p).unvalidated = s.unvalidated.withPassword p := rfl

theorem asValidated_withPassword (base : String) (protocol : ProtocolVersion) :
    (s.withPassword p).asValidated base protocol = (s.asValidated base protocol).withPassword p :=
  rfl

@[simp] theorem debugText_withPassword : (s.withPassword p).debugText = s.debugText := rfl

@[simp] theorem toJson_withPassword : (s.withPassword p).toJson = s.toJson := rfl

end Server

namespace Repository

/-- The same repository on its server with another password. -/
def withPassword (r : Repository) (p : String) : Repository :=
  { r with server := r.server.withPassword p }

variable (r : Repository) (p : String)

@[simp] theorem name_withPassword : (r.withPassword p).name = r.name := rfl

@[simp] theorem server_withPassword : (r.withPassword p).server = r.server.withPassword p := rfl

@[simp] theorem url_withPassword : (r.withPassword p).url = r.url := rfl

@[simp] theorem debugText_withPassword : (r.withPassword p).debugText = r.debugText := rfl

@[simp] theorem toJson_withPassword : (r.withPassword p).toJson = r.toJson := rfl

end Repository

namespace Workspace

/-- The same workspace on its server with another password. -/
def withPassword (w : Workspace) (p : String) : Workspace :=
  { w with repository := w.repository.withPassword p }

variable (w : Workspace) (p : String)

@[simp] theorem name_withPassword : (w.withPassword p).name = w.name := rfl

@[simp] theorem repository_withPassword :
    (w.withPassword p).repository = w.repository.withPassword p := rfl

@[simp] theorem server_withPassword : (w.withPassword p).server = w.server.withPassword p := rfl

@[simp] theorem display_withPassword : (w.withPassword p).display = w.display := rfl

@[simp] theorem url_withPassword : (w.withPassword p).url = w.url := rfl

@[simp] theorem itemUrl_withPassword (path : String) (trailing : List String) :
    (w.withPassword p).itemUrl path trailing = w.itemUrl path trailing := rfl

@[simp] theorem fileUrl_withPassword (path name : String) :
    (w.withPassword p).fileUrl path name = w.fileUrl path name := rfl

@[simp] theorem queryUrl_withPassword : (w.withPassword p).queryUrl = w.queryUrl := rfl

@[simp] theorem queryPlanUrl_withPassword : (w.withPassword p).queryPlanUrl = w.queryPlanUrl :=
  rfl

@[simp] theorem nodeTypesUrl_withPassword : (w.withPassword p).nodeTypesUrl = w.nodeTypesUrl :=
  rfl

@[simp] theorem debugText_withPassword : (w.withPassword p).debugText = w.debugText := rfl

@[simp] theorem toJson_withPassword : (w.withPassword p).toJson = w.toJson := rfl

end Workspace

namespace FolderNode

/-- The same folder on its server with another password. -/
def withPassword (f : FolderNode) (p : String) : FolderNode :=
  { f with workspace := f.workspace.withPassword p }

variable (f : FolderNode) (p : String)

theorem new_withPassword (w : Workspace) (path : String) :
    new (w.withPassword p) path = (new w path).withPassword p := rfl

theorem markedAsPublishArea_withPassword (title description : Option String) :
    (f.withPassword p).markedAsPublishArea title description =
      (f.markedAsPublishArea title description).withPassword p := rfl

theorem unmarkedAsPublishArea_withPassword :
    (f.withPassword p).unmarkedAsPublishArea = f.unmarkedAsPublishArea.withPassword p := rfl

@[simp] theorem url_withPassword : (f.withPassword p).url = f.url := rfl

@[simp] theorem debugText_withPassword : (f.withPassword p).debugText = f.debugText := rfl

end FolderNode

namespace FileNode

/-- The same file node on its server with another password. -/
def withPassword (f : FileNode) (p : String) : FileNode :=
  { f with workspace := f.workspace.withPassword p }

variable (f : FileNode) (p : String)

/-- A file node made in a workspace with another password is the one made
in the workspace, with that password. -/
theorem new_withPassword (fs : LocalFiles) (w : Workspace) (path file : String)
    (versionable : Bool) :
    new fs (w.withPassword p) path file versionable =
      (new fs w path file versionable).map (·.withPassword p) := by
  unfold new
  rcases fs.stat file with e | ⟨_, _ | ⟨_, modified⟩⟩ <;> try rfl
  cases fileName file <;> rfl

@[simp] theorem url_withPassword : (f.withPassword p).url = f.url := rfl

@[simp] theorem content_withPassword (fs : LocalFiles) :
    (f.withPassword p).content fs = f.content fs := rfl

@[simp] theorem debugText_withPassword (instant : Timestamp → String) :
    (f.withPassword p).debugText instant = f.debugText instant := rfl

end FileNode

/-- The same descriptor on its server with another password. -/
def Descriptor.withPassword (d : Descriptor) (p : String) : Descriptor :=
  match d with
  | .server s => .server (s.withPassword p)
  | .repository r => .repository (r.withPassword p)
  | .workspace w => .workspace (w.withPassword p)

namespace Descriptor

variable (d : Descriptor) (p : String)

@[simp] theorem url_withPassword : (d.withPassword p).url = d.url := by
  cases d <;> rfl

theorem server_withPassword (s : Server) : server (s.withPassword p) = (server s).withPassword p :=
  rfl

theorem repository_withPassword (r : Repository) :
    repository (r.withPassword p) = (repository r).withPassword p := rfl

@[simp] theorem debugText_withPassword : (d.withPassword p).debugText = d.debugText := by
  cases d <;> rfl

end Descriptor

/-- The same place on its server with another password. -/
def PathNode.withPassword (n : PathNode) (p : String) : PathNode :=
  match n with
  | .folder f => .folder (f.withPassword p)
  | .file f => .file (f.withPassword p)
  | .descriptor d => .descriptor (d.withPassword p)

namespace PathNode

variable (n : PathNode) (p : String)

theorem folder_withPassword (f : FolderNode) :
    folder (f.withPassword p) = (folder f).withPassword p := rfl

theorem file_withPassword (f : FileNode) : file (f.withPassword p) = (file f).withPassword p :=
  rfl

@[simp] theorem url_withPassword : (n.withPassword p).url = n.url := by
  cases n <;> simp only [withPassword, url, FolderNode.url_withPassword,
    FileNode.url_withPassword, Descriptor.url_withPassword]

@[simp] theorem writeUrl_withPassword : (n.withPassword p).writeUrl = n.writeUrl := by
  cases n <;> simp only [writeUrl, url_withPassword] <;> rfl

@[simp] theorem content_withPassword (fs : LocalFiles) :
    (n.withPassword p).content fs = n.content fs := by
  cases n <;> rfl

@[simp] theorem describe_withPassword : (n.withPassword p).describe = n.describe := by
  rcases n with _ | _ | (_ | _ | _) <;> rfl

@[simp] theorem workspace?_withPassword :
    (n.withPassword p).workspace? = n.workspace?.map (·.withPassword p) := by
  rcases n with _ | _ | (_ | _ | _) <;> rfl

@[simp] theorem debugText_withPassword (instant : Timestamp → String) :
    (n.withPassword p).debugText instant = n.debugText instant := by
  cases n <;> simp only [withPassword, debugText, FolderNode.debugText_withPassword,
    FileNode.debugText_withPassword, Descriptor.debugText_withPassword]

end PathNode

/-- What a listing reads of a workspace is its name, so a listing of
workspaces with another password picks the same one, with that password. -/
theorem pickNodeTypeWorkspace_withPassword (wss : List Workspace) (p : String) :
    pickNodeTypeWorkspace (wss.map (·.withPassword p)) =
      (pickNodeTypeWorkspace wss).map (·.withPassword p) := by
  unfold pickNodeTypeWorkspace
  simp only [List.find?_map, Function.comp_def, Workspace.name_withPassword, List.head?_map]
  cases wss.find? fun w => QueryLanguage.sameIgnoringCase w.name "default" with
  | some w => rfl
  | none =>
    cases wss.find? fun w => !QueryLanguage.sameIgnoringCase w.name "system" with
    | some w => rfl
    | none => rfl

theorem decodeRepositories_withPassword (s : Server) (p body : String) :
    decodeRepositories (s.withPassword p) body =
      (decodeRepositories s body).map (List.map (·.withPassword p)) := by
  unfold decodeRepositories
  cases collectionNames body "repositories" <;> simp [Except.map, Repository.withPassword]

theorem decodeWorkspaces_withPassword (r : Repository) (p body : String) :
    decodeWorkspaces (r.withPassword p) body =
      (decodeWorkspaces r body).map (List.map (·.withPassword p)) := by
  unfold decodeWorkspaces
  cases collectionNames body "workspaces" <;> simp [Except.map, Workspace.withPassword]

/-- Validation settles on the server it was given, so with another password
it settles on the same server with that password. -/
theorem validateOutcome_withPassword (s : Server) (p : String) (answer : Except Error Response) :
    validateOutcome (s.withPassword p) answer = (validateOutcome s answer).map (·.withPassword p) := by
  unfold validateOutcome
  rcases answer with err | resp
  · rfl
  · dsimp only [Server.url_withPassword]
    split
    · rfl
    · cases determineVersion resp.body with
      | error e => rfl
      | ok v => cases v <;> rfl

namespace Session

variable {σ : Type} (t : Transport σ) (p : String)

/-- Two sessions are equal when they run alike from every world. -/
theorem ext {α : Type} {x y : Session σ α} (h : ∀ w, run x w = run y w) : x = y := funext h

theorem run_map {α β : Type} (f : α → β) (x : Session σ α) (w : World σ) :
    run (f <$> x) w = ((run x w).1.map f, (run x w).2) := by
  rw [← bind_pure_comp, run_bind]
  rcases run x w with ⟨_ | _, _⟩ <;> rfl

theorem lift_map {α β : Type} (f : α → β) (r : Except Error α) :
    (lift (r.map f) : Session σ β) = f <$> lift r := by
  cases r <;> rfl

theorem fileUrl_withPassword (ws : Workspace) (path file : String) :
    (fileUrl file path (ws.withPassword p) : Session σ Url) = fileUrl file path ws := by
  simp only [fileUrl, Workspace.fileUrl_withPassword]

/-! ## Against a transport that does not look at the credentials -/

section Blind

variable (hblind : ∀ a b : Server, t.respond a = t.respond b)
include hblind

/-- The server's password goes with the request, and the transport does not
look at it; the log keeps only the user. -/
theorem send_withPassword (s : Server) (r : Request) : send t (s.withPassword p) r = send t s r := by
  unfold send
  rw [hblind (s.withPassword p) s]
  rfl

theorem pathExists_withPassword (s : Server) (u : Url) :
    pathExists t (s.withPassword p) u = pathExists t s u := by
  simp only [pathExists, send_withPassword t p hblind]

theorem deleteAt_withPassword (s : Server) (u : Url) :
    deleteAt t (s.withPassword p) u = deleteAt t s u := by
  simp only [deleteAt, send_withPassword t p hblind]

theorem writeNode_withPassword (n : PathNode) (m : Method) (expected : Nat) (operation : String) :
    writeNode t (n.withPassword p) m expected operation = writeNode t n m expected operation := by
  unfold writeNode
  simp only [PathNode.workspace?_withPassword, PathNode.content_withPassword,
    PathNode.writeUrl_withPassword, PathNode.describe_withPassword]
  cases n.workspace? with
  | none => rfl
  | some ws =>
    simp only [Option.map_some, pure_bind, Workspace.server_withPassword,
      send_withPassword t p hblind]
    -- the texts are rewritten by `dsimp`: `simp` would rebuild the `if` around them
    dsimp only [Workspace.display_withPassword]

theorem createNode_withPassword (n : PathNode) :
    createNode t (n.withPassword p) = createNode t n :=
  writeNode_withPassword t p hblind n _ _ _

theorem updateNode_withPassword (n : PathNode) :
    updateNode t (n.withPassword p) = updateNode t n :=
  writeNode_withPassword t p hblind n _ _ _

theorem createMissing_withPassword (ws : Workspace) (done : String) (segments : List String) :
    createMissing t (ws.withPassword p) done segments = createMissing t ws done segments := by
  induction segments generalizing done with
  | nil => rfl
  | cons segment rest ih =>
    simp only [createMissing, FolderNode.new_withPassword, FolderNode.url_withPassword,
      Workspace.server_withPassword, pathExists_withPassword t p hblind,
      PathNode.folder_withPassword, createNode_withPassword t p hblind, ih]

theorem ensureFolderExists_withPassword (ws : Workspace) (path : String) :
    ensureFolderExists t (ws.withPassword p) path = ensureFolderExists t ws path := by
  simp only [ensureFolderExists, FolderNode.new_withPassword, FolderNode.url_withPassword,
    Workspace.server_withPassword, pathExists_withPassword t p hblind,
    createMissing_withPassword t p hblind]

theorem tryPublish_withPassword (ws : Workspace) (path file : String) (versioning : Bool) :
    tryPublish t (ws.withPassword p) path file versioning = tryPublish t ws path file versioning := by
  simp only [tryPublish, FileNode.new_withPassword, lift_map, bind_map_left,
    FileNode.url_withPassword, Workspace.server_withPassword, pathExists_withPassword t p hblind,
    PathNode.file_withPassword, updateNode_withPassword t p hblind,
    createNode_withPassword t p hblind, ensureFolderExists_withPassword t p hblind]

theorem publishVersioned_withPassword (ws : Workspace) (path file : String) (versioning : Bool) :
    publishVersioned t (ws.withPassword p) path file versioning =
      publishVersioned t ws path file versioning := by
  unfold publishVersioned
  rw [tryPublish_withPassword t p hblind]
  dsimp only [Workspace.display_withPassword]

theorem tryUnpublish_withPassword (ws : Workspace) (path file : String) :
    tryUnpublish t (ws.withPassword p) path file = tryUnpublish t ws path file := by
  simp only [tryUnpublish, Workspace.fileUrl_withPassword, Workspace.server_withPassword,
    deleteAt_withPassword t p hblind, pathExists_withPassword t p hblind]
  dsimp only [Workspace.display_withPassword]

theorem unpublish_withPassword (ws : Workspace) (path file : String) :
    unpublish t (ws.withPassword p) path file = unpublish t ws path file := by
  unfold unpublish
  rw [tryUnpublish_withPassword t p hblind]
  dsimp only [Workspace.display_withPassword]

theorem tryMark_withPassword (ws : Workspace) (path : String) (title description : Option String) :
    tryMark t (ws.withPassword p) path title description = tryMark t ws path title description := by
  simp only [tryMark, ensureFolderExists_withPassword t p hblind, FolderNode.new_withPassword,
    FolderNode.markedAsPublishArea_withPassword, FolderNode.url_withPassword,
    Workspace.server_withPassword, pathExists_withPassword t p hblind,
    PathNode.folder_withPassword, updateNode_withPassword t p hblind,
    createNode_withPassword t p hblind]

theorem markAsPublishArea_withPassword (ws : Workspace) (path : String)
    (title description : Option String) :
    markAsPublishArea t (ws.withPassword p) path title description =
      markAsPublishArea t ws path title description := by
  unfold markAsPublishArea
  rw [tryMark_withPassword t p hblind]
  dsimp only [Workspace.display_withPassword]

theorem tryUnmark_withPassword (ws : Workspace) (path : String) :
    tryUnmark t (ws.withPassword p) path = tryUnmark t ws path := by
  simp only [tryUnmark, FolderNode.new_withPassword, FolderNode.unmarkedAsPublishArea_withPassword,
    FolderNode.url_withPassword, Workspace.server_withPassword, pathExists_withPassword t p hblind,
    PathNode.folder_withPassword, updateNode_withPassword t p hblind]

theorem unmarkAsPublishArea_withPassword (ws : Workspace) (path : String) :
    unmarkAsPublishArea t (ws.withPassword p) path = unmarkAsPublishArea t ws path := by
  unfold unmarkAsPublishArea
  rw [tryUnmark_withPassword t p hblind]
  dsimp only [Workspace.display_withPassword]

theorem getFileContents_withPassword (ws : Workspace) (path file : String) :
    getFileContents t (ws.withPassword p) path file = getFileContents t ws path file := by
  simp only [getFileContents, Workspace.itemUrl_withPassword, Workspace.server_withPassword,
    send_withPassword t p hblind]

theorem fileExists_withPassword (ws : Workspace) (path file : String) :
    fileExists t file (ws.withPassword p) path = fileExists t file ws path := by
  simp only [fileExists, fileUrl_withPassword, Workspace.server_withPassword,
    pathExists_withPassword t p hblind]

theorem query_withPassword (ws : Workspace) (language statement : String) (o : QueryOptions) :
    query t (ws.withPassword p) language statement o = query t ws language statement o := by
  simp only [query, Workspace.queryUrl_withPassword, Workspace.server_withPassword,
    send_withPassword t p hblind]

theorem planForQuery_withPassword (ws : Workspace) (language statement : String)
    (o : QueryOptions) :
    planForQuery t (ws.withPassword p) language statement o =
      planForQuery t ws language statement o := by
  simp only [planForQuery, Workspace.queryPlanUrl_withPassword, Workspace.server_withPassword,
    send_withPassword t p hblind]

/-- Validating a server with another password settles on the same server,
with that password. -/
theorem validate_withPassword (s : Server) :
    validate t (s.withPassword p) = (·.withPassword p) <$> validate t s := by
  refine ext fun w => ?_
  rw [run_map, run_validate, run_validate, Server.unvalidated_withPassword,
    Server.discoveryUrl_withPassword]
  cases s.unvalidated.discoveryUrl with
  | error e => rfl
  | ok u =>
    dsimp only
    rw [hblind (s.unvalidated.withPassword p) s.unvalidated, validateOutcome_withPassword]
    rfl

theorem getRepositories_withPassword (s : Server) :
    getRepositories t (s.withPassword p) = List.map (·.withPassword p) <$> getRepositories t s := by
  unfold getRepositories
  simp only [Descriptor.server_withPassword, Descriptor.url_withPassword,
    send_withPassword t p hblind, decodeRepositories_withPassword, lift_map, map_bind]
  dsimp only [Server.url_withPassword]
  simp only [apply_ite (Functor.map (List.map (fun r : Repository => r.withPassword p))), map_bind]

theorem getWorkspaces_withPassword (r : Repository) :
    getWorkspaces t (r.withPassword p) = List.map (·.withPassword p) <$> getWorkspaces t r := by
  unfold getWorkspaces
  dsimp only [Descriptor.repository_withPassword, Repository.server_withPassword,
    Repository.name_withPassword, Server.url_withPassword]
  simp only [Descriptor.url_withPassword, send_withPassword t p hblind,
    decodeWorkspaces_withPassword, lift_map, map_bind]
  simp only [apply_ite (Functor.map (List.map (fun w : Workspace => w.withPassword p))), map_bind]

theorem getNodeTypes_withPassword (r : Repository) :
    getNodeTypes t (r.withPassword p) = getNodeTypes t r := by
  unfold getNodeTypes
  rw [getWorkspaces_withPassword t p hblind, bind_map_left]
  refine congrArg (getWorkspaces t r >>= ·) (funext fun wss => ?_)
  rw [pickNodeTypeWorkspace_withPassword]
  cases pickNodeTypeWorkspace wss with
  | none => rfl
  | some ws =>
    simp only [Option.map_some, pure_bind, Workspace.nodeTypesUrl_withPassword,
      Workspace.server_withPassword, send_withPassword t p hblind]

theorem queryPage_withPassword (ws : Workspace) (language statement : String) (offset : Nat)
    (limit : Option Nat) :
    queryPage t (ws.withPassword p) language statement offset limit =
      queryPage t ws language statement offset limit :=
  query_withPassword t p hblind ws language statement _

end Blind

end Session

open Session in
/-- **The password shows nowhere.** Give a server another password. The
debug and JSON texts of the server, and the debug, JSON and displayed texts
of every repository, workspace and node on it, stay as they were, and a file
node made in a workspace with the other password is the one made before,
with that password. Against a transport that does not look at the
credentials, every operation sends the same requests and ends the same way;
where its result carries the server, it carries it with the other password. -/
theorem password_changes_nothing_shown {σ : Type} (t : Transport σ)
    (hblind : ∀ a b : Server, t.respond a = t.respond b) (p : String) :
    (∀ s : Server, (s.withPassword p).debugText = s.debugText ∧
      (s.withPassword p).toJson = s.toJson ∧ (s.withPassword p).url = s.url) ∧
    (∀ r : Repository, (r.withPassword p).debugText = r.debugText ∧
      (r.withPassword p).toJson = r.toJson) ∧
    (∀ w : Workspace, (w.withPassword p).debugText = w.debugText ∧
      (w.withPassword p).toJson = w.toJson ∧ (w.withPassword p).display = w.display) ∧
    (∀ f : FolderNode, (f.withPassword p).debugText = f.debugText) ∧
    (∀ (instant : Timestamp → String) (f : FileNode),
      (f.withPassword p).debugText instant = f.debugText instant) ∧
    (∀ d : Descriptor, (d.withPassword p).debugText = d.debugText) ∧
    (∀ (instant : Timestamp → String) (n : PathNode),
      (n.withPassword p).debugText instant = n.debugText instant) ∧
    (∀ (fs : LocalFiles) (w : Workspace) (path file : String) (versionable : Bool),
      FileNode.new fs (w.withPassword p) path file versionable =
        (FileNode.new fs w path file versionable).map (·.withPassword p)) ∧
    (∀ s : Server, validate t (s.withPassword p) = (·.withPassword p) <$> validate t s) ∧
    (∀ s : Server, getRepositories t (s.withPassword p) =
      List.map (·.withPassword p) <$> getRepositories t s) ∧
    (∀ r : Repository, getWorkspaces t (r.withPassword p) =
      List.map (·.withPassword p) <$> getWorkspaces t r) ∧
    (∀ r : Repository, getNodeTypes t (r.withPassword p) = getNodeTypes t r) ∧
    ∀ ws : Workspace,
      (∀ path file, (fileUrl file path (ws.withPassword p) : Session σ Url) =
        fileUrl file path ws) ∧
      (∀ path file, fileExists t file (ws.withPassword p) path = fileExists t file ws path) ∧
      (∀ path file versioning, publishVersioned t (ws.withPassword p) path file versioning =
        publishVersioned t ws path file versioning) ∧
      (∀ path file, publish t (ws.withPassword p) path file = publish t ws path file) ∧
      (∀ path file, unpublish t (ws.withPassword p) path file = unpublish t ws path file) ∧
      (∀ path title description, markAsPublishArea t (ws.withPassword p) path title description =
        markAsPublishArea t ws path title description) ∧
      (∀ path, unmarkAsPublishArea t (ws.withPassword p) path = unmarkAsPublishArea t ws path) ∧
      (∀ path file, getFileContents t (ws.withPassword p) path file =
        getFileContents t ws path file) ∧
      (∀ language statement options, query t (ws.withPassword p) language statement options =
        query t ws language statement options) ∧
      (∀ language statement offset limit,
        queryPage t (ws.withPassword p) language statement offset limit =
          queryPage t ws language statement offset limit) ∧
      ∀ language statement options,
        planForQuery t (ws.withPassword p) language statement options =
          planForQuery t ws language statement options := by
  refine ⟨fun s => ⟨rfl, rfl, rfl⟩, fun r => ⟨rfl, rfl⟩, fun w => ⟨rfl, rfl, rfl⟩,
    fun f => f.debugText_withPassword p, fun instant f => f.debugText_withPassword p instant,
    fun d => d.debugText_withPassword p, fun instant n => n.debugText_withPassword p instant,
    FileNode.new_withPassword p, validate_withPassword t p hblind,
    getRepositories_withPassword t p hblind, getWorkspaces_withPassword t p hblind,
    getNodeTypes_withPassword t p hblind, fun ws => ⟨?_, ?_, ?_, ?_, ?_, ?_, ?_, ?_, ?_, ?_, ?_⟩⟩
  · exact fileUrl_withPassword p ws
  · exact fun path file => fileExists_withPassword t p hblind ws path file
  · exact publishVersioned_withPassword t p hblind ws
  · exact fun path file => publishVersioned_withPassword t p hblind ws path file false
  · exact unpublish_withPassword t p hblind ws
  · exact markAsPublishArea_withPassword t p hblind ws
  · exact unmarkAsPublishArea_withPassword t p hblind ws
  · exact getFileContents_withPassword t p hblind ws
  · exact query_withPassword t p hblind ws
  · exact queryPage_withPassword t p hblind ws
  · exact planForQuery_withPassword t p hblind ws

/-- Publishing with another password, against a transport that answers every
request alike. -/
theorem publish_with_other_password :
    let t : Transport Unit := ⟨fun _ _ _ => (.ok ⟨201, ""⟩, ())⟩
    (∀ a b : Server, t.respond a = t.respond b) ∧
      ∀ (ws : Workspace) (path file : String),
        Session.publish t (ws.withPassword "secret") path file = Session.publish t ws path file := by
  intro t
  have hblind : ∀ a b : Server, t.respond a = t.respond b := fun _ _ => rfl
  obtain ⟨-, -, -, -, -, -, -, -, -, -, -, -, hws⟩ := password_changes_nothing_shown t hblind "secret"
  exact ⟨hblind, fun ws => (hws ws).2.2.2.1⟩

end ContentPublish
