import ContentPublish.Proofs.FolderWalk
import ContentPublish.Client
import ContentPublish.Proofs.Exchange

/-
  Refusing bad input, and validating again

  The operations check what they are given before they talk to the server,
  and refuse bad input without sending anything. Validation depends on the
  server only as it was before any validation, so validating again settles
  on the same server.

  What is stated here:
    1. `Traverses` and `Error.BlamesInput`.
    2. `trimTrailingSlash_traverses` — trimming the ending slashes keeps a
       `..` piece.
    3. `LocalFiles.stat_error` and `FileNode.new_rejects` — the node of a
       local path that is not a readable regular file with a usable name.
    4. One lemma for each operation, on bad input.
    5. `operations_reject_bad_input` — all of them together.
    6. `Server.unvalidated_asValidated` and `Session.validate_asValidated` — a
       validated server validates as the one it came from.
    7. `validateOutcome` and `Session.run_validate` — one request, or none
       when the discovery URL cannot be built, and the server it settles on.
    8. `validate_again_settles_same_server` — what validating once and again
       sends and gives.
-/

/-! ## Refusing bad input

The publishing operations check what they are given before they talk to
the server. A folder path must have no `..` piece. A local path must end
in a usable name; to be published it must also name a regular file that
can be read, and to be looked up it must not name a directory. On input
that fails these checks nothing is sent and the world stays as it was:
the operation reports the failure, and its cause blames the URL or the
local file.

Marking a publish area is the exception. It makes the parent of the
folder exist before it builds the folder's URL, so a path whose parent
has segments and no `..`, such as `/a/..`, first makes `/a` exist and is
refused only then. What it sends is exactly what making that parent exist
sends, and it never succeeds.
-/

namespace ContentPublish

/-- A path with a `..` piece, which would climb out of the folder it is
read in. -/
def Traverses (path : String) : Prop := ".." ∈ path.splitToList (· == '/')

/-- A cause that blames the input: a URL that cannot be built, or the local
file. -/
def Error.BlamesInput (e : Error) : Prop := e.code = "INVALID_URL" ∨ e.code = "IO_ERROR"

theorem itemUrl_of_traverses (ws : Workspace) {path : String} (h : Traverses path)
    (trailing : List String) :
    ws.itemUrl path trailing = .error (.invalidUrl ("path traversal is not allowed: " ++ path)) := by
  simp [Workspace.itemUrl, segmentsOf_of_dotDot h]

/-! ### Slashes at the end of a path -/

/-- A run of slashes cuts into empty pieces only. -/
theorem splitOn_slashes : ∀ {xs : List Char}, (∀ c ∈ xs, c = '/') →
    ∀ piece ∈ xs.splitOn '/', piece = []
  | [], _ => by simp [List.splitOn_nil]
  | c :: xs, hall => by
    obtain rfl := hall c List.mem_cons_self
    have hrest := splitOn_slashes fun d hd => hall d (List.mem_cons_of_mem _ hd)
    have hsplit := List.splitOn_append_cons_self (a := '/') [] xs
    rw [List.nil_append, List.splitOn_nil, List.singleton_append] at hsplit
    intro piece hpiece
    rw [hsplit, List.mem_cons] at hpiece
    rcases hpiece with rfl | hpiece
    · rfl
    · exact hrest piece hpiece

/-- Slashes after a text add no `..` piece. -/
theorem dotDot_mem_of_append_slashes {ys xs : List Char} (hxs : ∀ c ∈ xs, c = '/')
    (h : ".." ∈ ((ys ++ xs).splitOn '/').map String.ofList) :
    ".." ∈ (ys.splitOn '/').map String.ofList := by
  cases xs with
  | nil => simpa using h
  | cons c rest =>
    obtain rfl := hxs c List.mem_cons_self
    rw [List.splitOn_append_cons_self, List.map_append, List.mem_append] at h
    rcases h with h | h
    · exact h
    · -- the pieces after the first slash are all empty
      obtain ⟨piece, hpiece, hdd⟩ := List.mem_map.mp h
      rw [splitOn_slashes (fun d hd => hxs d (List.mem_cons_of_mem _ hd)) piece hpiece] at hdd
      exact absurd hdd (by decide)

/-- **Trimming the slashes that end a path keeps its `..` pieces.** -/
theorem trimTrailingSlash_traverses {path : String} (h : Traverses path) :
    Traverses (trimTrailingSlash path) := by
  -- the path is its trimmed text followed by slashes
  have hsplit : path.toList = (path.toList.reverse.dropWhile (· == '/')).reverse ++
      (path.toList.reverse.takeWhile (· == '/')).reverse := by
    rw [← List.reverse_append, List.takeWhile_append_dropWhile, List.reverse_reverse]
  have hslashes : ∀ c ∈ (path.toList.reverse.takeWhile (· == '/')).reverse, c = '/' := by
    intro c hc
    simpa using List.mem_takeWhile_imp (List.mem_reverse.mp hc)
  unfold Traverses at h ⊢
  rw [splitToList_slash, hsplit] at h
  have hkept := dotDot_mem_of_append_slashes hslashes h
  -- so the trimmed text is not empty, and it is what is kept
  have hne : (path.toList.reverse.dropWhile (· == '/')).reverse ≠ [] := by
    intro hnil
    rw [hnil, List.splitOn_nil] at hkept
    exact absurd hkept (by decide)
  have htrim : trimTrailingSlash path =
      String.ofList (path.toList.reverse.dropWhile (· == '/')).reverse := by
    simp [trimTrailingSlash, trimEndSlashes, hne]
  rw [htrim, splitToList_slash, String.toList_ofList]
  exact hkept

/-! ### Local files that cannot be published -/

theorem LocalFiles.walk_error {fs : LocalFiles} :
    ∀ {place : Place} {pieces : List String} {e : Error}, fs.walk place pieces = .error e →
      e.code = "IO_ERROR"
  | _, [], _, h => by simp [LocalFiles.walk] at h
  | place, piece :: rest, e, h => by
    unfold LocalFiles.walk at h
    split at h
    · cases h
      rfl
    · cases h
      rfl
    · dsimp only at h
      split at h
      · cases h
        rfl
      · exact LocalFiles.walk_error h

/-- **A local path that cannot be looked at blames the file.** -/
theorem LocalFiles.stat_error {fs : LocalFiles} {path : String} {e : Error}
    (h : fs.stat path = .error e) : e.code = "IO_ERROR" := by
  unfold LocalFiles.stat at h
  dsimp only at h
  split at h
  · cases h
    rfl
  · -- the walk failed, or it ended where a file was asked for as a directory
    split at h
    · next hwalk =>
      cases h
      exact LocalFiles.walk_error hwalk
    · split at h
      · cases h
        rfl
      · split at h
        · cases h
          rfl
        · cases h
      · cases h

theorem FileNode.new_error {fs : LocalFiles} {ws : Workspace} {path file : String}
    {versioning : Bool} {e : Error} (h : FileNode.new fs ws path file versioning = .error e) :
    e.code = "IO_ERROR" := by
  rw [FileNode.new] at h
  split at h
  · cases h
    exact LocalFiles.stat_error (by assumption)
  · cases h
    rfl
  · split at h
    · next hname =>
      cases h
      unfold fileName at hname
      split at hname <;> cases hname
      rfl
    · cases h

theorem FileNode.new_fields {fs : LocalFiles} {ws : Workspace} {path file : String}
    {versioning : Bool} {node : FileNode} (h : FileNode.new fs ws path file versioning = .ok node) :
    node.workspace = ws ∧ node.path = path := by
  rw [FileNode.new] at h
  split at h
  · cases h
  · cases h
  · split at h
    · cases h
    · cases h
      exact ⟨rfl, rfl⟩

/-- **The node of a local path that cannot be read, is a directory, or has
no usable name is refused**, and the refusal blames the file. -/
theorem FileNode.new_rejects {fs : LocalFiles} {file : String}
    (h : (∃ e, fs.stat file = .error e) ∨ fs.isDir file = true ∨ fileName? file = none)
    (ws : Workspace) (path : String) (versioning : Bool) :
    ∃ e, FileNode.new fs ws path file versioning = .error e := by
  rcases hstat : fs.stat file with e | ⟨place, entry⟩
  · exact ⟨e, by simp [FileNode.new, hstat]⟩
  · cases entry with
    | directory => exact ⟨directoryNotFile file, by simp [FileNode.new, hstat]⟩
    | file bytes modified =>
      -- a regular file: only its name can be at fault
      have hname : fileName? file = none := by
        rcases h with ⟨e, he⟩ | hdir | hname
        · rw [hstat] at he
          cases he
        · simp [LocalFiles.isDir, hstat] at hdir
        · exact hname
      exact ⟨.io .invalidInput (file ++ " has no usable file name"),
        by simp [FileNode.new, hstat, fileName, hname]⟩

theorem fileName_of_none {file : String} (h : fileName? file = none) :
    fileName file = .error (.io .invalidInput (file ++ " has no usable file name")) := by
  simp [fileName, h]

/-! ### Each operation on bad input -/

namespace Session

variable {σ α β : Type} (t : Transport σ)

@[simp] theorem run_lift_error_bind (e : Error) (f : α → Session σ β) (w : World σ) :
    run (lift (.error e) >>= f) w = (.error e, w) := by
  rw [run_bind, run_lift]

@[simp] theorem run_lift_ok_bind (a : α) (f : α → Session σ β) (w : World σ) :
    run (lift (.ok a) >>= f) w = run (f a) w := by
  rw [run_bind, run_lift]

@[simp] theorem run_files_bind (f : LocalFiles → Session σ β) (w : World σ) :
    run (files >>= f) w = run (f w.files) w := by
  rw [run_bind, run_files]

/-- A failed attempt is reported as a status, with its cause. -/
theorem run_tryCatch_status {x : Session σ Unit} {w w' : World σ} {e : Error}
    (h : run x w = (.error e, w')) (message : String) :
    run (tryCatch (do x; return Status.ok) fun err => return Status.error message err) w =
      (.ok (Status.error message e), w') := by
  rw [run_tryCatch, run_bind, h]
  rfl

theorem tryPublish_rejects (ws : Workspace) {path file : String} (versioning : Bool)
    {w : World σ} (h : Traverses path ∨ (∃ e, w.files.stat file = .error e) ∨
      w.files.isDir file = true ∨ fileName? file = none) :
    ∃ e, run (tryPublish t ws path file versioning) w = (.error e, w) ∧ e.BlamesInput := by
  rcases hnode : FileNode.new w.files ws path file versioning with e | node
  · -- the local path is refused
    exact ⟨e, by simp [tryPublish, hnode], .inr (FileNode.new_error hnode)⟩
  · -- the file is a readable regular file, so the folder path traverses
    have htrav : Traverses path := by
      rcases h with htrav | hbad
      · exact htrav
      · obtain ⟨e, he⟩ := FileNode.new_rejects hbad ws path versioning
        rw [hnode] at he
        cases he
    obtain ⟨hws, hpath⟩ := FileNode.new_fields hnode
    have hurl : node.url = .error (.invalidUrl ("path traversal is not allowed: " ++ path)) := by
      rw [FileNode.url, Workspace.fileUrl, hws, hpath, itemUrl_of_traverses _ htrav]
    refine ⟨.invalidUrl ("path traversal is not allowed: " ++ path), ?_, .inl rfl⟩
    simp only [tryPublish, run_bind, run_files, run_lift, hnode, hurl]

theorem tryUnpublish_rejects (ws : Workspace) {path file : String} (w : World σ)
    (h : Traverses path ∨ fileName? file = none) :
    ∃ e, run (tryUnpublish t ws path file) w = (.error e, w) ∧ e.BlamesInput := by
  rcases hname : fileName? file with _ | name
  · exact ⟨.io .invalidInput (file ++ " has no usable file name"), by simp [tryUnpublish, fileName_of_none hname], .inr rfl⟩
  · have htrav : Traverses path := h.resolve_right (by simp [hname])
    have hfile : fileName file = .ok name := by simp [fileName, hname]
    refine ⟨.invalidUrl ("path traversal is not allowed: " ++ path), ?_, .inl rfl⟩
    simp [tryUnpublish, hfile, Workspace.fileUrl, itemUrl_of_traverses _ htrav]

theorem fileExists_rejects (ws : Workspace) {path file : String} {w : World σ}
    (h : Traverses path ∨ w.files.isDir file = true ∨ fileName? file = none) :
    ∃ e, run (fileExists t file ws path) w = (.error e, w) ∧ e.BlamesInput := by
  by_cases hdir : w.files.isDir file = true
  · exact ⟨directoryNotFile file, by simp [fileExists, fileUrl, hdir], .inr rfl⟩
  · rcases hname : fileName? file with _ | name
    · exact ⟨.io .invalidInput (file ++ " has no usable file name"),
        by simp [fileExists, fileUrl, hdir, fileName_of_none hname], .inr rfl⟩
    · have htrav : Traverses path := by
        rcases h with htrav | hdir' | hnone
        · exact htrav
        · exact (hdir hdir').elim
        · rw [hname] at hnone
          cases hnone
      have hfile : fileName file = .ok name := by simp [fileName, hname]
      refine ⟨.invalidUrl ("path traversal is not allowed: " ++ path), ?_, .inl rfl⟩
      simp [fileExists, fileUrl, hdir, hfile, Workspace.fileUrl, itemUrl_of_traverses _ htrav]

theorem getFileContents_rejects (ws : Workspace) {path file : String} (w : World σ)
    (h : Traverses path ∨ fileName? file = none) :
    ∃ e, run (getFileContents t ws path file) w = (.error e, w) ∧ e.BlamesInput := by
  rcases hname : fileName? file with _ | name
  · exact ⟨.io .invalidInput (file ++ " has no usable file name"), by simp [getFileContents, fileName_of_none hname], .inr rfl⟩
  · have htrav : Traverses path := h.resolve_right (by simp [hname])
    have hfile : fileName file = .ok name := by simp [fileName, hname]
    refine ⟨.invalidUrl ("path traversal is not allowed: " ++ path), ?_, .inl rfl⟩
    simp [getFileContents, hfile, itemUrl_of_traverses _ htrav]

theorem tryUnmark_rejects (ws : Workspace) {path : String} (h : Traverses path) (w : World σ) :
    ∃ e, run (tryUnmark t ws path) w = (.error e, w) ∧ e.BlamesInput := by
  have hurl := itemUrl_of_traverses ws (trimTrailingSlash_traverses h) []
  refine ⟨.invalidUrl ("path traversal is not allowed: " ++ trimTrailingSlash path), ?_, .inl rfl⟩
  simp [tryUnmark, FolderNode.unmarkedAsPublishArea, FolderNode.url, FolderNode.new, hurl]

theorem run_ensureFolderExists_of_error (ws : Workspace) {path : String} {e : Error}
    (h : segmentsOf path = .error e) (w : World σ) :
    run (ensureFolderExists t ws path) w = (.error e, w) := by
  simp [ensureFolderExists, h]

theorem run_ensureFolderExists_of_nil (ws : Workspace) {path : String}
    (h : segmentsOf path = .ok []) (w : World σ) :
    run (ensureFolderExists t ws path) w = (.ok (), w) := by
  simp [ensureFolderExists, h]

/-- **Marking a folder whose path traverses** first makes the parent of the
trimmed path exist, and then refuses the folder's URL: its run is that of
making the parent exist, ended by the refusal. -/
theorem tryMark_of_traverses (ws : Workspace) {path : String} (title description : Option String)
    (h : Traverses path) (w : World σ) :
    run (tryMark t ws path title description) w =
      (match (run (ensureFolderExists t ws (parentOf (trimTrailingSlash path))) w).1 with
        | .ok _ => .error (.invalidUrl ("path traversal is not allowed: " ++ trimTrailingSlash path))
        | .error e => .error e,
        (run (ensureFolderExists t ws (parentOf (trimTrailingSlash path))) w).2) := by
  have hurl := itemUrl_of_traverses ws (trimTrailingSlash_traverses h) []
  simp only [tryMark, run_bind]
  rcases run (ensureFolderExists t ws (parentOf (trimTrailingSlash path))) w with ⟨_ | _, w'⟩
  · rfl
  · simp [FolderNode.markedAsPublishArea, FolderNode.url, FolderNode.new, hurl]

/-- **Marking a folder whose path traverses never succeeds.** It leaves the
world as making the parent of the trimmed path exist leaves it, and fails
with that failure or, after it, with the refusal of the folder's URL. -/
theorem markAsPublishArea_of_traverses (ws : Workspace) {path : String}
    (title description : Option String) (h : Traverses path) (w : World σ) :
    ∃ message e, run (markAsPublishArea t ws path title description) w =
        (.ok (Status.error message e),
          (run (ensureFolderExists t ws (parentOf (trimTrailingSlash path))) w).2) ∧
      (e.BlamesInput ∨ (run (ensureFolderExists t ws (parentOf (trimTrailingSlash path))) w).1 = .error e) := by
  have hmark := tryMark_of_traverses t ws title description h w
  rcases hrun : run (ensureFolderExists t ws (parentOf (trimTrailingSlash path))) w with ⟨e | _, w'⟩
  · -- making the parent exist failed
    rw [hrun] at hmark
    exact ⟨_, _, run_tryCatch_status hmark _, .inr rfl⟩
  · -- it succeeded, and the folder's URL is refused
    rw [hrun] at hmark
    exact ⟨_, _, run_tryCatch_status hmark _, .inl (.inl rfl)⟩

/-- Marking a folder whose path traverses sends nothing when the parent of
the trimmed path traverses too, or has no segment. -/
theorem markAsPublishArea_rejects (ws : Workspace) {path : String}
    (title description : Option String) (h : Traverses path)
    (hparent : Traverses (parentOf (trimTrailingSlash path)) ∨
      segmentsOf (parentOf (trimTrailingSlash path)) = .ok []) (w : World σ) :
    ∃ message e, run (markAsPublishArea t ws path title description) w =
      (.ok (Status.error message e), w) ∧ e.BlamesInput := by
  obtain ⟨message, e, hrun, hcause⟩ := markAsPublishArea_of_traverses t ws title description h w
  rcases hparent with htrav | hnil
  · -- making the parent exist is refused at once
    have hens := run_ensureFolderExists_of_error t ws (segmentsOf_of_dotDot htrav) w
    rw [hens] at hrun hcause
    refine ⟨message, e, hrun, hcause.elim id fun he => ?_⟩
    cases he
    exact .inl rfl
  · -- the parent is the items root: nothing to make exist
    have hens := run_ensureFolderExists_of_nil t ws hnil w
    rw [hens] at hrun hcause
    refine ⟨message, e, hrun, hcause.elim id fun he => ?_⟩
    cases he

end Session

open Session

/-- **The publishing operations refuse bad input before they talk to the
server.** Over every transport and from every world: publishing a file
whose folder path has a `..` piece, or whose local path cannot be read, is
a directory or has no usable name; unpublishing, or reading the published
bytes, with such a folder path or a local path without a usable name;
asking whether a file is published with such a folder path or a local path
that is a directory or has no usable name; and unmarking a folder whose path
has a `..` piece: each sends nothing, leaves the world as it was, and
reports the failure with a cause that blames the URL or the local file.
Marking a folder whose path has a `..` piece fails too; it sends nothing
when the parent of its trimmed path has a `..` piece or no segment, and
otherwise it first makes that parent exist, sending what that sends. -/
theorem operations_reject_bad_input {σ : Type} (t : Transport σ) (ws : Workspace) (w : World σ) :
    (∀ path file versioning, Traverses path ∨ (∃ e, w.files.stat file = .error e) ∨
        w.files.isDir file = true ∨ fileName? file = none →
      ∃ message e, run (publishVersioned t ws path file versioning) w =
        (.ok (Status.error message e), w) ∧ e.BlamesInput) ∧
    (∀ path file, Traverses path ∨ (∃ e, w.files.stat file = .error e) ∨
        w.files.isDir file = true ∨ fileName? file = none →
      ∃ message e, run (publish t ws path file) w = (.ok (Status.error message e), w) ∧
        e.BlamesInput) ∧
    (∀ path file, Traverses path ∨ fileName? file = none →
      ∃ message e, run (unpublish t ws path file) w = (.ok (Status.error message e), w) ∧
        e.BlamesInput) ∧
    (∀ path file, Traverses path ∨ w.files.isDir file = true ∨ fileName? file = none →
      ∃ e, run (fileExists t file ws path) w = (.error e, w) ∧ e.BlamesInput) ∧
    (∀ path file, Traverses path ∨ fileName? file = none →
      ∃ e, run (getFileContents t ws path file) w = (.error e, w) ∧ e.BlamesInput) ∧
    (∀ path, Traverses path →
      ∃ message e, run (unmarkAsPublishArea t ws path) w = (.ok (Status.error message e), w) ∧
        e.BlamesInput) ∧
    (∀ path title description, Traverses path →
      (∃ message e, run (markAsPublishArea t ws path title description) w =
          (.ok (Status.error message e),
            (run (ensureFolderExists t ws (parentOf (trimTrailingSlash path))) w).2) ∧
        (e.BlamesInput ∨
          (run (ensureFolderExists t ws (parentOf (trimTrailingSlash path))) w).1 = .error e)) ∧
      (Traverses (parentOf (trimTrailingSlash path)) ∨
          segmentsOf (parentOf (trimTrailingSlash path)) = .ok [] →
        ∃ message e, run (markAsPublishArea t ws path title description) w =
          (.ok (Status.error message e), w) ∧ e.BlamesInput)) := by
  -- each refused attempt is reported as an error status
  have hpublish : ∀ path file versioning, Traverses path ∨ (∃ e, w.files.stat file = .error e) ∨
      w.files.isDir file = true ∨ fileName? file = none →
      ∃ message e, run (publishVersioned t ws path file versioning) w =
        (.ok (Status.error message e), w) ∧ e.BlamesInput := by
    intro path file versioning h
    obtain ⟨e, hrun, hcause⟩ := tryPublish_rejects t ws versioning h
    exact ⟨_, e, run_tryCatch_status hrun _, hcause⟩
  refine ⟨hpublish, fun path file h => hpublish path file false h, ?unpublish,
    fun _ _ h => fileExists_rejects t ws h, fun _ _ h => getFileContents_rejects t ws w h, ?unmark,
    fun _ title description h => ⟨markAsPublishArea_of_traverses t ws title description h w,
      fun hparent => markAsPublishArea_rejects t ws title description h hparent w⟩⟩
  case unpublish =>
    intro path file h
    obtain ⟨e, hrun, hcause⟩ := tryUnpublish_rejects t ws w h
    refine ⟨"failed to unpublish " ++ file ++ " from " ++ path ++ " in workspace " ++ ws.display, e,
      ?_, hcause⟩
    rw [unpublish, run_tryCatch, hrun]
    rfl
  case unmark =>
    intro path h
    obtain ⟨e, hrun, hcause⟩ := tryUnmark_rejects t ws h w
    exact ⟨_, e, run_tryCatch_status hrun _, hcause⟩

/-- Marking `/../a`, whose parent `/..` climbs too, sends nothing to the
in-memory repository and is refused. -/
theorem markAsPublishArea_above_root_sends_nothing :
    let ws : Workspace :=
      ⟨"default", ⟨"repo", Server.new "http://localhost:8080/resources" "admin" "admin"⟩⟩
    let w : World MemoryRepository := ⟨MemoryRepository.initial, LocalFiles.empty, []⟩
    Traverses "/../a" ∧ Traverses (parentOf (trimTrailingSlash "/../a")) ∧
      ∃ message e, run (markAsPublishArea MemoryRepository.transport ws "/../a" none none) w =
        (.ok (Status.error message e), w) ∧ e.BlamesInput := by
  intro ws w
  have h : Traverses "/../a" := by
    unfold Traverses
    decide +kernel
  have hparent : Traverses (parentOf (trimTrailingSlash "/../a")) := by
    unfold Traverses
    decide +kernel
  exact ⟨h, hparent,
    ((operations_reject_bad_input MemoryRepository.transport ws w).2.2.2.2.2.2 "/../a" none none h).2
      (.inl hparent)⟩

end ContentPublish

/-! ## Validating a server, and validating it again

Validation forgets any earlier validation of the server, reads the
discovery document at the server's own URL, and learns the protocol from
the answer. So it depends on the server only through the server as it was
before validation, which validation leaves as it found it: validating a
validated server is validating the server it came from. Against a
transport whose answer depends only on the request, a second validation
sends the same request, gets the same answer, and settles on the same
server, whatever happened in between.
-/

namespace ContentPublish

namespace Server

@[simp] theorem unvalidated_asValidated (s : Server) (base : String) (p : ProtocolVersion) :
    (s.asValidated base p).unvalidated = s.unvalidated := rfl

@[simp] theorem unvalidated_unvalidated (s : Server) : s.unvalidated.unvalidated = s.unvalidated :=
  rfl

@[simp] theorem url_asValidated (s : Server) (base : String) (p : ProtocolVersion) :
    (s.asValidated base p).url = s.url := rfl

@[simp] theorem user_asValidated (s : Server) (base : String) (p : ProtocolVersion) :
    (s.asValidated base p).user = s.user := rfl

@[simp] theorem password_asValidated (s : Server) (base : String) (p : ProtocolVersion) :
    (s.asValidated base p).password = s.password := rfl

@[simp] theorem url_unvalidated (s : Server) : s.unvalidated.url = s.url := rfl

@[simp] theorem user_unvalidated (s : Server) : s.unvalidated.user = s.user := rfl

@[simp] theorem password_unvalidated (s : Server) : s.unvalidated.password = s.password := rfl

end Server

/-- What validation settles on from the answer to its discovery request:
the failure to connect, a status other than `200`, a document it cannot
read, or the server validated with the protocol the document speaks. -/
def validateOutcome (s : Server) : Except Error Response → Except Error Server
  | .error err => .error (.validation s.url ("server is unreachable: " ++ err.message))
  | .ok resp =>
    if resp.status != statusOk then
      .error (.validation s.url ("discovery returned status " ++ toString resp.status))
    else
      match determineVersion resp.body with
      | .error e => .error e
      | .ok .v1 => .ok (s.unvalidated.asValidated s.url .v1)
      | .ok .v2 => .ok (s.unvalidated.asValidated (trimEndSlashes s.url ++ "/v1") .v2)

namespace Session

variable {σ : Type} (t : Transport σ)

/-- Validation starts from the server as it was before any validation. -/
theorem validate_unvalidated (s : Server) : validate t s.unvalidated = validate t s := rfl

/-- **A validated server validates as the server it came from.** -/
theorem validate_asValidated (s : Server) (base : String) (p : ProtocolVersion) :
    validate t (s.asValidated base p) = validate t s := by
  rw [← validate_unvalidated t s, ← validate_unvalidated t (s.asValidated base p),
    Server.unvalidated_asValidated]

/-- **One run of validation.** When the discovery URL of the server, before
validation, cannot be built, nothing is sent and that is the failure.
Otherwise one `GET` of it is sent with the server's user, and the answer
decides the outcome. -/
theorem run_validate (s : Server) (w : World σ) :
    run (validate t s) w =
      match s.unvalidated.discoveryUrl with
      | .error e => (.error e, w)
      | .ok u =>
        (validateOutcome s (t.respond s.unvalidated (Request.get u) w.remote).1,
          { w with remote := (t.respond s.unvalidated (Request.get u) w.remote).2,
                   sent := w.sent ++ [Sent.mk s.user (Request.get u)] }) := by
  unfold validate
  cases hu : s.unvalidated.discoveryUrl with
  | error e => simp only [Descriptor.url, hu, run_lift_error_bind]
  | ok u =>
    rcases hr : t.respond s.unvalidated (Request.get u) w.remote with ⟨answer, st⟩
    simp only [Descriptor.url, hu, run_lift_ok_bind]
    rw [run_bind, run_tryCatch, run_send, hr]
    cases answer with
    | error err => rfl
    | ok resp =>
      dsimp only
      simp only [validateOutcome, Server.url_unvalidated, Server.user_unvalidated]
      split
      · simp only [run_bind, run_throw]
      · cases hv : determineVersion resp.body with
        | error e => simp only [run_bind, run_lift]
        | ok p => cases p <;> simp only [run_bind, run_lift, run_pure]

end Session

/-- Validation settles only on the server it was given, validated. -/
theorem validateOutcome_ok {s v : Server} {answer : Except Error Response}
    (h : validateOutcome s answer = .ok v) : ∃ base p, v = s.unvalidated.asValidated base p := by
  unfold validateOutcome at h
  split at h
  · cases h
  · split at h
    · cases h
    · split at h
      · cases h
      · exact ⟨_, _, (Except.ok.inj h).symm⟩
      · exact ⟨_, _, (Except.ok.inj h).symm⟩

/-- **Validating once, and again.** When the discovery URL of the server,
before validation, cannot be built, validation sends nothing and fails.
Otherwise it sends one `GET` of that URL with the server's user; and when it
settles on a server, that server keeps the URL, user and password, and
validating it again, from any later state of a transport whose answer
depends only on the request, sends that same request and settles on that
same server. -/
theorem validate_again_settles_same_server {σ : Type} (t : Transport σ)
    (hdet : ∀ (a b : Server) (r : Request) (x y : σ), (t.respond a r x).1 = (t.respond b r y).1)
    (s : Server) (w : World σ) :
    (∀ e, s.unvalidated.discoveryUrl = .error e →
      Session.run (Session.validate t s) w = (.error e, w)) ∧
    ∀ u, s.unvalidated.discoveryUrl = .ok u →
      (Session.run (Session.validate t s) w).2.sent = w.sent ++ [⟨s.user, Request.get u⟩] ∧
      ∀ v, (Session.run (Session.validate t s) w).1 = .ok v →
        v.url = s.url ∧ v.user = s.user ∧ v.password = s.password ∧
        ∀ w' : World σ, (Session.run (Session.validate t v) w').1 = .ok v ∧
          (Session.run (Session.validate t v) w').2.sent = w'.sent ++ [⟨s.user, Request.get u⟩] := by
  refine ⟨fun e he => by rw [Session.run_validate, he], fun u hu => ?_⟩
  rw [Session.run_validate, hu]
  dsimp only
  refine ⟨rfl, fun v hv => ?_⟩
  obtain ⟨base, p, rfl⟩ := validateOutcome_ok hv
  refine ⟨rfl, rfl, rfl, fun w' => ?_⟩
  -- the second run is a run of the same validation, and gets the same answer
  rw [Session.validate_asValidated, Session.validate_unvalidated, Session.run_validate, hu]
  dsimp only
  refine ⟨?_, rfl⟩
  rw [← hv, hdet s.unvalidated s.unvalidated (Request.get u) w'.remote w.remote]


/-- A server whose URL is no URL at all is refused before anything is sent. -/
theorem validate_unparsable_url_sends_nothing :
    let t : Transport Unit := ⟨fun _ _ _ => (.ok ⟨200, ""⟩, ())⟩
    Session.run (Session.validate t (Server.new "no url" "u" "p")) ⟨(), LocalFiles.empty, []⟩ =
      (.error (.invalidUrl "no url: relative URL without a base"), ⟨(), LocalFiles.empty, []⟩) := by
  intro t
  have hurl : (Server.new "no url" "u" "p").unvalidated.discoveryUrl =
      .error (.invalidUrl "no url: relative URL without a base") := by
    decide +kernel
  rw [Session.run_validate, hurl]

/-- Validating a local server against a transport that answers every
request with a second-protocol discovery document. -/
theorem validate_again_local_server :
    let t : Transport Unit := ⟨fun _ _ _ => (.ok ⟨200, "\x7b\"repositories\":[]\x7d"⟩, ())⟩
    let s := Server.new "a:/" "u" "p"
    (∀ (a b : Server) (r : Request) (x y : Unit), (t.respond a r x).1 = (t.respond b r y).1) ∧
    ((∀ e, s.unvalidated.discoveryUrl = .error e →
      Session.run (Session.validate t s) ⟨(), LocalFiles.empty, []⟩ =
        (.error e, ⟨(), LocalFiles.empty, []⟩)) ∧
    ∀ u, s.unvalidated.discoveryUrl = .ok u →
      (Session.run (Session.validate t s) ⟨(), LocalFiles.empty, []⟩).2.sent =
        [] ++ [⟨s.user, Request.get u⟩] ∧
      ∀ v, (Session.run (Session.validate t s) ⟨(), LocalFiles.empty, []⟩).1 = .ok v →
        v.url = s.url ∧ v.user = s.user ∧ v.password = s.password ∧
        ∀ w' : World Unit, (Session.run (Session.validate t v) w').1 = .ok v ∧
          (Session.run (Session.validate t v) w').2.sent = w'.sent ++ [⟨s.user, Request.get u⟩]) := by
  intro t s
  have hdet : ∀ (a b : Server) (r : Request) (x y : Unit), (t.respond a r x).1 = (t.respond b r y).1 :=
    fun _ _ _ _ _ => rfl
  exact ⟨hdet, validate_again_settles_same_server t hdet s ⟨(), LocalFiles.empty, []⟩⟩

end ContentPublish
