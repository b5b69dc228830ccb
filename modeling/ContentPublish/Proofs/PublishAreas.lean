import ContentPublish.Proofs.Publishing

/-
  Publish areas on a tree server

  Marking the folder at a path trims the path's trailing slashes, makes the
  folder's parent exist, and then reads the folder: it is updated when the
  read answered `200` and created otherwise, with the marked document as its
  body. The parent is found by cutting the path at its last slash, while a
  URL comes from a path's segments. The two agree: the parent's segments are
  the folder's without the last one, or all of them when the last piece is
  empty or `.`. Unmarking reads the folder and only when it is there updates
  it with a document whose list of mixins is empty.

  From a store closed under parents that holds the items root, marking a
  folder none of whose segments reads `..` once its tabs and line breaks are
  dropped succeeds: the store gains the missing prefixes of the folder,
  parents first, and keeps the marked document at the folder. A folder that
  is there already is updated once and nothing is created. Unmarking it
  afterwards writes the unmarked document over the marked one; unmarking a
  folder that is not there writes nothing.

  What is stated here:
    1. `parentOf_of_last_slash` and `segmentsOf_parentOf` — the parent of a
       path and its segments; `FolderLayout.of_parentOf` — the URLs of a
       folder and of its parent.
    2. `FolderNode.markedJson` and `FolderNode.unmarkedJson` — the documents
       written for a marked and an unmarked folder; `FolderNode.keepText_some`
       — a title or a description is kept, trimmed, unless it is blank.
    3. `writeFolder_present`, `writeFolder_absent` and `tryMark_marks` —
       marking a folder.
    4. `unmarkAsPublishArea_present` and `unmarkAsPublishArea_absent`.
    5. `markAsPublishArea_marks_folder` — marking, then unmarking.
-/

namespace ContentPublish

/-! ## The parent of a folder path -/

/-- A text has no slash, or splits at its last one. -/
theorem last_slash (cs : List Char) :
    '/' ∉ cs ∨ ∃ pre post, cs = pre ++ '/' :: post ∧ '/' ∉ post := by
  induction cs using List.reverseRecOn with
  | nil => exact .inl List.not_mem_nil
  | append_singleton l c ih =>
    by_cases hc : c = '/'
    · exact .inr ⟨l, [], by rw [hc], List.not_mem_nil⟩
    · rcases ih with hl | ⟨pre, post, rfl, hpost⟩
      · exact .inl (by simp [hl, Ne.symm hc])
      · exact .inr ⟨pre, post ++ [c], by simp, by simp [hpost, Ne.symm hc]⟩

/-- A path without a slash has the root as its parent. -/
theorem parentOf_of_not_mem {path : String} (h : '/' ∉ path.toList) : parentOf path = "/" := by
  have hnone : path.toList.reverse.findIdx? (· == '/') = none :=
    List.findIdx?_eq_none_iff.mpr fun c hc => by
      have hne : c ≠ '/' := fun heq => h (List.mem_reverse.mp (heq ▸ hc))
      simpa using hne
  simp only [parentOf, hnone]

/-- The parent of a path is the text before its last slash, or the root when
nothing stands before it. -/
theorem parentOf_of_last_slash {path : String} {pre post : List Char}
    (h : path.toList = pre ++ '/' :: post) (hpost : '/' ∉ post) :
    parentOf path = if pre = [] then "/" else String.ofList pre := by
  have hother : ∀ c ∈ post.reverse, (c == '/') = false := by
    intro c hc
    have hne : c ≠ '/' := fun heq => hpost (List.mem_reverse.mp (heq ▸ hc))
    simpa using hne
  have hfind : path.toList.reverse.findIdx? (· == '/') = some post.length := by
    rw [h, List.reverse_append, List.reverse_cons, List.append_assoc, List.singleton_append,
      List.findIdx?_append, List.findIdx?_eq_none_iff.mpr hother]
    simp [List.findIdx?_cons]
  have hlen : path.toList.length - 1 - post.length = pre.length := by
    rw [h]
    simp
  simp only [parentOf, hfind]
  rw [hlen, h, List.take_left' rfl]
  simp only [List.length_eq_zero_iff]

/-- The pieces of a path cut at its slashes that stand as segments: all but
the empty ones and `.`. -/
def pathPieces (cs : List Char) : List String :=
  ((cs.splitOn '/').map String.ofList).filter fun p => p != "" && p != "."

theorem segmentsOf_eq_ok_iff {path : String} {segs : List String} :
    segmentsOf path = .ok segs ↔ ".." ∉ pathPieces path.toList ∧ pathPieces path.toList = segs := by
  rw [segmentsOf_eq]
  by_cases h : ".." ∈ pathPieces path.toList
  · simp only [pathPieces] at h
    simp [h, pathPieces]
  · simp only [pathPieces] at h
    simp [h, pathPieces]

/-- Cutting at the last slash gives the pieces before it and the text after
it. -/
theorem splitOn_last_slash (pre : List Char) {post : List Char} (hpost : '/' ∉ post) :
    (pre ++ '/' :: post).splitOn '/' = pre.splitOn '/' ++ [post] := by
  rw [List.splitOn_eq_splitOnP, List.splitOnP_append_cons _ _ (by simp),
    ← List.splitOn_eq_splitOnP, ← List.splitOn_eq_splitOnP, List.splitOn_eq_singleton hpost]

/-- Cutting at the last slash keeps the pieces before it and adds the last
one, unless it is empty or `.`. -/
theorem pathPieces_last_slash (pre : List Char) {post : List Char} (hpost : '/' ∉ post) :
    pathPieces (pre ++ '/' :: post) =
      pathPieces pre ++ [String.ofList post].filter fun p => p != "" && p != "." := by
  simp [pathPieces, splitOn_last_slash pre hpost, List.filter_append]

theorem pathPieces_nil : pathPieces [] = [] := by
  simp [pathPieces, List.splitOn_nil]

theorem pathPieces_root : pathPieces "/".toList = [] := by
  simpa [pathPieces_nil] using pathPieces_last_slash [] List.not_mem_nil

/-- The last piece of a path cut at its slashes holds no slash, and is the
whole path or what follows its last slash. -/
theorem getLast?_splitToList_slash (path : String) :
    ∃ last, (path.splitToList (· == '/')).getLast? = some last ∧ '/' ∉ last.toList ∧
      (path = last ∨ ∃ pre, path.toList = pre ++ '/' :: last.toList) := by
  rcases last_slash path.toList with hnot | ⟨pre, post, hsplit, hpost⟩
  · refine ⟨path, ?_, hnot, .inl rfl⟩
    rw [splitToList_slash, List.splitOn_eq_singleton hnot]
    simp
  · refine ⟨String.ofList post, ?_, by simpa using hpost, .inr ⟨pre, by simpa using hsplit⟩⟩
    rw [splitToList_slash, hsplit, splitOn_last_slash pre hpost]
    simp

/-- The pieces of a path are those of its parent followed by its last piece,
unless that is empty or `.`. -/
theorem pathPieces_eq_parentOf_append (path : String) :
    ∃ last, (path.splitToList (· == '/')).getLast? = some last ∧
      pathPieces path.toList =
        pathPieces (parentOf path).toList ++ [last].filter fun p => p != "" && p != "." := by
  obtain ⟨last, hlast, hnot, rfl | ⟨pre, hsplit⟩⟩ := getLast?_splitToList_slash path
  · -- no slash: the parent is the root, and the path is one piece
    refine ⟨path, hlast, ?_⟩
    rw [parentOf_of_not_mem hnot, pathPieces_root, List.nil_append, pathPieces,
      List.splitOn_eq_singleton hnot]
    simp
  · -- the parent is the text before the last slash, the root standing for nothing
    have hparent : pathPieces (parentOf path).toList = pathPieces pre := by
      rw [parentOf_of_last_slash hsplit hnot]
      by_cases hpre : pre = []
      · rw [if_pos hpre, pathPieces_root, hpre, pathPieces_nil]
      · rw [if_neg hpre, String.toList_ofList]
    refine ⟨last, hlast, ?_⟩
    rw [hparent, hsplit, pathPieces_last_slash pre hnot, String.ofList_toList]

/-- The pieces of a path are those of its parent and at most one more. -/
theorem pathPieces_parentOf (path : String) :
    ∃ tail, pathPieces path.toList = pathPieces (parentOf path).toList ++ tail ∧ tail.length ≤ 1 := by
  obtain ⟨last, -, hpieces⟩ := pathPieces_eq_parentOf_append path
  exact ⟨_, hpieces, List.length_filter_le _ _⟩

/-- **The parent of a folder path has the folder's segments**, but for at
most the last one. -/
theorem segmentsOf_parentOf {path : String} {segs : List String} (h : segmentsOf path = .ok segs) :
    ∃ parentSegs tail, segmentsOf (parentOf path) = .ok parentSegs ∧ segs = parentSegs ++ tail ∧
      tail.length ≤ 1 := by
  obtain ⟨hdd, rfl⟩ := segmentsOf_eq_ok_iff.mp h
  obtain ⟨tail, hpieces, htail⟩ := pathPieces_parentOf path
  rw [hpieces] at hdd ⊢
  exact ⟨_, tail, segmentsOf_eq_ok_iff.mpr ⟨fun hmem => hdd (List.mem_append_left _ hmem), rfl⟩,
    rfl, htail⟩

/-- The layouts of a folder none of whose segments reads `..` and of its
parent: the folder adds to the parent's added segments at most one more. -/
theorem FolderLayout.of_parentOf {ws : Workspace} {items : Url} {base : List String}
    (hitems : ws.itemUrl "" [] = .ok items) (hbase : items.path = .segments base)
    {path : String} {segs : List String} (hsegs : segmentsOf path = .ok segs)
    (hplain : ∀ s ∈ segs, Url.keptChars s ≠ ['.', '.']) :
    ∃ parentSegs adds more, FolderLayout ws (parentOf path) items base parentSegs adds ∧
      FolderLayout ws path items base segs (adds ++ more) ∧ more.length ≤ 1 := by
  obtain ⟨parentSegs, tail, hparent, rfl, htail⟩ := segmentsOf_parentOf hsegs
  refine ⟨parentSegs, _, tail.map (Url.addedSegment (Url.isSpecialScheme items.scheme)),
    FolderLayout.of_plain hitems hbase hparent fun s hs => hplain s (List.mem_append_left _ hs),
    ?_, by simpa using htail⟩
  simpa using FolderLayout.of_plain hitems hbase hsegs hplain

/-! ## The documents of a publish area -/

namespace FolderNode

/-- The document of a folder marked as a publish area with the title and
description kept: its properties in key order, so the description comes
first and the title last. -/
def markedJson (title description : Option String) : Json.Value :=
  .object [("properties", .object (
    (description.map fun d => (Jcr.description, Json.Value.string d)).toList ++
      [(Jcr.mixinTypes, .array [.string Jcr.publishAreaType]),
        (Jcr.primaryType, .string Jcr.folderType)] ++
      (title.map fun t => (Jcr.title, Json.Value.string t)).toList))]

/-- The document of an unmarked folder: an empty list of mixins, which the
server reads as dropping them. -/
def unmarkedJson : Json.Value :=
  .object [("properties", .object [(Jcr.mixinTypes, .array []),
    (Jcr.primaryType, .string Jcr.folderType)])]

/-- How the property names of a folder compare, which fixes where the
document's writer puts them. -/
theorem folderKeys_order : Jcr.description < Jcr.mixinTypes ∧ Jcr.mixinTypes < Jcr.primaryType ∧
    Jcr.description < Jcr.title ∧ ¬ Jcr.title < Jcr.primaryType ∧ ¬ Jcr.title < Jcr.description ∧
    ¬ Jcr.title < Jcr.mixinTypes ∧ Jcr.title ≠ Jcr.primaryType ∧ Jcr.title ≠ Jcr.mixinTypes ∧
    Jcr.title ≠ Jcr.description := by
  decide +kernel

@[simp] theorem url_markedAsPublishArea (f : FolderNode) (title description : Option String) :
    (f.markedAsPublishArea title description).url = f.url := rfl

@[simp] theorem url_unmarkedAsPublishArea (f : FolderNode) : f.unmarkedAsPublishArea.url = f.url := rfl

theorem document_markedAsPublishArea (f : FolderNode) (title description : Option String) :
    (f.markedAsPublishArea title description).document.toJson =
      markedJson (keepText title) (keepText description) := by
  obtain ⟨h₁, h₂, h₃, h₄, h₅, h₆, h₇, h₈, h₉⟩ := folderKeys_order
  simp only [markedAsPublishArea, document]
  -- one case for each of the title and the description being kept
  cases keepText title <;> cases keepText description <;>
    simp [markedJson, NodeDocument.toJson, NodeTree.toJson, NodeTree.propertiesJson,
      NodeDocument.new, NodeDocument.withMixin, NodeDocument.withMixins, NodeDocument.withProperty,
      NodeTree.withProperty, KeyMap.insert, KeyMap.empty, insertSorted, Json.Object.insert,
      Json.Value.ofStrings, h₁, h₂, h₃, h₄, h₅, h₆, h₇, h₈, h₉]

theorem document_unmarkedAsPublishArea (f : FolderNode) :
    f.unmarkedAsPublishArea.document.toJson = unmarkedJson := by
  simp [unmarkedAsPublishArea, document, unmarkedJson, NodeDocument.toJson, NodeTree.toJson,
    NodeTree.propertiesJson, NodeDocument.new, NodeDocument.withMixins, KeyMap.empty,
    Json.Object.insert, Json.Value.ofStrings, folderKeys_order.2.1]

end FolderNode

/-- Trimming leaves nothing exactly when every character is blank. -/
theorem Text.trimBlankList_eq_nil_iff {cs : List Char} :
    Text.trimBlankList cs = [] ↔ ∀ c ∈ cs, Text.isBlank c := by
  rw [← List.dropWhile_eq_nil_iff]
  constructor
  · intro h
    simp only [Text.trimBlankList, List.reverse_eq_nil_iff, List.dropWhile_eq_nil_iff,
      List.mem_reverse] at h
    -- what is left after the leading blanks starts with a character that is not blank
    by_contra hne
    exact absurd (h _ (List.head_mem hne)) (by simp [List.head_dropWhile_not Text.isBlank hne])
  · intro h
    simp [Text.trimBlankList, h]

/-- A text trims to nothing exactly when it is blank. -/
theorem Text.isEmpty_trimBlank (s : String) : (Text.trimBlank s).isEmpty = Text.isBlankText s := by
  rw [Bool.eq_iff_iff, String.isEmpty_iff, ← String.toList_inj, Text.trimBlank_toList,
    String.toList_empty, Text.trimBlankList_eq_nil_iff, Text.isBlankText, List.all_eq_true]

/-- **A title or a description is kept, trimmed, unless it is blank.** -/
theorem FolderNode.keepText_some (s : String) :
    FolderNode.keepText (some s) = if Text.isBlankText s then none else some (Text.trimBlank s) := by
  simp only [FolderNode.keepText, Text.isEmpty_trimBlank]

/-! ## Writing a folder -/

namespace Session

open MemoryRepository

/-- A write of a folder's body to its URL. -/
def folderWrite (method : Method) (u : Url) (body : List UInt8) : Request :=
  (Request.new method u).withBody jsonContentType body

/-- Write a folder: update it when a read finds it, and create it otherwise. -/
def writeFolder {σ : Type} (t : Transport σ) (ws : Workspace) (f : FolderNode) : Session σ Unit := do
  if ← pathExists t ws.server (← lift f.url) then
    updateNode t (.folder f)
  else
    createNode t (.folder f)

/-- Marking is making the parent exist, then writing the marked folder. -/
theorem tryMark_eq {σ : Type} (t : Transport σ) (ws : Workspace) (path : String)
    (title description : Option String) :
    tryMark t ws path title description =
      (do ensureFolderExists t ws (parentOf (trimTrailingSlash path))
          writeFolder t ws ((FolderNode.new ws (trimTrailingSlash path)).markedAsPublishArea
            title description)) := rfl

/-- Writing a folder node, answered with the status the write expects. -/
theorem run_writeFolderNode {σ : Type} (t : Transport σ) {f : FolderNode} {ws : Workspace}
    {u : Url} {method : Method} {expected : Nat} {operation : String} {w : World σ}
    {resp : Response} {s' : σ} (hws : f.workspace = ws) (hurl : f.url = .ok u)
    (hr : t.respond ws.server (folderWrite method u f.document.toBytes) w.remote = (.ok resp, s'))
    (hst : resp.status = expected) :
    run (writeNode t (.folder f) method expected operation) w =
      (.ok (), { w with remote := s', sent := w.sent ++
        [Sent.mk ws.server.user (folderWrite method u f.document.toBytes)] }) :=
  run_writeNode t (by simp [PathNode.workspace?, hws]) rfl
    (by simp [PathNode.writeUrl, PathNode.url, hurl]) hr hst

/-- **Updating a folder that is there** answers `200`, and the tree server
keeps the body at its path, whatever was sent before. -/
theorem run_updateFolder_present {w : World TreeServer} {ws : Workspace} {f : FolderNode}
    {u : Url} (hws : f.workspace = ws) (hurl : f.url = .ok u)
    (hin : u.pathText ∈ w.remote.repo.nodes) (sent : List Sent) :
    run (updateNode TreeServer.transport (.folder f)) { w with sent := sent } =
      (.ok (), { w with
        remote := w.remote.write u.pathText f.document.toBytes
        sent := sent ++ [Sent.mk ws.server.user (folderWrite .put u f.document.toBytes)] }) :=
  run_writeFolderNode TreeServer.transport hws hurl
    (TreeServer.respond_put_present ws.server rfl hin) rfl

/-- **Writing a folder that is there** reads it and updates it, keeping the
body at its path. -/
theorem writeFolder_present {w : World TreeServer} {ws : Workspace} {f : FolderNode} {u : Url}
    (hws : f.workspace = ws) (hurl : f.url = .ok u) (hin : u.pathText ∈ w.remote.repo.nodes) :
    let w' : World TreeServer := { w with
      remote := w.remote.write u.pathText f.document.toBytes
      sent := w.sent ++ [Sent.mk ws.server.user (Request.get u),
        Sent.mk ws.server.user (folderWrite .put u f.document.toBytes)] }
    run (writeFolder TreeServer.transport ws f) w = (.ok (), w') ∧
      Talked TreeServer.transport ws.server w w'
        [⟨Request.get u, .ok ⟨statusOk, ""⟩⟩, ⟨folderWrite .put u f.document.toBytes, .ok ⟨statusOk, ""⟩⟩] := by
  intro w'
  have hget : TreeServer.transport.respond ws.server (Request.get u) w.remote =
      (.ok ⟨statusOk, ""⟩, w.remote) :=
    TreeServer.respond_get_present ws.server hin
  refine ⟨?_, ⟨.cons hget (.cons (TreeServer.respond_put_present ws.server rfl hin) (.nil _)),
    by simp [w'], rfl⟩⟩
  simp only [writeFolder, run_bind, run_lift, hurl, run_pathExists _ hget, beq_self_eq_true,
    if_true]
  rw [run_updateFolder_present hws hurl hin, List.append_assoc]
  rfl

/-- **Writing a folder that is not there**, under a parent that is, reads it
and creates it, adding its path and keeping the body there. -/
theorem writeFolder_absent {w : World TreeServer} {ws : Workspace} {f : FolderNode} {u : Url}
    (hws : f.workspace = ws) (hurl : f.url = .ok u) (hnot : u.pathText ∉ w.remote.repo.nodes)
    (hparent : parentPath u.pathText ∈ w.remote.repo.nodes) :
    let w' : World TreeServer := { w with
      remote := w.remote.create u.pathText f.document.toBytes
      sent := w.sent ++ [Sent.mk ws.server.user (Request.get u),
        Sent.mk ws.server.user (folderWrite .post u f.document.toBytes)] }
    run (writeFolder TreeServer.transport ws f) w = (.ok (), w') ∧
      Talked TreeServer.transport ws.server w w'
        [⟨Request.get u, .ok ⟨404, ""⟩⟩, ⟨folderWrite .post u f.document.toBytes, .ok ⟨statusCreated, ""⟩⟩] := by
  intro w'
  have hget : TreeServer.transport.respond ws.server (Request.get u) w.remote =
      (.ok ⟨404, ""⟩, w.remote) :=
    TreeServer.respond_get_missing ws.server hnot
  have hpost : TreeServer.transport.respond ws.server (folderWrite .post u f.document.toBytes) w.remote =
      (.ok ⟨statusCreated, ""⟩, w.remote.create u.pathText f.document.toBytes) :=
    TreeServer.respond_post_fresh ws.server rfl hnot hparent
  have hwrite : run (createNode TreeServer.transport (.folder f))
      { w with sent := w.sent ++ [Sent.mk ws.server.user (Request.get u)] } =
      (.ok (), { w with
        remote := w.remote.create u.pathText f.document.toBytes
        sent := (w.sent ++ [Sent.mk ws.server.user (Request.get u)]) ++
          [Sent.mk ws.server.user (folderWrite .post u f.document.toBytes)] }) :=
    run_writeFolderNode TreeServer.transport hws hurl hpost rfl
  refine ⟨?_, ⟨.cons hget (.cons hpost (.nil _)), by simp [w'], rfl⟩⟩
  simp only [writeFolder, run_bind, run_lift, hurl, run_pathExists _ hget, statusOk,
    Nat.reduceBEq, Bool.false_eq_true, if_false]
  rw [hwrite, List.append_assoc]
  rfl

/-! ## Marking a folder -/

/-- The URLs a folder adds after those of its parent's prefixes: at most
one, the folder's own, which no prefix of the parent has. -/
theorem stepUrls_tail {items : Url} {base adds more : List String} (hmore : more.length ≤ 1) :
    ∀ v ∈ stepUrls items (base ++ adds) more,
      v = { items with path := .segments (base ++ (adds ++ more)) } ∧
        ∀ v' ∈ stepUrls items base adds, v'.pathText ≠ v.pathText := by
  match more, hmore with
  | [], _ => simp [stepUrls]
  | [a], _ =>
    intro v hv
    simp only [stepUrls, List.mem_singleton] at hv
    subst hv
    refine ⟨by simp, fun v' hv' => ?_⟩
    rw [pathText_segments]
    exact pathText_stepUrls_ne a hv'

theorem missing_append (nodes : List String) (l₁ l₂ : List Url) :
    missing nodes (l₁ ++ l₂) = missing nodes l₁ ++ missing nodes l₂ :=
  List.filter_append l₁ l₂

/-- URLs whose paths are there already add nothing to what a store gains. -/
theorem gained_append_of_present {nodes : List String} {urls more : List Url}
    (hmore : ∀ v ∈ more, v.pathText ∈ nodes) (q : String) :
    (q ∈ nodes ∨ ∃ v ∈ urls ++ more, v.pathText = q) ↔ (q ∈ nodes ∨ ∃ v ∈ urls, v.pathText = q) := by
  constructor
  · rintro (h | ⟨v, hv, rfl⟩)
    · exact .inl h
    · rcases List.mem_append.mp hv with hv | hv
      · exact .inr ⟨v, hv, rfl⟩
      · exact .inl (hmore v hv)
  · rintro (h | ⟨v, hv, hvq⟩)
    · exact .inl h
    · exact .inr ⟨v, List.mem_append_left _ hv, hvq⟩

/-- One more URL adds its own path to what a store gains. -/
theorem gained_append_singleton {nodes : List String} {urls : List Url} {u : Url} (q : String) :
    (q ∈ nodes ∨ ∃ v ∈ urls ++ [u], v.pathText = q) ↔
      (q = u.pathText ∨ q ∈ nodes ∨ ∃ v ∈ urls, v.pathText = q) := by
  simp only [List.mem_append, List.mem_singleton, or_and_right, exists_or, exists_eq_left]
  constructor
  · rintro (h | h | rfl)
    · exact .inr (.inl h)
    · exact .inr (.inr h)
    · exact .inl rfl
  · rintro (rfl | h | h)
    · exact .inr (.inr rfl)
    · exact .inl h
    · exact .inr (.inl h)

theorem createdUrls_folderWrite_put (u : Url) (body : List UInt8) (answer : Except Error Response)
    (xs : List Exchange) : createdUrls (⟨folderWrite .put u body, answer⟩ :: xs) = createdUrls xs := by
  simp [createdUrls, folderWrite, Request.withBody, Request.new]

/-- **Marking a folder** in a store that holds the items root and is closed
under parents, for a folder laid out under the items root that
adds at most one segment to its parent. Marking succeeds; the store gains the
prefixes of the folder, creating the missing ones in order, and keeps the
marked document at the folder; a folder there already is updated once. -/
theorem tryMark_marks (w : World TreeServer) {ws : Workspace} {path : String} {items : Url}
    {base parentSegs segs adds more : List String} (title description : Option String)
    (hroot : joinPath base ∈ w.remote.repo.nodes)
    (hclosed : ParentClosed (joinPath base) w.remote.repo.nodes)
    (hparent : FolderLayout ws (parentOf (trimTrailingSlash path)) items base parentSegs adds)
    (hfolder : FolderLayout ws (trimTrailingSlash path) items base segs (adds ++ more))
    (hmore : more.length ≤ 1) :
    let u : Url := { items with path := .segments (base ++ (adds ++ more)) }
    let body := Text.utf8 (FolderNode.markedJson (FolderNode.keepText title)
      (FolderNode.keepText description)).render
    ∃ w' xs, run (tryMark TreeServer.transport ws path title description) w = (.ok (), w') ∧
      Talked TreeServer.transport ws.server w w' xs ∧
      (∀ q, q ∈ w'.remote.repo.nodes ↔
        q ∈ w.remote.repo.nodes ∨ ∃ v ∈ stepUrls items base (adds ++ more), v.pathText = q) ∧
      createdUrls xs = missing w.remote.repo.nodes (stepUrls items base (adds ++ more)) ∧
      w'.remote.repo.bodyOf u.pathText = some body ∧
      (u.pathText ∈ w.remote.repo.nodes →
        (xs.filter fun x => x.request.method = .put).map (·.request) = [folderWrite .put u body]) := by
  intro u body
  have hurl : ((FolderNode.new ws (trimTrailingSlash path)).markedAsPublishArea title description).url =
      .ok u := by
    rw [FolderNode.url_markedAsPublishArea, folderUrl_new]
    exact hfolder.folder
  set f := (FolderNode.new ws (trimTrailingSlash path)).markedAsPublishArea title description
  have hbody : f.document.toBytes = body := by
    rw [NodeDocument.toBytes, FolderNode.document_markedAsPublishArea]
  -- the parent is made to exist against the store
  obtain ⟨xs₁, htalk, hpat⟩ :=
    ensureFolderExists_talked TreeServer.transport ws (parentOf (trimTrailingSlash path)) w
  obtain ⟨hres, out⟩ := folderTalk_outcome w.remote.storeOnly hroot hclosed hparent hpat
    htalk.answers.toRepo
  set w₁ := (run (ensureFolderExists TreeServer.transport ws (parentOf (trimTrailingSlash path))) w).2
  have hmark : run (tryMark TreeServer.transport ws path title description) w =
      run (writeFolder TreeServer.transport ws f) w₁ := by
    rw [tryMark_eq, run_bind, show run (ensureFolderExists TreeServer.transport ws
      (parentOf (trimTrailingSlash path))) w = (.ok (), w₁) from Prod.ext hres rfl]
  have hputs₁ : xs₁.filter (fun x => x.request.method = .put) = [] :=
    List.filter_eq_nil_iff.mpr fun x hx => by
      rcases hpat.methods x hx with h | h <;> simp [h]
  have htail := @stepUrls_tail items base adds more hmore
  have hmore_cases : more = [] ∨ ∃ a, more = [a] := by
    rcases more with _ | ⟨a, _ | ⟨b, more⟩⟩
    · exact .inl rfl
    · exact .inr ⟨a, rfl⟩
    · simp at hmore
  rw [stepUrls_append]
  by_cases hin₁ : u.pathText ∈ w₁.remote.repo.nodes
  · -- the folder is there once its parent is: it is updated
    obtain ⟨hrun, hwrite⟩ := writeFolder_present rfl hurl hin₁
    rw [hbody] at hrun hwrite
    -- the folder's own URL, if it adds one, was there before the run
    have hold : ∀ v ∈ stepUrls items (base ++ adds) more, v.pathText ∈ w.remote.repo.nodes := by
      intro v hv
      obtain ⟨rfl, hnew⟩ := htail v hv
      rcases (out.nodes _).mp hin₁ with h | ⟨v', hv', heq⟩
      · exact h
      · exact (hnew v' hv' heq).elim
    refine ⟨_, _, hmark.trans hrun, htalk.trans hwrite,
      fun q => (out.nodes q).trans (gained_append_of_present hold q).symm, ?_, ?_, fun _ => ?_⟩
    · rw [createdUrls_append, createdUrls_get, createdUrls_folderWrite_put, createdUrls_nil,
        List.append_nil, out.created, missing_append, missing_eq_nil hold, List.append_nil]
    · exact (bodyOf_write _ _ _ _).trans (if_pos rfl)
    · rw [List.filter_append, hputs₁]
      simp [Request.get, Request.new, folderWrite, Request.withBody]
  · -- the folder is not there: it adds one segment, under its parent, now there
    obtain ⟨a, rfl⟩ : ∃ a, more = [a] := by
      rcases hmore_cases with rfl | h
      · exact absurd (by simpa [u, pathText_segments] using folder_mem_of_nodes hroot out.nodes) hin₁
      · exact h
    have hparentIn : parentPath u.pathText ∈ w₁.remote.repo.nodes := by
      show parentPath (joinPath (base ++ (adds ++ [a]))) ∈ _
      rw [← List.append_assoc, joinPath_append_single,
        parentPath_append_slash _ (hfolder.slash a (by simp))]
      exact folder_mem_of_nodes hroot out.nodes
    have hnot : u.pathText ∉ w.remote.repo.nodes := fun h => hin₁ ((out.nodes _).mpr (.inl h))
    have hlast : stepUrls items (base ++ adds) [a] = [u] := by simp [stepUrls, u]
    obtain ⟨hrun, hwrite⟩ := writeFolder_absent rfl hurl hin₁ hparentIn
    rw [hbody] at hrun hwrite
    refine ⟨_, _, hmark.trans hrun, htalk.trans hwrite, fun q => ?_, ?_, ?_, fun h => (hnot h).elim⟩
    · rw [TreeServer.create_repo, create_nodes, mem_addPath, out.nodes, hlast,
        gained_append_singleton]
    · rw [createdUrls_append, createdUrls_get, createdUrls_post _ _ rfl, createdUrls_nil,
        out.created, hlast, missing_append]
      simp [missing, hnot, folderWrite, Request.withBody, Request.new]
    · exact (bodyOf_create _ _ _ _).trans (if_pos rfl)

/-- A mark whose attempt succeeded reports `ok`. -/
theorem run_markAsPublishArea_of_ok {σ : Type} (t : Transport σ) {ws : Workspace} {path : String}
    {title description : Option String} {w w' : World σ}
    (h : run (tryMark t ws path title description) w = (.ok (), w')) :
    run (markAsPublishArea t ws path title description) w = (.ok Status.ok, w') := by
  simp only [markAsPublishArea, run_tryCatch, run_bind, h, run_pure]

/-! ## Unmarking a folder -/

/-- **Unmarking a folder that is there** reads it and updates it with the
unmarked document, which the tree server keeps at its path. -/
theorem unmarkAsPublishArea_present {w : World TreeServer} {ws : Workspace} {path : String}
    {u : Url} (hu : ws.itemUrl (trimTrailingSlash path) [] = .ok u)
    (hin : u.pathText ∈ w.remote.repo.nodes) :
    run (unmarkAsPublishArea TreeServer.transport ws path) w =
      (.ok Status.ok, { w with
        remote := w.remote.write u.pathText (Text.utf8 FolderNode.unmarkedJson.render)
        sent := w.sent ++ [Sent.mk ws.server.user (Request.get u),
          Sent.mk ws.server.user (folderWrite .put u (Text.utf8 FolderNode.unmarkedJson.render))] }) := by
  have hurl : (FolderNode.new ws (trimTrailingSlash path)).unmarkedAsPublishArea.url = .ok u := by
    rw [FolderNode.url_unmarkedAsPublishArea, folderUrl_new]
    exact hu
  simp only [unmarkAsPublishArea, tryUnmark]
  set f := (FolderNode.new ws (trimTrailingSlash path)).unmarkedAsPublishArea
  have hbody : f.document.toBytes = Text.utf8 FolderNode.unmarkedJson.render := by
    rw [NodeDocument.toBytes, FolderNode.document_unmarkedAsPublishArea]
  have hget : TreeServer.transport.respond ws.server (Request.get u) w.remote =
      (.ok ⟨statusOk, ""⟩, w.remote) :=
    TreeServer.respond_get_present ws.server hin
  simp only [run_tryCatch, run_bind, run_lift, hurl, run_pathExists _ hget, beq_self_eq_true,
    Bool.not_true, Bool.false_eq_true, if_false]
  rw [run_updateFolder_present rfl hurl hin, hbody, List.append_assoc]
  rfl

/-- **Unmarking a folder that is not there** reads it and writes nothing. -/
theorem unmarkAsPublishArea_absent {w : World TreeServer} {ws : Workspace} {path : String}
    {u : Url} (hu : ws.itemUrl (trimTrailingSlash path) [] = .ok u)
    (hnot : u.pathText ∉ w.remote.repo.nodes) :
    run (unmarkAsPublishArea TreeServer.transport ws path) w =
      (.ok Status.ok, { w with sent := w.sent ++ [Sent.mk ws.server.user (Request.get u)] }) := by
  have hurl : (FolderNode.new ws (trimTrailingSlash path)).unmarkedAsPublishArea.url = .ok u := by
    rw [FolderNode.url_unmarkedAsPublishArea, folderUrl_new]
    exact hu
  have hget : TreeServer.transport.respond ws.server (Request.get u) w.remote =
      (.ok ⟨404, ""⟩, w.remote) :=
    TreeServer.respond_get_missing ws.server hnot
  simp only [unmarkAsPublishArea, tryUnmark, run_tryCatch, run_bind, run_lift, hurl,
    run_pathExists _ hget, statusOk, Nat.reduceBEq, Bool.not_false, if_true, run_pure]

/-! ## Marking, then unmarking -/

/-- **Marking a folder as a publish area, then unmarking it.** The store
holds the items root and is closed under parents; the path,
its trailing slashes trimmed, has the segments `segs`, none of which reads
`..` once its tabs and line breaks are dropped. Then marking succeeds; the
store gains the prefixes of the folder and stays closed under parents; the
creates go to the prefixes missing from the store, parents first; the folder
keeps the marked document, which holds the primary type `nt:folder`, the
mixin `mode:publishArea`, and the title and description when they are not
blank. A folder that was there already is updated once and nothing is
created. Unmarking the folder afterwards, at the same path up to trailing
slashes, reads it and updates it once with the unmarked document; unmarking
any folder that is not there reads it and writes nothing. -/
theorem markAsPublishArea_marks_folder {ws : Workspace} {items : Url} {s : TreeServer}
    {path : String} {segs : List String} (hitems : ws.itemUrl "" [] = .ok items) (hroot : items.pathText ∈ s.repo.nodes)
    (hclosed : ParentClosed items.pathText s.repo.nodes)
    (hsegs : segmentsOf (trimTrailingSlash path) = .ok segs)
    (hplain : ∀ seg ∈ segs, Url.keptChars seg ≠ ['.', '.'])
    (title description : Option String) (files : LocalFiles) (sent : List Sent) :
    let r := run (markAsPublishArea TreeServer.transport ws path title description) ⟨s, files, sent⟩
    let marked := Text.utf8 (FolderNode.markedJson (FolderNode.keepText title)
      (FolderNode.keepText description)).render
    let unmarked := Text.utf8 FolderNode.unmarkedJson.render
    ∃ (urls : List Url) (u : Url) (xs : List Exchange),
      (prefixPaths "" segs).map (ws.itemUrl · []) = urls.map .ok ∧
      ws.itemUrl (trimTrailingSlash path) [] = .ok u ∧
      Talked TreeServer.transport ws.server ⟨s, files, sent⟩ r.2 xs ∧
      r.1 = .ok Status.ok ∧
      (∀ q, q ∈ r.2.remote.repo.nodes ↔ q ∈ s.repo.nodes ∨ ∃ v ∈ urls, v.pathText = q) ∧
      ParentClosed items.pathText r.2.remote.repo.nodes ∧
      createdUrls xs = missing s.repo.nodes urls ∧
      r.2.remote.repo.bodyOf u.pathText = some marked ∧
      (u.pathText ∈ s.repo.nodes → (∀ x ∈ xs, x.request.method ≠ .post) ∧
        (xs.filter fun x => x.request.method = .put).map (·.request) = [folderWrite .put u marked]) ∧
      (∀ path', trimEndSlashes path' = trimEndSlashes path →
        run (unmarkAsPublishArea TreeServer.transport ws path') r.2 =
          (.ok Status.ok, { r.2 with
            remote := r.2.remote.write u.pathText unmarked
            sent := r.2.sent ++ [Sent.mk ws.server.user (Request.get u),
              Sent.mk ws.server.user (folderWrite .put u unmarked)] })) ∧
      ∀ (w : World TreeServer) (path' : String) (u' : Url),
        ws.itemUrl (trimTrailingSlash path') [] = .ok u' → u'.pathText ∉ w.remote.repo.nodes →
        run (unmarkAsPublishArea TreeServer.transport ws path') w =
          (.ok Status.ok, { w with sent := w.sent ++ [Sent.mk ws.server.user (Request.get u')] }) := by
  intro r marked unmarked
  -- the items root, and the layouts of the folder and of its parent
  obtain ⟨base, hbase, hI⟩ := itemUrl_root_segments hitems
  rw [hI] at hroot hclosed ⊢
  obtain ⟨parentSegs, adds, more, hparent, hfolder, hmore⟩ :=
    FolderLayout.of_parentOf hitems hbase hsegs hplain
  obtain ⟨w', xs, hrun, htalk, hnodes, hcreated, hbody, hputs⟩ :=
    tryMark_marks ⟨s, files, sent⟩ title description hroot hclosed hparent hfolder hmore
  have hr : r = (.ok Status.ok, w') := run_markAsPublishArea_of_ok _ hrun
  -- after marking, the folder is there
  have hin' : joinPath (base ++ (adds ++ more)) ∈ w'.remote.repo.nodes :=
    folder_mem_of_nodes hroot hnodes
  refine ⟨_, _, xs, hfolder.prefixes, hfolder.folder, ?_⟩
  rw [hr]
  refine ⟨htalk, rfl, hnodes, parentClosed_extend hclosed hroot hfolder.slash hnodes, hcreated,
    hbody, fun hin => ⟨?_, hputs hin⟩, fun path' hsame => ?_,
    fun _ _ _ hu' hnot => unmarkAsPublishArea_absent hu' hnot⟩
  · -- a folder there already has every prefix there, so nothing is created
    have hall : ∀ v ∈ stepUrls items base (adds ++ more), v.pathText ∈ s.repo.nodes :=
      stepUrls_present hclosed hfolder.slash hin
    exact createdUrls_eq_nil_iff.mp (hcreated.trans (missing_eq_nil hall))
  · have htrim : trimTrailingSlash path' = trimTrailingSlash path := by
      simp only [trimTrailingSlash, hsame]
    have hu : ws.itemUrl (trimTrailingSlash path') [] =
        .ok { items with path := .segments (base ++ (adds ++ more)) } := by
      rw [htrim]
      exact hfolder.folder
    exact unmarkAsPublishArea_present hu hin'

/-- Marking `/docs/area/` with a title, in a store holding only the items
root, succeeds. -/
theorem markAsPublishArea_docs_area :
    let ws : Workspace := ⟨"w", ⟨"r", Server.new "a:/" "u" "p"⟩⟩
    (run (markAsPublishArea TreeServer.transport ws "/docs/area/" (some " Area ") none)
      ⟨⟨⟨[], [], ["/r/w/items"], .empty, false⟩, ⟨rfl, rfl⟩⟩, LocalFiles.empty, []⟩).1 =
        .ok Status.ok := by
  intro ws
  have hitems : ws.itemUrl "" [] =
      .ok ⟨"a", "", none, none, none, .segments ["r", "w", "items"], none, none⟩ := by
    decide +kernel
  have hroot : (⟨"a", "", none, none, none, .segments ["r", "w", "items"], none, none⟩ : Url).pathText =
      "/r/w/items" := by
    decide
  have hin : (⟨"a", "", none, none, none, .segments ["r", "w", "items"], none, none⟩ : Url).pathText ∈
      (TreeServer.mk ⟨[], [], ["/r/w/items"], .empty, false⟩ ⟨rfl, rfl⟩).repo.nodes := by
    rw [hroot]
    exact List.mem_singleton_self _
  have htrim : trimTrailingSlash "/docs/area/" = "/docs/area" := by decide +kernel
  have hsegs : segmentsOf (trimTrailingSlash "/docs/area/") = .ok ["docs", "area"] := by
    rw [htrim]
    exact segmentsOf_of_joinPath (by decide) (by decide)
  obtain ⟨_, _, _, _, _, _, hok, _⟩ :=
    markAsPublishArea_marks_folder hitems hin
      (fun q hq hne => (hne (by rw [hroot]; exact List.mem_singleton.mp hq)).elim) hsegs
      (by decide) (some " Area ") none LocalFiles.empty []
  exact hok

end Session

end ContentPublish
