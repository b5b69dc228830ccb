import ContentPublish.Url.Parser
import ContentPublish.Model
import ContentPublish.Local.Files
import ContentPublish.Node
import ContentPublish.Text.Basic
import ContentPublish.Codec
import ContentPublish.KeyMap

/-
  The client

  A client runs sessions against a transport: it sends requests, logs each
  one before it is answered, and builds from the answers the operations a
  caller sees, validating a server, listing repositories, workspaces and node
  types, running queries, and publishing, unpublishing and marking files and
  folders.

  What is stated here:
    1. `Method` with its name, `Request` and `Response`.
    2. `statusOk`, `statusCreated` and `statusNoContent`, the statuses the
       client looks for.
    3. `Transport` — what answers requests.
    4. `World` and `Session` — the state a session runs in, and sessions.
    5. `Session.send` — send one request; `send_log` says it is logged.
    6. `pathExists`, `createNode`, `updateNode` and `deleteAt`.
    7. `ensureFolderExists` — create the folders on a path that are absent.
    8. `QueryLanguage.name` and `QueryLanguage.contentType`.
    9. `QueryLanguage.parse` — the language a name stands for.
    10. `validate` — the server, validated.
    11. `getRepositories` and `getWorkspaces`.
    12. `pickNodeTypeWorkspace` and `getNodeTypes`.
    13. `QueryOptions` — paging and bound variables.
    14. `QueryOptions.suffix` — the parameters as they follow the endpoint.
    15. `queryRequest` — the request for a query or its plan.
    16. `suffix_of_empty` — without paging or variables there are no
        parameters.
    17. `expectQueryOk` — the body of an accepted query.
    18. `query`, `queryPage` and `planForQuery`.
    19. `trimTrailingSlash` and `parentOf` — the paths of a folder and its
        parent.
    20. `fileUrl`, `fileExists` and `getFileContents`.
    21. `publishVersioned`, `publish`, `unpublish`, `markAsPublishArea` and
        `unmarkAsPublishArea`.
-/

/-! ## Requests and responses

The client speaks to the server in requests: a method, a URL, and for
writes a body with its content type. The server answers with a status and
a body text.
-/

namespace ContentPublish

/-- The HTTP method of a request. -/
inductive Method where
  | get
  | post
  | put
  | delete
  deriving DecidableEq, Repr

/-- The name of a method. -/
def Method.name : Method → String
  | .get => "GET"
  | .post => "POST"
  | .put => "PUT"
  | .delete => "DELETE"

/-- The content type of node documents. -/
def jsonContentType : String := "application/json"

/-- A request to the server. -/
structure Request where
  method : Method
  url : Url
  contentType : Option String
  body : Option (List UInt8)
  deriving DecidableEq, Repr

namespace Request

/-- A request without a body. -/
def new (method : Method) (url : Url) : Request := ⟨method, url, none, none⟩

/-- A request that reads. -/
def get (url : Url) : Request := .new .get url

/-- A request that deletes. -/
def delete (url : Url) : Request := .new .delete url

/-- The request with a body of the given content type. -/
def withBody (r : Request) (contentType : String) (body : List UInt8) : Request :=
  { r with contentType := some contentType, body := some body }

end Request

/-- The server's answer. -/
structure Response where
  status : Nat
  body : String
  deriving DecidableEq, Repr

/-- The status of a successful read or update. -/
def statusOk : Nat := 200

/-- The status of a successful creation. -/
def statusCreated : Nat := 201

/-- The status of a successful deletion. -/
def statusNoContent : Nat := 204

end ContentPublish

/-! ## Client sessions

A client runs against a transport, which answers each request sent with a
server's credentials, or fails, and may change its own state in doing so.
A session is a run of client code: it sees the transport's state, the
local files, and the log of the requests sent so far, and it ends with a
result or an error. Every request is logged before it is answered, so the
log holds the requests that failed too.
-/

namespace ContentPublish

/-- Something that answers requests: a server, or a stand-in for one with
its own state `σ`. -/
structure Transport (σ : Type) where
  /-- The answer to a request sent with a server's credentials, and the
  state after it. -/
  respond : Server → Request → σ → Except Error Response × σ

/-- A request as it was sent: the user whose credentials went with it. -/
structure Sent where
  user : String
  request : Request
  deriving DecidableEq, Repr

/-- What a session sees: the transport's state, the local files, and the
requests sent so far, oldest first. -/
structure World (σ : Type) where
  remote : σ
  files : LocalFiles
  sent : List Sent

/-- A run of client code against a transport with state `σ`. -/
abbrev Session (σ : Type) := ExceptT Error (StateM (World σ))

namespace Session

/-- The result of a computation that may fail, in a session. -/
def lift {σ α : Type} (r : Except Error α) : Session σ α :=
  match r with
  | .ok a => pure a
  | .error e => throw e

/-- The local files as they are now. -/
def files {σ : Type} : Session σ LocalFiles := do
  return (← get).files

/-- Send a request with a server's credentials: log it, then take the
transport's answer. -/
def send {σ : Type} (t : Transport σ) (server : Server) (request : Request) :
    Session σ Response :=
  ExceptT.mk fun w =>
    let answer := t.respond server request w.remote
    (answer.1, { w with remote := answer.2, sent := w.sent ++ [Sent.mk server.user request] })

/-- Run a session from a world: its result and the world after it. -/
def run {σ α : Type} (s : Session σ α) (w : World σ) : Except Error α × World σ :=
  (ExceptT.run s).run w

theorem send_log {σ : Type} (t : Transport σ) (server : Server) (request : Request)
    (w : World σ) :
    (run (send t server request) w).2.sent = w.sent ++ [Sent.mk server.user request] := by
  rfl

end Session

end ContentPublish

/-! ## Writing nodes

The steps the client's operations are made of. A node exists when reading
it answers `200`. A node is created by posting its document and updated by
putting it, each with its own expected status; any other status is
refused with the server's answer. A folder is made to exist by reading it,
and if it is absent, by creating each of its ancestors and itself that is
absent, from the root down.
-/

namespace ContentPublish

namespace Session

variable {σ : Type}

/-- Whether the node at a URL exists. -/
def pathExists (t : Transport σ) (server : Server) (url : Url) : Session σ Bool := do
  let resp ← send t server (Request.get url)
  return resp.status == statusOk

/-- Write a node's document with a method, expecting a status. -/
def writeNode (t : Transport σ) (node : PathNode) (method : Method) (expected : Nat)
    (operation : String) : Session σ Unit := do
  let ws ← match node.workspace? with
    | some ws => pure ws
    | none => throw (.remoteOperation operation 0 (node.describe ++ " cannot be written"))
  let body ← lift (node.content (← files))
  let url ← lift node.writeUrl
  let resp ← send t ws.server ((Request.new method url).withBody jsonContentType (body.getD []))
  if resp.status != expected then
    throw (.remoteOperation operation resp.status
      ("could not " ++ operation ++ " " ++ node.describe ++ " in workspace " ++ ws.display ++
        ": " ++ Text.trimBlank resp.body))

/-- Create a node, expecting `201`. -/
def createNode (t : Transport σ) (node : PathNode) : Session σ Unit :=
  writeNode t node .post statusCreated "create"

/-- Update a node, expecting `200`. -/
def updateNode (t : Transport σ) (node : PathNode) : Session σ Unit :=
  writeNode t node .put statusOk "update"

/-- Delete the node at a URL; the status it answered. -/
def deleteAt (t : Transport σ) (server : Server) (url : Url) : Session σ Nat := do
  let resp ← send t server (Request.delete url)
  return resp.status

/-- Create each absent folder on the way down, the path so far being `done`. -/
def createMissing (t : Transport σ) (ws : Workspace) (done : String) :
    List String → Session σ Unit
  | [] => pure ()
  | segment :: rest => do
    let path := done ++ "/" ++ segment
    let folder := FolderNode.new ws path
    if !(← pathExists t ws.server (← lift folder.url)) then
      createNode t (.folder folder)
    createMissing t ws path rest

/-- Make the folder at a path exist, creating it and its ancestors as needed. -/
def ensureFolderExists (t : Transport σ) (ws : Workspace) (folderPath : String) :
    Session σ Unit := do
  let segments ← lift (segmentsOf folderPath)
  if segments.isEmpty then return
  let target := FolderNode.new ws folderPath
  if ← pathExists t ws.server (← lift target.url) then return
  createMissing t ws "" segments

end Session

end ContentPublish

/-! ## Query languages

A query is written in one of four languages, each sent under its own
content type. A language is named without regard to ASCII case and to the
blanks around the name; a name that is none of the four is refused with the
name as it was given and the list of the valid ones.
-/

namespace ContentPublish

/-- A language the server runs queries in. -/
inductive QueryLanguage where
  | xpath
  | sql
  | sql2
  | search
  deriving DecidableEq, Repr

namespace QueryLanguage

/-- The four languages, in the order they are listed. -/
def all : List QueryLanguage := [.xpath, .sql, .sql2, .search]

/-- The spelling of a language. -/
def name : QueryLanguage → String
  | .xpath => "xpath"
  | .sql => "sql"
  | .sql2 => "JCR-SQL2"
  | .search => "Search"

/-- The content type a statement in the language is sent under. -/
def contentType : QueryLanguage → String
  | .xpath => "application/jcr+xpath"
  | .sql => "application/jcr+sql"
  | .sql2 => "application/jcr+sql2"
  | .search => "application/jcr+search"

/-- The valid names, as a refusal lists them. -/
def validNames : String := ", ".intercalate (all.map name)

/-- Two texts that differ at most in ASCII case. -/
def sameIgnoringCase (a b : String) : Bool := a.toLower == b.toLower

/-- The language a name stands for. -/
def parse (text : String) : Except Error QueryLanguage :=
  let trimmed := Text.trimBlank text
  match all.find? fun l => sameIgnoringCase l.name trimmed with
  | some l => .ok l
  | none => .error (.invalidLanguage text validNames)

end QueryLanguage

end ContentPublish

/-! ## Discovering a server

Validation reads the server's discovery document and learns the protocol
it speaks from it. A server of the second protocol is spoken to through
its `v1` path, which becomes the base of every URL. A server that cannot
be reached, or answers anything but `200`, does not pass.

The repositories of a server and the workspaces of a repository are read
from their descriptors. The node types are read from one workspace of the
repository: the one named `default` in any ASCII case, else the first
that is not `system`, else the first.
-/

namespace ContentPublish

/-- A text without the slashes that end it. -/
def trimEndSlashes (s : String) : String :=
  String.ofList (s.toList.reverse.dropWhile (· == '/')).reverse

/-- The workspace node types are read from. -/
def pickNodeTypeWorkspace (workspaces : List Workspace) : Option Workspace :=
  match workspaces.find? fun w => QueryLanguage.sameIgnoringCase w.name "default" with
  | some w => some w
  | none =>
    match workspaces.find? fun w => !QueryLanguage.sameIgnoringCase w.name "system" with
    | some w => some w
    | none => workspaces.head?

namespace Session

variable {σ : Type}

/-- Validate a server: read its discovery document and learn its protocol. -/
def validate (t : Transport σ) (server : Server) : Session σ Server := do
  let server := server.unvalidated
  let url ← lift (Descriptor.server server).url
  let resp ← tryCatch (send t server (Request.get url)) fun err =>
    throw (.validation server.url ("server is unreachable: " ++ err.message))
  if resp.status != statusOk then
    throw (.validation server.url ("discovery returned status " ++ toString resp.status))
  match ← lift (determineVersion resp.body) with
  | .v1 => return server.asValidated server.url .v1
  | .v2 => return server.asValidated (trimEndSlashes server.url ++ "/v1") .v2

/-- The repositories of a server. -/
def getRepositories (t : Transport σ) (server : Server) : Session σ (List Repository) := do
  let url ← lift (Descriptor.server server).url
  let resp ← send t server (Request.get url)
  if resp.status != statusOk then
    throw (.remoteOperation "get_repositories" resp.status
      ("could not list repositories on " ++ server.url))
  lift (decodeRepositories server resp.body)

/-- The workspaces of a repository. -/
def getWorkspaces (t : Transport σ) (repository : Repository) : Session σ (List Workspace) := do
  let url ← lift (Descriptor.repository repository).url
  let resp ← send t repository.server (Request.get url)
  if resp.status != statusOk then
    throw (.remoteOperation "get_workspaces" resp.status
      ("could not list workspaces of repository " ++ repository.name ++ " on " ++
        repository.server.url))
  lift (decodeWorkspaces repository resp.body)

/-- The node types of a repository, by name. -/
def getNodeTypes (t : Transport σ) (repository : Repository) :
    Session σ (List (String × NodeType)) := do
  let workspaces ← getWorkspaces t repository
  let ws ← match pickNodeTypeWorkspace workspaces with
    | some ws => pure ws
    | none => throw (.validation repository.server.url
        ("repository " ++ repository.name ++ " has no workspaces"))
  let url ← lift ws.nodeTypesUrl
  let resp ← send t ws.server (Request.get url)
  if resp.status != statusOk then
    throw (.remoteOperation "get_node_types" resp.status
      ("could not read node types from " ++ url.serialize))
  lift (decodeNodeTypes resp.body)

end Session

end ContentPublish

/-! ## Query requests

A query is posted to the workspace's query endpoint, with the statement as
the body under the content type of its language. Paging and bound variables
travel as URL parameters: `offset` when rows are to be skipped, `limit`
when one is set, then each variable in the order of its name; a variable
whose name or value is blank is left out. Names and values are form
encoded, and the first parameter is led by `?`, the others by `&`.

The language is checked before anything else, then the URL with its
parameters is read back as a URL.
-/

namespace ContentPublish

/-- Paging and bound variables of a query. -/
structure QueryOptions where
  /-- Rows to skip; none are skipped at zero, and then no parameter is sent. -/
  offset : Nat
  /-- The most rows to answer, if any bound is set. -/
  limit : Option Nat
  /-- Bound variables, by name. -/
  bindings : KeyMap String
  deriving DecidableEq, Repr

namespace QueryOptions

/-- Paging alone. -/
def page (offset : Nat) (limit : Option Nat) : QueryOptions := ⟨offset, limit, .empty⟩

/-- Bind a variable, replacing a value bound to the same name. -/
def withVariable (o : QueryOptions) (name value : String) : QueryOptions :=
  { o with bindings := o.bindings.insert name value }

/-- One parameter, led by `?` when it is the first. -/
def parameter (first : Bool) (name value : String) : String :=
  (if first then "?" else "&") ++ Url.formEncode name ++ "=" ++ Url.formEncode value

/-- The parameters from a list of name and value pairs. -/
def parameters : Bool → List (String × String) → String
  | _, [] => ""
  | first, (name, value) :: rest => parameter first name value ++ parameters false rest

/-- The pairs the options send, in order. -/
def pairs (o : QueryOptions) : List (String × String) :=
  (if o.offset > 0 then [("offset", toString o.offset)] else []) ++
  (match o.limit with
   | some l => [("limit", toString l)]
   | none => []) ++
  o.bindings.entries.filter fun (name, value) => !(Text.isBlankText name || Text.isBlankText value)

/-- The parameters as they follow the endpoint URL. -/
def suffix (o : QueryOptions) : String := parameters true o.pairs

theorem suffix_of_empty : suffix (page 0 none) = "" := rfl

end QueryOptions

/-- The request for a query, or for its plan, at an endpoint. -/
def queryRequest (endpoint : Url) (language statement : String) (options : QueryOptions) :
    Except Error Request :=
  match QueryLanguage.parse language with
  | .error e => .error e
  | .ok l =>
    let raw := endpoint.serialize ++ options.suffix
    match Url.parse raw with
    | .error e => .error (.invalidUrl (raw ++ ": " ++ e.message))
    | .ok url => .ok ((Request.new .post url).withBody l.contentType (Text.utf8 statement))

end ContentPublish

/-! ## Running queries

A query is posted to the workspace's query endpoint and its answer read as
rows; the plan of a query is posted to the plan endpoint and its answer
kept as text. An answer other than `200` is a refused query, explained by
the server's answer, or by the status when the answer is blank.
-/

namespace ContentPublish

/-- The body of an answer to a query, or the refusal it stands for. -/
def expectQueryOk (resp : Response) : Except Error String :=
  if resp.status == statusOk then .ok resp.body
  else
    let message := Text.trimBlank resp.body
    .error (.invalidQuery
      (if message.isEmpty then "server answered status " ++ toString resp.status else message))

namespace Session

variable {σ : Type}

/-- The rows a query answers. -/
def query (t : Transport σ) (ws : Workspace) (language statement : String)
    (options : QueryOptions) : Session σ (List QueryRow) := do
  let endpoint ← lift ws.queryUrl
  let request ← lift (queryRequest endpoint language statement options)
  let resp ← send t ws.server request
  let body ← lift (expectQueryOk resp)
  lift (decodeQueryRows body)

/-- The rows of one page of a query. -/
def queryPage (t : Transport σ) (ws : Workspace) (language statement : String)
    (offset : Nat) (limit : Option Nat) : Session σ (List QueryRow) :=
  query t ws language statement (QueryOptions.page offset limit)

/-- The plan the server would run a query by, as its text. -/
def planForQuery (t : Transport σ) (ws : Workspace) (language statement : String)
    (options : QueryOptions) : Session σ String := do
  let endpoint ← lift ws.queryPlanUrl
  let request ← lift (queryRequest endpoint language statement options)
  let resp ← send t ws.server request
  lift (expectQueryOk resp)

end Session

end ContentPublish

/-! ## Publishing files and publish areas

Publishing a local file writes it into the folder at a path of a
workspace: it is updated when it is there already, and otherwise its
folders are made to exist and it is created. Unpublishing deletes it; a
file that was never there is reported, not refused, and one that is still
there after the delete is refused. A folder is marked as a publish area
once its parent exists, and unmarked only if it exists.

These operations do not fail: each ends in a status, which on failure
holds the cause.
-/

namespace ContentPublish

/-- A path without the slashes that end it; the root stays `/`. -/
def trimTrailingSlash (path : String) : String :=
  let trimmed := trimEndSlashes path
  if trimmed.isEmpty then "/" else trimmed

/-- The path of a folder's parent: the text before the last slash, or the
root when that is empty or there is no slash. -/
def parentOf (path : String) : String :=
  let cs := path.toList
  match cs.reverse.findIdx? (· == '/') with
  | none => "/"
  | some fromEnd =>
    let index := cs.length - 1 - fromEnd
    if index = 0 then "/" else String.ofList (cs.take index)

namespace Session

variable {σ : Type}

/-- The URL a local file is published at in the folder at `path`. -/
def fileUrl (file path : String) (ws : Workspace) : Session σ Url := do
  if (← files).isDir file then throw (directoryNotFile file)
  let name ← lift (fileName file)
  lift (ws.fileUrl path name)

/-- Whether a local file is published in the folder at `path`. -/
def fileExists (t : Transport σ) (file : String) (ws : Workspace) (path : String) :
    Session σ Bool := do
  let url ← fileUrl file path ws
  pathExists t ws.server url

/-- Write a local file into the folder at `path`. -/
def tryPublish (t : Transport σ) (ws : Workspace) (path file : String) (versioning : Bool) :
    Session σ Unit := do
  let node ← lift (FileNode.new (← files) ws path file versioning)
  if ← pathExists t ws.server (← lift node.url) then
    updateNode t (.file node)
  else
    ensureFolderExists t ws path
    createNode t (.file node)

/-- Publish a local file into the folder at `path`, versionable or not. -/
def publishVersioned (t : Transport σ) (ws : Workspace) (path file : String)
    (versioning : Bool) : Session σ Status :=
  tryCatch (do tryPublish t ws path file versioning; return Status.ok) fun err =>
    return Status.error
      ("failed to publish " ++ file ++ " to " ++ path ++ " in workspace " ++ ws.display) err

/-- Publish a local file into the folder at `path`. -/
def publish (t : Transport σ) (ws : Workspace) (path file : String) : Session σ Status :=
  publishVersioned t ws path file false

/-- Delete a published file, and tell whether it was there. -/
def tryUnpublish (t : Transport σ) (ws : Workspace) (path file : String) :
    Session σ Status := do
  let name ← lift (fileName file)
  let url ← lift (ws.fileUrl path name)
  let status ← deleteAt t ws.server url
  if status == statusNoContent then return Status.ok
  if !(← pathExists t ws.server url) then
    return Status.info
      (file ++ " was never published to " ++ path ++ " in workspace " ++ ws.display)
  throw (.remoteOperation "unpublish" status (url.serialize ++ " still exists after delete"))

/-- Remove a published file from the folder at `path`. -/
def unpublish (t : Transport σ) (ws : Workspace) (path file : String) : Session σ Status :=
  tryCatch (tryUnpublish t ws path file) fun err =>
    return Status.error
      ("failed to unpublish " ++ file ++ " from " ++ path ++ " in workspace " ++ ws.display) err

/-- Write the folder at `path` marked as a publish area. -/
def tryMark (t : Transport σ) (ws : Workspace) (path : String)
    (title description : Option String) : Session σ Unit := do
  let path := trimTrailingSlash path
  ensureFolderExists t ws (parentOf path)
  let folder := (FolderNode.new ws path).markedAsPublishArea title description
  if ← pathExists t ws.server (← lift folder.url) then
    updateNode t (.folder folder)
  else
    createNode t (.folder folder)

/-- Mark the folder at `path` as a publish area. -/
def markAsPublishArea (t : Transport σ) (ws : Workspace) (path : String)
    (title description : Option String) : Session σ Status :=
  tryCatch (do tryMark t ws path title description; return Status.ok) fun err =>
    return Status.error
      ("failed to mark " ++ path ++ " in workspace " ++ ws.display ++ " as a publish area") err

/-- Drop the publish-area marker of the folder at `path`, if it exists. -/
def tryUnmark (t : Transport σ) (ws : Workspace) (path : String) : Session σ Unit := do
  let folder := (FolderNode.new ws (trimTrailingSlash path)).unmarkedAsPublishArea
  if !(← pathExists t ws.server (← lift folder.url)) then return
  updateNode t (.folder folder)

/-- Unmark the folder at `path` as a publish area. -/
def unmarkAsPublishArea (t : Transport σ) (ws : Workspace) (path : String) :
    Session σ Status :=
  tryCatch (do tryUnmark t ws path; return Status.ok) fun err =>
    return Status.error
      ("failed to unmark " ++ path ++ " in workspace " ++ ws.display ++ " as a publish area") err

/-- The bytes published for a local file's name, if the server has them. -/
def getFileContents (t : Transport σ) (ws : Workspace) (path file : String) :
    Session σ (Option (List UInt8)) := do
  let name ← lift (fileName file)
  let url ← lift (ws.itemUrl path [name, Jcr.content])
  let resp ← send t ws.server (Request.get url)
  if resp.status != statusOk then return none
  let bytes ← lift (decodeFileContents resp.body)
  return some bytes

end Session

end ContentPublish
