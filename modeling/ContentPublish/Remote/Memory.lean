import ContentPublish.Client
import ContentPublish.Url.Parser
import ContentPublish.KeyMap

/-
  A repository held in memory

  A stand-in for a server that keeps its nodes as a set of URL paths. It
  answers from a script first, one scripted reply per request while any is
  left; then from fixed routes, by method and path; and otherwise as a node
  store:
    * reading answers `200` for a node that exists and `404` otherwise;
    * creating answers `409` when the node exists or its parent, the path
      before its last slash, does not; otherwise the node is added, the
      request's body is kept at its path, and the answer is `201`;
    * updating answers `200` for a node that exists, keeping the request's
      body at its path, and `404` otherwise;
    * deleting answers `500` when deletes are refused, and otherwise removes
      the node and its body with `204`, or answers `404` when there was
      none.
  A request without a body leaves an empty one. Answers of the store have
  empty bodies. A scripted or routed reply may be a failure to connect
  instead of an answer.

  What is stated here:
    1. `Reply`, `Route` and `MemoryRepository`, with `bodyOf`.
    2. `MemoryRepository.store` — the node store's answer, by way of
       `create`, `write` and `erase`.
    3. `MemoryRepository.respond` and `MemoryRepository.transport`.
-/

namespace ContentPublish

/-- What a scripted or routed request gets: an answer, or a failure to
connect with its message. -/
inductive Reply where
  | answer (r : Response)
  | fail (message : String)
  deriving DecidableEq, Repr

/-- The reply as a transport gives it. -/
def Reply.result : Reply → Except Error Response
  | .answer r => .ok r
  | .fail message => .error (.io .connectionRefused message)

/-- A fixed reply to a method at a URL path. -/
structure Route where
  method : Method
  path : String
  reply : Reply
  deriving DecidableEq, Repr

/-- The path of the items root of the default workspace, under the default
base URL. -/
def defaultItemsRoot : String := "/resources/repo/default/items"

/-- A repository held in memory. -/
structure MemoryRepository where
  /-- Replies given first, in order, one per request. -/
  script : List Reply
  /-- Fixed replies; of two routes for one method and path, the later one
  counts. -/
  routes : List Route
  /-- The URL paths of the nodes, in ascending order. -/
  nodes : List String
  /-- The body last written at each node path. -/
  bodies : KeyMap (List UInt8)
  refuseDelete : Bool
  deriving DecidableEq, Repr

namespace MemoryRepository

/-- A repository with only the default items root. -/
def initial : MemoryRepository := ⟨[], [], [defaultItemsRoot], .empty, false⟩

/-- The body last written at a path. -/
def bodyOf (m : MemoryRepository) (path : String) : Option (List UInt8) := m.bodies.get? path

/-- Add a path to a set kept in ascending order. -/
def addPath : List String → String → List String
  | [], p => [p]
  | q :: rest, p =>
    if p < q then p :: q :: rest
    else if p = q then q :: rest
    else q :: addPath rest p

/-- The path before the last slash, or nothing when there is no slash. -/
def parentPath (path : String) : String :=
  let cs := path.toList
  match cs.reverse.findIdx? (· == '/') with
  | none => ""
  | some fromEnd => String.ofList (cs.take (cs.length - 1 - fromEnd))

/-- The repository with a node added at a path, holding `body`. -/
def create (m : MemoryRepository) (path : String) (body : List UInt8) : MemoryRepository :=
  { m with nodes := addPath m.nodes path, bodies := m.bodies.insert path body }

/-- The repository with `body` written at a path. -/
def write (m : MemoryRepository) (path : String) (body : List UInt8) : MemoryRepository :=
  { m with bodies := m.bodies.insert path body }

/-- The repository without the node at a path, and without its body. -/
def erase (m : MemoryRepository) (path : String) : MemoryRepository :=
  { m with nodes := m.nodes.filter (· != path), bodies := m.bodies.erase path }

@[simp] theorem create_nodes (m : MemoryRepository) (path : String) (body : List UInt8) :
    (m.create path body).nodes = addPath m.nodes path := rfl

@[simp] theorem create_script (m : MemoryRepository) (path : String) (body : List UInt8) :
    (m.create path body).script = m.script := rfl

@[simp] theorem create_routes (m : MemoryRepository) (path : String) (body : List UInt8) :
    (m.create path body).routes = m.routes := rfl

@[simp] theorem write_nodes (m : MemoryRepository) (path : String) (body : List UInt8) :
    (m.write path body).nodes = m.nodes := rfl

@[simp] theorem write_script (m : MemoryRepository) (path : String) (body : List UInt8) :
    (m.write path body).script = m.script := rfl

@[simp] theorem write_routes (m : MemoryRepository) (path : String) (body : List UInt8) :
    (m.write path body).routes = m.routes := rfl

@[simp] theorem erase_nodes (m : MemoryRepository) (path : String) :
    (m.erase path).nodes = m.nodes.filter (· != path) := rfl

@[simp] theorem erase_script (m : MemoryRepository) (path : String) :
    (m.erase path).script = m.script := rfl

@[simp] theorem erase_routes (m : MemoryRepository) (path : String) :
    (m.erase path).routes = m.routes := rfl

theorem bodyOf_write (m : MemoryRepository) (path q : String) (body : List UInt8) :
    (m.write path body).bodyOf q = if path = q then some body else m.bodyOf q :=
  KeyMap.get?_insert _ _ _ _

theorem bodyOf_create (m : MemoryRepository) (path q : String) (body : List UInt8) :
    (m.create path body).bodyOf q = if path = q then some body else m.bodyOf q :=
  KeyMap.get?_insert _ _ _ _

theorem bodyOf_erase (m : MemoryRepository) (path q : String) :
    (m.erase path).bodyOf q = if q = path then none else m.bodyOf q :=
  KeyMap.get?_erase _ _ _

/-- Writing at a path the body kept there changes nothing. -/
theorem write_of_bodyOf {m : MemoryRepository} {path : String} {body : List UInt8}
    (h : m.bodyOf path = some body) : m.write path body = m := by
  rw [write, KeyMap.insert_of_get? h]

/-- The answer of the node store to a method at a path, sent with `body`,
and the store after. -/
def store (m : MemoryRepository) (method : Method) (path : String) (body : List UInt8) :
    Nat × MemoryRepository :=
  let present := m.nodes.contains path
  match method with
  | .get => (if present then 200 else 404, m)
  | .post =>
    if present || !m.nodes.contains (parentPath path) then (409, m)
    else (201, m.create path body)
  | .put => if present then (200, m.write path body) else (404, m)
  | .delete =>
    if m.refuseDelete then (500, m)
    else if present then (204, m.erase path)
    else (404, m)

/-- The reply to a request, and the repository after it. -/
def respond (_server : Server) (request : Request) (m : MemoryRepository) :
    Except Error Response × MemoryRepository :=
  match m.script with
  | reply :: rest => (reply.result, { m with script := rest })
  | [] =>
    let path := request.url.pathText
    match (m.routes.reverse.find? fun r => r.method == request.method && r.path == path) with
    | some route => (route.reply.result, m)
    | none =>
      let (status, m) := m.store request.method path (request.body.getD [])
      (.ok ⟨status, ""⟩, m)

/-- The repository as a transport. -/
def transport : Transport MemoryRepository := ⟨respond⟩

end MemoryRepository

end ContentPublish
