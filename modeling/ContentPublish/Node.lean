import ContentPublish.Url.Parser
import ContentPublish.Model
import ContentPublish.Json.Value
import ContentPublish.Text.Basic
import ContentPublish.KeyMap
import ContentPublish.Local.Files
import ContentPublish.Text.Base64

/-
  Nodes: where they live and what is written to them

  The client writes folders and files of a workspace as nodes of the
  repository. Each has a URL built from the server's base, a JSON document
  with its properties and children, and for a file the bytes of its content;
  the texts of each leave the server's password out.

  What is stated here:
    1. `segmentsOf` — the segments of an item path, or the refusal.
    2. `joinSegments` — a base URL with segments added.
    3. The URL of each kind of place: `Server.discoveryUrl`, `Repository.url`,
       `Workspace.url`, `Workspace.itemUrl`, `Workspace.queryUrl`,
       `Workspace.queryPlanUrl`, `Workspace.nodeTypesUrl` and
       `Workspace.fileUrl`.
    4. `NodeTree` and `NodeTree.Ordered` — the tree of a node, and children
       kept in order.
    5. `NodeDocument.toJson` and `NodeDocument.toBytes` — the document of a
       node and its UTF-8 text.
    6. `mimeOfExtension` — the table of known extensions.
    7. `inferMime` — the media type of a file name.
    8. `inferMime_of_no_dot` — a name without a dot is arbitrary bytes.
    9. `fileName` — the last name of a path, as paths are read.
    10. `FileNode.new` — the node of a local file.
    11. `FileNode.url`, `FileNode.contentsUrl`, `FileNode.document` and
        `FileNode.content`.
    12. `FolderNode` with `markedAsPublishArea` and `unmarkedAsPublishArea`.
    13. `FolderNode.url` and `FolderNode.document`.
    14. `Descriptor` and `PathNode`.
    15. `PathNode.url`, `PathNode.writeUrl`, `PathNode.document`,
        `PathNode.content`, `PathNode.workspace?` and `PathNode.describe`.
    16. `Repository.debugText`, `Workspace.debugText` and their JSON forms.
    17. `FolderNode.debugText`, `FileNode.debugText`, `Descriptor.debugText`
        and `PathNode.debugText`.
-/

/-! ## Where things live on the server

Every URL is the server's base URL with segments added to its path: the
repository, the workspace, then `items` and the item's path for a node, or
`query` and `queryPlan` for queries. Discovery is the base URL with a
trailing slash. The base's query and fragment stay as they are; the node
type listing replaces the query with `depth=-1`.

An item path is split at slashes; empty pieces and `.` are dropped, and a
`..` is refused, so that no path leaves the workspace.
-/

namespace ContentPublish

/-- The segments of an item path: empty pieces and `.` dropped, `..` refused. -/
def segmentsOf (path : String) : Except Error (List String) :=
  let pieces := (path.splitToList (· == '/')).filter fun p => p != "" && p != "."
  if pieces.contains ".." then .error (.invalidUrl ("path traversal is not allowed: " ++ path))
  else .ok pieces

/-- A base URL text with segments added to its path. -/
def joinSegments (base : String) (segments : List String) : Except Error Url :=
  match Url.parse base with
  | .error e => .error (.invalidUrl (base ++ ": " ++ e.message))
  | .ok u =>
    match u.pushSegments segments with
    | none => .error (.invalidUrl (base ++ ": cannot be a base url"))
    | some u => .ok u

/-- The discovery document of a server: its base URL with a trailing slash. -/
def Server.discoveryUrl (s : Server) : Except Error Url := joinSegments s.baseUrl [""]

/-- The URL of a repository. -/
def Repository.url (r : Repository) : Except Error Url :=
  joinSegments r.server.baseUrl [r.name]

namespace Workspace

/-- The URL of a workspace. -/
def url (w : Workspace) : Except Error Url :=
  joinSegments w.server.baseUrl [w.repository.name, w.name]

/-- The URL of the item at `path`, with `trailing` segments after it. -/
def itemUrl (w : Workspace) (path : String) (trailing : List String) : Except Error Url :=
  match segmentsOf path with
  | .error e => .error e
  | .ok segs => joinSegments w.server.baseUrl ([w.repository.name, w.name, "items"] ++ segs ++ trailing)

/-- The URL that runs queries. -/
def queryUrl (w : Workspace) : Except Error Url :=
  joinSegments w.server.baseUrl [w.repository.name, w.name, "query"]

/-- The URL that explains queries. -/
def queryPlanUrl (w : Workspace) : Except Error Url :=
  joinSegments w.server.baseUrl [w.repository.name, w.name, "queryPlan"]

/-- The URL of the node type listing, asked for in full depth. -/
def nodeTypesUrl (w : Workspace) : Except Error Url :=
  (w.itemUrl "" ["jcr:system", "jcr:nodeTypes"]).map fun u => u.setQuery (some "depth=-1")

/-- The URL of the file `name` in the folder at `path`. -/
def fileUrl (w : Workspace) (path name : String) : Except Error Url := w.itemUrl path [name]

end Workspace

end ContentPublish

/-! ## Node documents

A node is written to the repository as a JSON document: an object with its
`properties`, and its `children` when it has any. The properties hold the
primary type under `jcr:primaryType`, the mixin types under
`jcr:mixinTypes` when they are given (an empty list included), and then the
node's own properties, which win over the first two. Children are keyed by
name; a child added under a name already present replaces it.

Children are a map, as the properties are: a document is a tree together
with the proof that the children hold each name once, in order, at every
level, and each way of building one keeps that proof.
-/

namespace ContentPublish

/-! Property and type names of the repository's node model. -/

namespace Jcr

/-- The property holding a node's primary type. -/
def primaryType : String := "jcr:primaryType"
/-- The property holding a node's mixin types. -/
def mixinTypes : String := "jcr:mixinTypes"
/-- The child of a file node that holds its bytes. -/
def content : String := "jcr:content"
/-- The property holding the base64 bytes of a file. -/
def data : String := "jcr:data"
/-- The property holding a file's modification time. -/
def lastModified : String := "jcr:lastModified"
/-- The property holding a file's media type. -/
def mimeType : String := "jcr:mimeType"
/-- The title of a publish area. -/
def title : String := "jcr:title"
/-- The description of a publish area. -/
def description : String := "jcr:description"
/-- The primary type of a folder. -/
def folderType : String := "nt:folder"
/-- The primary type of a file. -/
def fileType : String := "nt:file"
/-- The primary type of a file's content child. -/
def resourceType : String := "nt:resource"
/-- The mixin type that keeps versions of a file. -/
def versionableType : String := "mix:versionable"
/-- The mixin type that marks a folder as a publish area. -/
def publishAreaType : String := "mode:publishArea"
/-- The query that asks the server to answer a write without the node. -/
def terseResponseQuery : String := "mode:includeNode=false"

end Jcr

/-- A node to be written, as a tree: its primary type, its mixin types if
given, its own properties, and its children by name. -/
structure NodeTree where
  primaryType : String
  mixins : Option (List String)
  properties : KeyMap Json.Value
  children : List (String × NodeTree)

namespace NodeTree

/-- The children of a tree are a map at every level: each name once, in
ascending order. -/
inductive Ordered : NodeTree → Prop
  | mk {primaryType : String} {mixins : Option (List String)} {properties : KeyMap Json.Value}
      {children : List (String × NodeTree)} :
      KeysAscend children → (∀ c ∈ children, Ordered c.2) →
      Ordered ⟨primaryType, mixins, properties, children⟩

theorem Ordered.ascending {t : NodeTree} (h : t.Ordered) : KeysAscend t.children := by
  cases h with
  | mk hasc _ => exact hasc

theorem Ordered.child {t : NodeTree} (h : t.Ordered) {c : String × NodeTree} (hc : c ∈ t.children) :
    c.2.Ordered := by
  cases h with
  | mk _ hch => exact hch c hc

/-- Order is a matter of the children alone. -/
theorem Ordered.of_children {t t' : NodeTree} (h : t.Ordered) (he : t'.children = t.children) :
    t'.Ordered := by
  obtain ⟨pt, mx, props, cs⟩ := t'
  subst he
  exact .mk h.ascending fun c hc => h.child hc

/-- Storing a child keeps the children in order. -/
theorem Ordered.insertChild {t c : NodeTree} (h : t.Ordered) (hc : c.Ordered) (name : String) :
    Ordered { t with children := insertSorted t.children name c } := by
  refine .mk h.ascending.insertSorted fun q hq => ?_
  rcases mem_of_mem_insertSorted hq with rfl | hq
  · exact hc
  · exact h.child hq

/-- Changing the children one by one, each keeping its name and its order,
keeps the children in order. -/
theorem Ordered.mapChildren {t : NodeTree} (h : t.Ordered) (f : String → NodeTree → NodeTree)
    (hf : ∀ k c, c.Ordered → (f k c).Ordered) :
    Ordered { t with children := t.children.map fun p => (p.1, f p.1 p.2) } := by
  refine .mk (List.pairwise_map.mpr h.ascending) fun q hq => ?_
  obtain ⟨p, hp, rfl⟩ := List.mem_map.mp hq
  exact hf p.1 p.2 (h.child hp)

/-- Set a property. -/
def withProperty (t : NodeTree) (name : String) (v : Json.Value) : NodeTree :=
  { t with properties := t.properties.insert name v }

/-- The properties object: primary type, mixins when given, then the node's
own properties over them. -/
def propertiesJson (t : NodeTree) : Json.Object :=
  let base : Json.Object := Json.Object.insert [] Jcr.primaryType (.string t.primaryType)
  let base := match t.mixins with
    | some ms => base.insert Jcr.mixinTypes (Json.Value.ofStrings ms)
    | none => base
  t.properties.entries.foldl (fun o (k, v) => o.insert k v) base

mutual

/-- The JSON document of a node. -/
def toJson : NodeTree → Json.Value
  | ⟨primaryType, mixins, properties, children⟩ =>
    let props := propertiesJson ⟨primaryType, mixins, properties, []⟩
    match children with
    | [] => .object [("properties", .object props)]
    | cs => .object [("children", .object (childrenJson cs)), ("properties", .object props)]

/-- The documents of the children, by name. -/
def childrenJson : List (String × NodeTree) → Json.Object
  | [] => []
  | (k, c) :: rest => (k, toJson c) :: childrenJson rest

end

end NodeTree

/-- A node to be written: a tree whose children are kept by name, in order,
at every level. -/
structure NodeDocument where
  tree : NodeTree
  ordered : tree.Ordered

namespace NodeDocument

/-- A node of a primary type, with nothing else. -/
def new (primaryType : String) : NodeDocument :=
  ⟨⟨primaryType, none, .empty, []⟩, .mk KeysAscend.nil fun _ h => nomatch h⟩

/-- Set the mixin types: `none` leaves the server's mixins as they are, and
a list, the empty one included, replaces them. -/
def withMixins (d : NodeDocument) (mixins : Option (List String)) : NodeDocument :=
  ⟨{ d.tree with mixins }, d.ordered.of_children rfl⟩

/-- Add a mixin type. -/
def withMixin (d : NodeDocument) (mixin : String) : NodeDocument :=
  d.withMixins (some (d.tree.mixins.getD [] ++ [mixin]))

/-- Set a property. -/
def withProperty (d : NodeDocument) (name : String) (v : Json.Value) : NodeDocument :=
  ⟨d.tree.withProperty name v, d.ordered.of_children rfl⟩

/-- Add a child, replacing one of the same name. -/
def withChild (d : NodeDocument) (name : String) (child : NodeDocument) : NodeDocument :=
  ⟨{ d.tree with children := insertSorted d.tree.children name child.tree },
    d.ordered.insertChild child.ordered name⟩

/-- The JSON document of the node. -/
def toJson (d : NodeDocument) : Json.Value := d.tree.toJson

/-- The UTF-8 text of the document. -/
def toBytes (d : NodeDocument) : List UInt8 := Text.utf8 d.toJson.render

end NodeDocument

end ContentPublish

/-! ## Media types of files

A file's media type is told by its extension, the text after its last dot,
read without regard to ASCII case. An unknown extension, or a name without
a dot, gives the type of arbitrary bytes.
-/

namespace ContentPublish

/-- The media type of arbitrary bytes. -/
def defaultMime : String := "application/octet-stream"

/-- The media type of a lowercase extension, if it is a known one. -/
def mimeOfExtension : String → Option String
  | "md" | "markdown" => some "text/markdown"
  | "txt" | "log" => some "text/plain"
  | "html" | "htm" => some "text/html"
  | "css" => some "text/css"
  | "csv" => some "text/csv"
  | "xml" | "xsd" => some "application/xml"
  | "json" => some "application/json"
  | "js" => some "application/javascript"
  | "pdf" => some "application/pdf"
  | "zip" => some "application/zip"
  | "jar" => some "application/java-archive"
  | "png" => some "image/png"
  | "jpg" | "jpeg" => some "image/jpeg"
  | "gif" => some "image/gif"
  | "svg" => some "image/svg+xml"
  | "cnd" => some "text/jcr-cnd"
  | "ddl" => some "application/ddl"
  | "rs" => some "text/rust"
  | _ => none

/-- The text after the last dot of a name, if it has one. -/
def extension? (name : String) : Option String :=
  let cs := name.toList
  if cs.contains '.' then some (String.ofList (cs.reverse.takeWhile (· != '.')).reverse) else none

/-- The media type of a file name. -/
def inferMime (name : String) : String :=
  match extension? name with
  | some ext => (mimeOfExtension ext.toLower).getD defaultMime
  | none => defaultMime

theorem inferMime_of_no_dot (name : String) (h : '.' ∉ name.toList) :
    inferMime name = defaultMime := by
  simp [inferMime, extension?, h]

end ContentPublish

/-! ## Files

A local file is published as an `nt:file` node in the folder at a path of
the workspace, named as the file is. Its bytes go into the `jcr:content`
child, an `nt:resource` with the file's media type and modification time.
A file can be made versionable with the `mix:versionable` mixin.

A file node is made from what the file system says of the file at the
time: it must exist, must not be a directory, and its path must end in a
usable name. Its bytes are read only when the body of a write is wanted, so
the file may be gone by then.
-/

namespace ContentPublish

/-- The last name of a local path: empty pieces and `.` pieces do not count,
and a path that ends at a root or a `..` has none. -/
def fileName? (path : String) : Option String :=
  match ((path.splitOn "/").filter fun p => p != "" && p != ".").getLast? with
  | some ".." => none
  | some name => some name
  | none => none

/-- The last name of a local path, or the refusal of a path without one. -/
def fileName (path : String) : Except Error String :=
  match fileName? path with
  | some name => .ok name
  | none => .error (.io .invalidInput (path ++ " has no usable file name"))

/-- The refusal of a directory where a file is wanted. -/
def directoryNotFile (path : String) : Error :=
  .io .invalidInput (path ++ " is a directory, not a file")

/-- A local file to be published in the folder at a path of a workspace. -/
structure FileNode where
  workspace : Workspace
  /-- The folder in the workspace. -/
  path : String
  /-- The local path of the file. -/
  file : String
  name : String
  versionable : Bool
  mimeType : String
  lastModified : Timestamp

namespace FileNode

/-- The node of the local file at `file`, from what the file system says of it. -/
def new (fs : LocalFiles) (workspace : Workspace) (path file : String) (versionable : Bool) :
    Except Error FileNode :=
  match fs.stat file with
  | .error e => .error e
  | .ok (_, .directory) => .error (directoryNotFile file)
  | .ok (_, .file _ modified) =>
    match fileName file with
    | .error e => .error e
    | .ok name =>
      .ok { workspace, path, file, name, versionable, mimeType := inferMime name,
            lastModified := ⟨modified⟩ }

/-- The URL of the file. -/
def url (f : FileNode) : Except Error Url := f.workspace.fileUrl f.path f.name

/-- The URL of the child that holds the bytes. -/
def contentsUrl (f : FileNode) : Except Error Url :=
  f.workspace.itemUrl f.path [f.name, Jcr.content]

/-- The document of the file, without its bytes. -/
def document (f : FileNode) : NodeDocument :=
  let content := (NodeDocument.new Jcr.resourceType).withProperty Jcr.mimeType (.string f.mimeType)
    |>.withProperty Jcr.lastModified (.string f.lastModified.format)
  let doc := (NodeDocument.new Jcr.fileType).withChild Jcr.content content
  if f.versionable then doc.withMixin Jcr.versionableType else doc

/-- The document with the bytes put into its content child. -/
def withData (doc : NodeDocument) (bytes : List UInt8) : NodeDocument :=
  let put (k : String) (c : NodeTree) : NodeTree :=
    if k == Jcr.content then c.withProperty Jcr.data (.string (Base64.encode bytes)) else c
  ⟨{ doc.tree with children := doc.tree.children.map fun p => (p.1, put p.1 p.2) },
    doc.ordered.mapChildren put fun k c hc => by
      by_cases hk : (k == Jcr.content) = true
      · simp only [put, if_pos hk]
        exact hc.of_children rfl
      · simp only [put, if_neg hk]
        exact hc⟩

/-- The body of a write: the document with the file's bytes, read now. -/
def content (fs : LocalFiles) (f : FileNode) : Except Error (List UInt8) :=
  match fs.read f.file with
  | .error e => .error e
  | .ok bytes => .ok (withData f.document bytes).toBytes

end FileNode

end ContentPublish

/-! ## Folders

A folder of the workspace is written as an `nt:folder` node. A folder can
be marked as a publish area, which adds the `mode:publishArea` mixin with
an optional title and description, each kept only when it is not blank and
then without the blanks around it; or unmarked, which writes an empty list
of mixins so that the server drops the marker.
-/

namespace ContentPublish

/-- What a write does to a folder's publish-area marker. -/
inductive PublishArea where
  /-- The marker is left as it is. -/
  | untouched
  /-- The marker is set, with an optional title and description. -/
  | marked (title description : Option String)
  /-- The marker is dropped. -/
  | unmarked
  deriving DecidableEq, Repr

/-- A folder at a path of a workspace. -/
structure FolderNode where
  workspace : Workspace
  path : String
  area : PublishArea

namespace FolderNode

/-- A folder whose marker is left as it is. -/
def new (workspace : Workspace) (path : String) : FolderNode := ⟨workspace, path, .untouched⟩

/-- A text kept without its surrounding blanks, if anything is left. -/
def keepText (value : Option String) : Option String :=
  match value with
  | some v =>
    let t := Text.trimBlank v
    if t.isEmpty then none else some t
  | none => none

/-- The folder marked as a publish area. -/
def markedAsPublishArea (f : FolderNode) (title description : Option String) : FolderNode :=
  { f with area := .marked (keepText title) (keepText description) }

/-- The folder with its marker dropped on the next write. -/
def unmarkedAsPublishArea (f : FolderNode) : FolderNode := { f with area := .unmarked }

/-- The URL of the folder. -/
def url (f : FolderNode) : Except Error Url := f.workspace.itemUrl f.path []

/-- The document written for the folder. -/
def document (f : FolderNode) : NodeDocument :=
  let doc := NodeDocument.new Jcr.folderType
  match f.area with
  | .untouched => doc
  | .marked title description =>
    let doc := doc.withMixin Jcr.publishAreaType
    let doc := match title with
      | some t => doc.withProperty Jcr.title (.string t)
      | none => doc
    match description with
    | some d => doc.withProperty Jcr.description (.string d)
    | none => doc
  | .unmarked => doc.withMixins (some [])

end FolderNode

end ContentPublish

/-! ## What the client writes to and reads from

The client addresses three kinds of places: folders, files, and the
descriptors of the server, a repository or a workspace. Each has a URL;
folders and files also have a document and the body of a write, and belong
to a workspace. A write of a file asks the server for a terse answer.
-/

namespace ContentPublish

/-- A descriptor the server lists: of itself, a repository, or a workspace. -/
inductive Descriptor where
  | server (s : Server)
  | repository (r : Repository)
  | workspace (w : Workspace)

/-- The URL of a descriptor. -/
def Descriptor.url : Descriptor → Except Error Url
  | .server s => s.discoveryUrl
  | .repository r => r.url
  | .workspace w => w.url

/-- A place the client addresses. -/
inductive PathNode where
  | folder (f : FolderNode)
  | file (f : FileNode)
  | descriptor (d : Descriptor)

namespace PathNode

/-- The URL of the place. -/
def url : PathNode → Except Error Url
  | .folder f => f.url
  | .file f => f.url
  | .descriptor d => d.url

/-- The URL a write goes to; a file asks for a terse answer. -/
def writeUrl (n : PathNode) : Except Error Url :=
  match n.url with
  | .error e => .error e
  | .ok u =>
    match n with
    | .file _ => .ok (u.setQuery (some Jcr.terseResponseQuery))
    | _ => .ok u

/-- The document of the place, without the bytes of a file. -/
def document : PathNode → Option NodeDocument
  | .folder f => some f.document
  | .file f => some f.document
  | .descriptor _ => none

/-- The body of a write, with the bytes of a file read now. -/
def content (fs : LocalFiles) : PathNode → Except Error (Option (List UInt8))
  | .folder f => .ok (some f.document.toBytes)
  | .file f => (f.content fs).map some
  | .descriptor _ => .ok none

/-- The workspace the place belongs to, if any. -/
def workspace? : PathNode → Option Workspace
  | .folder f => some f.workspace
  | .file f => some f.workspace
  | .descriptor (.workspace w) => some w
  | .descriptor _ => none

/-- A short label of the place. -/
def describe : PathNode → String
  | .folder f => "folder " ++ f.path
  | .file f => "file " ++ f.name ++ " in " ++ f.path
  | .descriptor (.server s) => "server " ++ s.url
  | .descriptor (.repository r) => "repository " ++ r.name
  | .descriptor (.workspace w) => "workspace " ++ w.display

end PathNode

end ContentPublish

/-! ## The texts of repositories, workspaces and nodes

A repository, a workspace and every node carry their server, and the
debug text of each shows that server by the server's own debug text, which
leaves the password out. The JSON forms of a repository and a workspace
leave the server out altogether: a repository is its name, a workspace its
name and its repository's.

The debug text of a file node shows the instant the file was last changed
by a debug text of instants that is given from outside.
-/

namespace ContentPublish

/-- An optional text as a debug text: `Some("…")` or `None`. -/
def debugOption (v : Option String) : String :=
  match v with
  | some s => "Some(" ++ Server.debugQuote s ++ ")"
  | none => "None"

/-- A quoted debug text of a local path, which escapes the single quote too. -/
def debugPath (s : String) : String :=
  "\"" ++ String.join (s.toList.map fun c => if c = '\x27' then "\\\x27" else Server.debugChar c) ++
    "\""

namespace Repository

/-- The debug text: the name, and the server by its own debug text. -/
def debugText (r : Repository) : String :=
  "Repository \x7b name: " ++ Server.debugQuote r.name ++ ", server: " ++ r.server.debugText ++
    " \x7d"

/-- The JSON form: the name only. -/
def toJson (r : Repository) : Json.Value := .object [("name", .string r.name)]

end Repository

namespace Workspace

/-- The debug text: the name, and the repository by its own debug text. -/
def debugText (w : Workspace) : String :=
  "Workspace \x7b name: " ++ Server.debugQuote w.name ++ ", repository: " ++
    w.repository.debugText ++ " \x7d"

/-- The JSON form: the name, and the repository by its JSON form. -/
def toJson (w : Workspace) : Json.Value :=
  .object [("name", .string w.name), ("repository", w.repository.toJson)]

end Workspace

/-- The debug text of a publish-area marker. -/
def PublishArea.debugText : PublishArea → String
  | .untouched => "Untouched"
  | .marked title description =>
    "Marked \x7b title: " ++ debugOption title ++ ", description: " ++ debugOption description ++
      " \x7d"
  | .unmarked => "Unmarked"

/-- The debug text of a folder node. -/
def FolderNode.debugText (f : FolderNode) : String :=
  "FolderNode \x7b workspace: " ++ f.workspace.debugText ++ ", path: " ++ Server.debugQuote f.path ++
    ", publish_area: " ++ f.area.debugText ++ " \x7d"

/-- The debug text of a file node, with `instant` the debug text of instants. -/
def FileNode.debugText (instant : Timestamp → String) (f : FileNode) : String :=
  "FileNode \x7b workspace: " ++ f.workspace.debugText ++ ", path: " ++ Server.debugQuote f.path ++
    ", file: " ++ debugPath f.file ++ ", name: " ++ Server.debugQuote f.name ++
    ", versionable: " ++ toString f.versionable ++ ", mime_type: " ++
    Server.debugQuote f.mimeType ++ ", last_modified: " ++ instant f.lastModified ++ " \x7d"

/-- The debug text of a descriptor: its kind around the debug text of what it
describes. -/
def Descriptor.debugText : Descriptor → String
  | .server s => "Server(" ++ s.debugText ++ ")"
  | .repository r => "Repository(" ++ r.debugText ++ ")"
  | .workspace w => "Workspace(" ++ w.debugText ++ ")"

/-- The debug text of a place, with `instant` the debug text of instants. -/
def PathNode.debugText (instant : Timestamp → String) : PathNode → String
  | .folder f => "Folder(" ++ f.debugText ++ ")"
  | .file f => "File(" ++ f.debugText instant ++ ")"
  | .descriptor d => "Descriptor(" ++ d.debugText ++ ")"

end ContentPublish
