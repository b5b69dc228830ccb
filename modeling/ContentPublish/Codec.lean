import ContentPublish.Model
import ContentPublish.Json.Value
import ContentPublish.Text.Basic
import ContentPublish.KeyMap

/-
  Reading the server's answers

  Every answer body is JSON, read with the reader's faults kept. From it
  come the protocol a server speaks, the repositories and workspaces it
  lists, the bytes of a file, the rows of a query and the node types of a
  repository.

  What is stated here:
    1. `parseBody` and `parseObject` — the JSON of an answer.
    2. `decodeBinary` — the bytes of a base64 payload.
    3. `determineVersion` — the protocol a discovery document speaks.
    4. `collectionNames`, `decodeRepositories` and `decodeWorkspaces`.
    5. `decodeFileContents` — the bytes a file's content node holds.
    6. `scalarText` — the text of a type or value.
    7. `stripBinarySuffix` — the name of a binary column.
    8. `decodeQueryRows` — the rows of an answer.
    9. `flagOf`, `textOf` and `textListOf` — reading properties.
    10. `decodeNodeType` — one node type.
    11. `decodeNodeTypes` — all node types by name.
-/

/-! ## Reading the server's answers

Every answer body is JSON. A body that is not is refused with the reader's
fault and the body itself; most answers must moreover be objects.

The discovery document tells the protocol: the second version lists its
repositories in an array under `repositories`. A listing of repositories
or workspaces is either such an array of entries with a `name`, or an
object whose keys are the names. Binary payloads are base64 texts, read
without the blanks around them.
-/

namespace ContentPublish

/-- The JSON of an answer body. -/
def parseBody (body : String) : Except Error Json.Value :=
  match Json.parse body with
  | .ok v => .ok v
  | .error e => .error (Error.malformedJson e body)

/-- The members of an answer body that must be an object. -/
def parseObject (body : String) : Except Error Json.Object :=
  match parseBody body with
  | .error e => .error e
  | .ok (.object fields) => .ok fields
  | .ok _ => .error (Error.decode "expected a JSON object" body)

/-- The bytes of a base64 payload, read without the blanks around it. -/
def decodeBinary (encoded : String) : Except Error (List UInt8) :=
  match Base64.decode (Text.utf8 (Text.trimBlank encoded)) with
  | .ok bytes => .ok bytes
  | .error e => .error (.base64 e)

/-- The protocol a discovery document speaks: the second version lists its
repositories in an array. -/
def determineVersion (body : String) : Except Error ProtocolVersion :=
  match parseBody body with
  | .error e => .error e
  | .ok doc =>
    match doc.get? "repositories" with
    | some (.array _) => .ok .v2
    | _ => .ok .v1

/-- The names of the entries of an array, each of which must have a string
`name`. -/
def entryNames (key body : String) : List Json.Value → Except Error (List String)
  | [] => .ok []
  | entry :: rest =>
    match entry.get? "name" with
    | some (.string name) =>
      match entryNames key body rest with
      | .ok names => .ok (name :: names)
      | .error e => .error e
    | _ => .error (Error.decode ("`" ++ key ++ "` entry without a `name`") body)

/-- The names a listing holds: those of the entries under `key`, when that is
an array, or else the keys of the object. -/
def collectionNames (body key : String) : Except Error (List String) :=
  match parseObject body with
  | .error e => .error e
  | .ok doc =>
    match doc.get? key with
    | some (.array entries) => entryNames key body entries
    | _ => .ok doc.keys

/-- The repositories a server lists. -/
def decodeRepositories (server : Server) (body : String) : Except Error (List Repository) :=
  (collectionNames body "repositories").map fun names => names.map fun name => ⟨name, server⟩

/-- The workspaces a repository lists. -/
def decodeWorkspaces (repository : Repository) (body : String) : Except Error (List Workspace) :=
  (collectionNames body "workspaces").map fun names => names.map fun name => ⟨name, repository⟩

/-- The bytes a file's content node holds in its `jcr:data` property. -/
def decodeFileContents (body : String) : Except Error (List UInt8) :=
  match parseObject body with
  | .error e => .error e
  | .ok doc =>
    match (doc.get? "properties").bind (·.get? "jcr:data") with
    | some (.string encoded) => decodeBinary encoded
    | _ => .error (Error.decode "missing `jcr:data`" body)

end ContentPublish

/-! ## Reading query answers

A query answer is an object with the rows under `rows`, each an object of
columns, and optionally the column types under `types`, which all rows
share. A null type or value is left out; a string is kept as it is; any
other value is kept as its JSON text.

A column whose name ends in `/base64/` or `_base64` holds bytes: its value
must be a base64 string, and it is kept under the name without that
ending. When two columns come to the same name, the later one in key order
wins.
-/

namespace ContentPublish

/-- The text of a type or a value: none for null, a string as it is, any
other value as its JSON text. -/
def scalarText : Json.Value → Option String
  | .null => none
  | .string s => some s
  | v => some v.render

/-- The endings that mark a binary column, in the order they are tried. -/
def binarySuffixes : List String := ["/base64/", "_base64"]

/-- The name of a binary column without its ending. -/
def stripBinarySuffix (column : String) : Option String :=
  binarySuffixes.findSome? fun suffix =>
    if column.endsWith suffix then some (String.ofList (column.toList.take (column.length - suffix.length)))
    else none

/-- The values of one row, from its columns in key order. -/
def rowValues (body : String) :
    KeyMap QueryValue → Json.Object → Except Error (KeyMap QueryValue)
  | acc, [] => .ok acc
  | acc, (column, value) :: rest =>
    match stripBinarySuffix column with
    | some name =>
      match value with
      | .string encoded =>
        match decodeBinary encoded with
        | .ok bytes => rowValues body (acc.insert name (.binary bytes)) rest
        | .error e => .error e
      | _ => .error (Error.decode ("binary column `" ++ column ++ "` is not a string") body)
    | none =>
      match scalarText value with
      | some text => rowValues body (acc.insert column (.text text)) rest
      | none => rowValues body acc rest

/-- The rows of an answer, each sharing the column types. -/
def decodeRows (body : String) (types : KeyMap String) :
    List Json.Value → Except Error (List QueryRow)
  | [] => .ok []
  | .object columns :: rest =>
    match rowValues body .empty columns with
    | .error e => .error e
    | .ok values =>
      match decodeRows body types rest with
      | .ok rows => .ok (⟨types, values⟩ :: rows)
      | .error e => .error e
  | _ :: _ => .error (Error.decode "query row is not an object" body)

/-- The rows of a query answer. -/
def decodeQueryRows (body : String) : Except Error (List QueryRow) :=
  match parseObject body with
  | .error e => .error e
  | .ok doc =>
    let types : Except Error (KeyMap String) :=
      match doc.get? "types" with
      | none => .ok .empty
      | some (.object kinds) =>
        .ok (kinds.foldl (fun acc (column, kind) =>
          match scalarText kind with
          | some k => acc.insert column k
          | none => acc) .empty)
      | some _ => .error (Error.decode "`types` is not an object" body)
    match types with
    | .error e => .error e
    | .ok types =>
      match doc.get? "rows" with
      | some (.array rows) => decodeRows body types rows
      | _ => .error (Error.decode "missing `rows` array" body)

end ContentPublish

/-! ## Reading node types

The node types of a repository are the children of the `jcr:nodeTypes`
node, each with its properties and, among its own children, its property
and child node definitions. A definition child is named
`jcr:propertyDefinition` or `jcr:childNodeDefinition`, alone or followed
by an index in brackets.

Properties are read leniently. A flag is set by the boolean `true` or by a
string that reads `true` in any ASCII case, blanks around it allowed. A
text is taken without its surrounding blanks, and an empty one counts as
missing: a definition without a name is residual (`*`), and a property
definition without a type takes any (`UNDEFINED`). A list of names is an
array of strings, or one string that is not blank.

Node types are keyed by their `jcr:nodeTypeName`, or by their child name
when they have none; when two come to the same name, the later child in
key order wins.
-/

namespace ContentPublish

/-- A flag property: the boolean `true`, or a string reading `true`. -/
def flagOf (props : Json.Object) (key : String) : Bool :=
  match props.get? key with
  | some (.bool b) => b
  | some (.string raw) => (Text.trimBlank raw).toLower == "true"
  | _ => false

/-- A text property without its surrounding blanks; an empty one is missing. -/
def textOf (props : Json.Object) (key : String) : Option String :=
  match props.get? key with
  | some (.string raw) =>
    let t := Text.trimBlank raw
    if t.isEmpty then none else some t
  | _ => none

/-- A list property: the strings of an array, or one string that is not blank. -/
def textListOf (props : Json.Object) (key : String) : List String :=
  match props.get? key with
  | some (.array items) => items.filterMap Json.Value.asString?
  | some (.string single) => if Text.isBlankText single then [] else [single]
  | _ => []

/-- The properties of a node, or none. -/
def propertiesOf (node : Json.Value) : Json.Object :=
  match node.get? "properties" with
  | some (.object props) => props
  | _ => []

/-- The key is `base`, alone or followed by an index in brackets. -/
def isSiblingOf (key base : String) : Bool :=
  key == base || (key.startsWith base && (key.drop base.length).startsWith "[")

/-- The definitions among a node type's children, in key order. -/
def definitionsOf (children : Json.Object) :
    List PropertyDefinition × List ChildNodeDefinition :=
  children.foldl (fun (ps, cs) (key, child) =>
    let props := propertiesOf child
    if isSiblingOf key "jcr:propertyDefinition" then
      (ps ++ [{ name := (textOf props "jcr:name").getD "*",
                requiredType := (textOf props "jcr:requiredType").getD "UNDEFINED",
                multiple := flagOf props "jcr:multiple",
                mandatory := flagOf props "jcr:mandatory",
                autocreated := flagOf props "jcr:autoCreated" }], cs)
    else if isSiblingOf key "jcr:childNodeDefinition" then
      (ps, cs ++ [{ name := (textOf props "jcr:name").getD "*",
                    requiredPrimaryTypes := textListOf props "jcr:requiredPrimaryTypes",
                    defaultPrimaryType := textOf props "jcr:defaultPrimaryType" }])
    else (ps, cs)) ([], [])

/-- The node type of a child of the node type listing. -/
def decodeNodeType (key : String) (node : Json.Value) : NodeType :=
  let props := propertiesOf node
  let (ps, cs) :=
    match node.get? "children" with
    | some (.object children) => definitionsOf children
    | _ => ([], [])
  { name := (textOf props "jcr:nodeTypeName").getD key,
    supertypes := textListOf props "jcr:supertypes",
    isMixin := flagOf props "jcr:isMixin",
    isAbstract := flagOf props "jcr:isAbstract",
    isQueryable := flagOf props "jcr:isQueryable",
    primaryItemName := textOf props "jcr:primaryItemName",
    propertyDefinitions := ps,
    childNodeDefinitions := cs }

/-- The node types of a listing, by name. -/
def decodeNodeTypes (body : String) : Except Error (List (String × NodeType)) :=
  match parseObject body with
  | .error e => .error e
  | .ok doc =>
    match doc.get? "children" with
    | some (.object children) =>
      .ok (children.foldl (fun acc (key, node) =>
        let t := decodeNodeType key node
        insertSorted acc t.name t) [])
    | _ => .error (Error.decode "missing `children` of node types" body)

end ContentPublish
