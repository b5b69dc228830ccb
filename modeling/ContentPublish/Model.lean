import ContentPublish.Json.Reader
import ContentPublish.Text.Base64
import ContentPublish.Json.Value
import ContentPublish.Text.Basic
import ContentPublish.Text.Properties
import ContentPublish.KeyMap

/-
  The library's data: errors, servers, statuses, node types and rows

  The values the client hands back to its callers: the causes of failure,
  the servers, repositories and workspaces it speaks to, the status of a
  publishing operation, the node types of a repository, and the rows a query
  answers. Each has a JSON form, and none of them shows a password.

  What is stated here:
    1. `Error.code` and `Error.message` — the code and the text of a cause.
    2. `Error.payload` — the report of an error for one operation.
    3. `Server.toJson` and `Server.debugText` — the two texts of a server,
       neither of which reads the password.
    4. `Server.baseUrl` — the validated URL, or the server's own.
    5. `Status.toJson` — the JSON form, the cause written as its text.
    6. `NodeType.toJson` — the JSON form, fields in declaration order.
    7. `QueryRow.toJson` — the JSON form; a binary value is written as padded
       base64.
-/

/-! ## Errors

Every failure of the library is one of ten causes, each with a stable code
and one wording. Reading a local file, or a transport that cannot reach its
server, fails with an I/O error whose text is kept as it was given. The
wording of a malformed server answer quotes the answer, and the wording of
a refused query language lists the valid ones.
-/

namespace ContentPublish

/-- The kind of an I/O failure. -/
inductive IoKind where
  | notFound
  | permissionDenied
  | connectionRefused
  | invalidInput
  | timedOut
  | notADirectory
  | other
  deriving DecidableEq, Repr

/-- Why an operation failed. -/
inductive Error where
  /-- The server did not pass validation. -/
  | validation (server message : String)
  /-- A server answer could not be read; `fromJson` when the text was not JSON. -/
  | protocolDecode (message body : String) (fromJson : Bool)
  /-- The server refused a write or a listing with an unexpected status. -/
  | remoteOperation (operation : String) (status : Nat) (message : String)
  /-- The server refused a query. -/
  | invalidQuery (message : String)
  /-- The query language is not one of the known four. -/
  | invalidLanguage (language valid : String)
  /-- A URL could not be built. -/
  | invalidUrl (message : String)
  /-- A local file or the connection failed. -/
  | io (kind : IoKind) (message : String)
  /-- A text was not JSON. -/
  | json (error : Json.SyntaxError)
  /-- A text was not canonical base64. -/
  | base64 (error : Base64.DecodeError)
  /-- The HTTP client could not be built. -/
  | http (message : String)
  deriving DecidableEq, Repr

namespace Error

/-- The stable code of a cause. -/
def code : Error → String
  | .validation .. => "VALIDATION_FAILED"
  | .protocolDecode .. => "PROTOCOL_DECODE"
  | .remoteOperation .. => "REMOTE_OPERATION_FAILED"
  | .invalidQuery .. => "INVALID_QUERY"
  | .invalidLanguage .. => "INVALID_LANGUAGE"
  | .invalidUrl .. => "INVALID_URL"
  | .io .. => "IO_ERROR"
  | .json .. => "JSON_ERROR"
  | .base64 .. => "BASE64_ERROR"
  | .http .. => "HTTP_ERROR"

/-- The text of a cause. -/
def message : Error → String
  | .validation server msg => "server validation failed for " ++ server ++ ": " ++ msg
  | .protocolDecode msg body _ => "could not decode server response (" ++ msg ++ "): " ++ body
  | .remoteOperation op status msg =>
    "remote operation `" ++ op ++ "` failed with status " ++ toString status ++ ": " ++ msg
  | .invalidQuery msg => "invalid query: " ++ msg
  | .invalidLanguage language valid =>
    "invalid query language `" ++ language ++ "`; valid languages are: " ++ valid
  | .invalidUrl msg => "invalid url: " ++ msg
  | .io _ msg => msg
  | .json e => e.message
  | .base64 e => e.message
  | .http msg => msg

/-- A malformed-answer error that carries the fault of the JSON text. -/
def hasSource : Error → Bool
  | .protocolDecode _ _ fromJson => fromJson
  | _ => false

/-- An answer that did not decode, with the reason. -/
def decode (message body : String) : Error := .protocolDecode message body false

/-- An answer that was not JSON. -/
def malformedJson (e : Json.SyntaxError) (body : String) : Error :=
  .protocolDecode e.message body true

/-- The report of an error: code, text, operation and the URI concerned. -/
def payload (e : Error) (operation : String) (uri : Option String) : Json.Value :=
  .object ([("code", .string e.code), ("message", .string e.message),
    ("operation", .string operation)] ++
    match uri with
    | some u => [("uri", .string u)]
    | none => [])

end Error

end ContentPublish

/-! ## Servers, repositories and workspaces

A server is reached at a URL with a user and a password. Once validated it
also knows the protocol version it speaks and the base URL under which its
repositories live; until then the base URL is its own URL. The password is
a secret: neither the JSON form nor the debug text of a server shows it.

A repository is a name on a server, and a workspace is a name in a
repository, written `repository/workspace`.
-/

namespace ContentPublish

/-- The protocol generation a server speaks. -/
inductive ProtocolVersion where
  | v1
  | v2
  deriving DecidableEq, Repr

/-- The name of a protocol version. -/
def ProtocolVersion.name : ProtocolVersion → String
  | .v1 => "v1"
  | .v2 => "v2"

/-- A content repository server. -/
structure Server where
  url : String
  user : String
  password : String
  validatedUrl : Option String
  protocol : Option ProtocolVersion
  deriving DecidableEq, Repr

namespace Server

/-- A server at a URL, the URL cut of its surrounding blanks. -/
def new (url user password : String) : Server :=
  { url := Text.trimBlank url, user, password, validatedUrl := none, protocol := none }

/-- The same server, validated with a base URL and a protocol. -/
def asValidated (s : Server) (baseUrl : String) (protocol : ProtocolVersion) : Server :=
  { s with validatedUrl := some baseUrl, protocol := some protocol }

/-- The same server, as before validation. -/
def unvalidated (s : Server) : Server := { s with validatedUrl := none, protocol := none }

/-- The URL under which the repositories live. -/
def baseUrl (s : Server) : String := s.validatedUrl.getD s.url

/-- The server has been validated. -/
def isValidated (s : Server) : Bool := s.protocol.isSome

/-- The JSON form: URL, user, and the validation when there is one. -/
def toJson (s : Server) : Json.Value :=
  .object ([("url", .string s.url), ("user", .string s.user)] ++
    (match s.validatedUrl with
     | some v => [("validated_url", .string v)]
     | none => []) ++
    (match s.protocol with
     | some p => [("protocol", .string p.name)]
     | none => []))

/-- A character inside a quoted debug text. -/
def debugChar (c : Char) : String :=
  if c = '"' then "\\\""
  else if c = '\\' then "\\\\"
  else if c = '\n' then "\\n"
  else if c = '\r' then "\\r"
  else if c = '\t' then "\\t"
  else if c = '\x00' then "\\0"
  else if Text.shownEscaped c then
    "\\u\x7b" ++ String.ofList (Nat.toDigits 16 c.toNat) ++ "\x7d"
  else String.singleton c

/-- A quoted debug text. -/
def debugQuote (s : String) : String := "\"" ++ String.join (s.toList.map debugChar) ++ "\""

/-- The debug text: every field but the password. -/
def debugText (s : Server) : String :=
  let opt (f : String) : String := "Some(" ++ f ++ ")"
  "Server \x7b url: " ++ debugQuote s.url ++ ", user: " ++ debugQuote s.user ++
    ", validated_url: " ++ (match s.validatedUrl with
      | some v => opt (debugQuote v)
      | none => "None") ++
    ", protocol: " ++ (match s.protocol with
      | some .v1 => opt "V1"
      | some .v2 => opt "V2"
      | none => "None") ++ ", .. \x7d"

end Server

/-- A repository on a server. -/
structure Repository where
  name : String
  server : Server
  deriving DecidableEq, Repr

/-- A workspace in a repository. -/
structure Workspace where
  name : String
  repository : Repository
  deriving DecidableEq, Repr

/-- The server of a workspace. -/
def Workspace.server (w : Workspace) : Server := w.repository.server

/-- The text of a workspace: `repository/workspace`. -/
def Workspace.display (w : Workspace) : String := w.repository.name ++ "/" ++ w.name

end ContentPublish

/-! ## The outcome of a publishing operation

Publishing, removing and marking report a status instead of failing: it
is `ok`, `info` (nothing had to be done) or `error`, with a message, and
for an error the cause.
-/

namespace ContentPublish

/-- How an operation ended. -/
inductive Severity where
  | ok
  | info
  | error
  deriving DecidableEq, Repr

/-- The name of a severity. -/
def Severity.name : Severity → String
  | .ok => "ok"
  | .info => "info"
  | .error => "error"

/-- The outcome of a publishing operation. -/
structure Status where
  severity : Severity
  message : String
  cause : Option Error
  deriving DecidableEq, Repr

namespace Status

/-- Success. -/
def ok : Status := ⟨.ok, "ok", none⟩

/-- Nothing had to be done. -/
def info (message : String) : Status := ⟨.info, message, none⟩

/-- Failure, with its cause. -/
def error (message : String) (cause : Error) : Status := ⟨.error, message, some cause⟩

/-- The operation succeeded. -/
def isOk (s : Status) : Bool := s.severity == .ok

/-- The operation failed. -/
def isError (s : Status) : Bool := s.severity == .error

/-- The JSON form: severity, message, and the cause's text if any. -/
def toJson (s : Status) : Json.Value :=
  .object ([("severity", .string s.severity.name), ("message", .string s.message)] ++
    match s.cause with
    | some e => [("cause", .string e.message)]
    | none => [])

end Status

end ContentPublish

/-! ## Node types

A node type has a name, its supertypes, three flags, an optional primary
item, and the definitions of the properties and child nodes its nodes may
have. A definition named `*` is residual: it applies to any name.
-/

namespace ContentPublish

/-- What a node type allows for a property. -/
structure PropertyDefinition where
  name : String
  requiredType : String
  multiple : Bool
  mandatory : Bool
  autocreated : Bool
  deriving DecidableEq, Repr

/-- What a node type allows for a child node. -/
structure ChildNodeDefinition where
  name : String
  requiredPrimaryTypes : List String
  defaultPrimaryType : Option String
  deriving DecidableEq, Repr

/-- A node type of a repository. -/
structure NodeType where
  name : String
  supertypes : List String
  isMixin : Bool
  isAbstract : Bool
  isQueryable : Bool
  primaryItemName : Option String
  propertyDefinitions : List PropertyDefinition
  childNodeDefinitions : List ChildNodeDefinition
  deriving DecidableEq, Repr

/-- The JSON form of a property definition. -/
def PropertyDefinition.toJson (d : PropertyDefinition) : Json.Value :=
  .object [("name", .string d.name), ("required_type", .string d.requiredType),
    ("multiple", .bool d.multiple), ("mandatory", .bool d.mandatory),
    ("autocreated", .bool d.autocreated)]

/-- The JSON form of a child node definition. -/
def ChildNodeDefinition.toJson (d : ChildNodeDefinition) : Json.Value :=
  .object ([("name", .string d.name),
    ("required_primary_types", Json.Value.ofStrings d.requiredPrimaryTypes)] ++
    match d.defaultPrimaryType with
    | some t => [("default_primary_type", .string t)]
    | none => [])

/-- The JSON form of a node type. -/
def NodeType.toJson (t : NodeType) : Json.Value :=
  .object ([("name", .string t.name), ("supertypes", Json.Value.ofStrings t.supertypes),
    ("is_mixin", .bool t.isMixin), ("is_abstract", .bool t.isAbstract),
    ("is_queryable", .bool t.isQueryable)] ++
    (match t.primaryItemName with
     | some n => [("primary_item_name", .string n)]
     | none => []) ++
    [("property_definitions", .array (t.propertyDefinitions.map PropertyDefinition.toJson)),
     ("child_node_definitions", .array (t.childNodeDefinitions.map ChildNodeDefinition.toJson))])

end ContentPublish

/-! ## Query results

A query answers rows. Every row maps column names to values, text or
binary, and shares with the other rows of the answer a map from column
names to their types. A column may have a type and no value in a row.
-/

namespace ContentPublish

/-- The value of a column in a row. -/
inductive QueryValue where
  | text (s : String)
  | binary (bytes : List UInt8)
  deriving DecidableEq, Repr

/-- The text of a text value. -/
def QueryValue.asText? : QueryValue → Option String
  | .text s => some s
  | .binary _ => none

/-- The bytes of a binary value. -/
def QueryValue.asBytes? : QueryValue → Option (List UInt8)
  | .text _ => none
  | .binary b => some b

/-- A row of a query answer: the column types it shares with the other rows,
and its own values, each a map by column name. -/
structure QueryRow where
  types : KeyMap String
  values : KeyMap QueryValue
  deriving DecidableEq, Repr

namespace QueryRow

/-- The value of a column. -/
def value? (r : QueryRow) (column : String) : Option QueryValue := r.values.get? column

/-- The type of a column, whether or not the row has a value for it. -/
def columnType? (r : QueryRow) (column : String) : Option String := r.types.get? column

/-- The JSON form: the column types, and the values as strings. -/
def toJson (r : QueryRow) : Json.Value :=
  .object [("types", .object (r.types.entries.map fun (k, t) => (k, .string t))),
    ("values", .object (r.values.entries.map fun (k, v) => (k, match v with
      | .text s => .string s
      | .binary b => .string (Base64.encode b))))]

end QueryRow

end ContentPublish
