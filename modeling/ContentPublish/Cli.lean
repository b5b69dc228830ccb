import ContentPublish.Model
import ContentPublish.Text.Basic
import ContentPublish.Client

/-
  Settings, arguments and batches of the command

  The command reads its settings from the environment and its arguments from
  the command line, validates the server, and publishes or unpublishes a
  batch of files, reporting each file's outcome as one JSON line.

  What is stated here:
    1. `ClientConfig` with `ClientConfig.default` and `ClientConfig.fromEnv`.
    2. `parseUnsigned` — an unsigned 64-bit decimal.
    3. `isHeaderValue`, `HttpTransport.new` and `RestClient.new`.
    4. `Source`, `Arguments` and `Command`.
    5. `parseArguments` — the command the arguments ask for.
    6. `Outcome` and `reportLine` — one file's outcome and its line.
    7. `attempt` — a session's result as a value.
    8. `runBatch` — connect, then publish or unpublish every file.
    9. `traceIdText` — a version 4 UUID from sixteen random bytes.
-/

/-! ## Client settings

A client is set up with a request timeout in milliseconds and the user
agent it sends. Both can come from the environment: the timeout from
`NODEPUB_TIMEOUT_MS`, read as an unsigned 64-bit decimal (a leading `+`
allowed) without its surrounding blanks, and kept only when it is above
zero; the user agent from `NODEPUB_USER_AGENT` without its surrounding
blanks, kept only when something is left.

Building the HTTP transport checks that the user agent can be sent as a
header value: every byte a visible ASCII character, a tab, or part of a
non-ASCII character.
-/

namespace ContentPublish

/-- The settings of a client. -/
structure ClientConfig where
  timeoutMs : Nat
  userAgent : String
  deriving DecidableEq, Repr

/-- The variable the timeout is read from. -/
def timeoutVariable : String := "NODEPUB_TIMEOUT_MS"

/-- The variable the user agent is read from. -/
def userAgentVariable : String := "NODEPUB_USER_AGENT"

/-- The default settings: thirty seconds, and the library's own agent. -/
def ClientConfig.default : ClientConfig := ⟨30000, "nodepub/0.1.0"⟩

/-- The value of decimal digits, if every character is one. -/
def digitsValue? (cs : List Char) : Option Nat :=
  cs.foldl (fun acc c => acc.bind fun n =>
    if c.isDigit then some (n * 10 + (c.toNat - 48)) else none) (some 0)

/-- An unsigned 64-bit decimal: digits, with an optional leading `+`, below
`2 ^ 64`. -/
def parseUnsigned (s : String) : Option Nat :=
  let digits := match s.toList with
    | '+' :: rest => rest
    | cs => cs
  if digits.isEmpty then none
  else
    match digitsValue? digits with
    | some n => if n < Nat.pow 2 64 then some n else none
    | none => none

/-- The settings from an environment, each falling back to its default. -/
def ClientConfig.fromEnv (lookup : String → Option String) : ClientConfig :=
  let timeout := (lookup timeoutVariable).bind fun raw =>
    (parseUnsigned (Text.trimBlank raw)).filter (· > 0)
  let agent := (lookup userAgentVariable).bind fun raw =>
    let t := Text.trimBlank raw
    if t.isEmpty then none else some t
  ⟨timeout.getD ClientConfig.default.timeoutMs, agent.getD ClientConfig.default.userAgent⟩

/-- A text that can be sent as a header value: no control character but the
tab, and no delete. -/
def isHeaderValue (s : String) : Bool :=
  s.toList.all fun c => (c.toNat ≥ 0x20 || c == '\t') && c.toNat != 0x7F

/-- The transport that speaks HTTP, with the settings it was built with. -/
structure HttpTransport where
  config : ClientConfig
  deriving DecidableEq, Repr

/-- Build the HTTP transport; a user agent that is no header value is refused. -/
def HttpTransport.new (config : ClientConfig) : Except Error HttpTransport :=
  if isHeaderValue config.userAgent then .ok ⟨config⟩ else .error (.http "builder error")

/-- How the HTTP transport shows itself: its settings stay hidden. -/
def HttpTransport.debugText (_ : HttpTransport) : String := "HttpTransport \x7b .. \x7d"

/-- A client over a transport. -/
structure RestClient (τ : Type) where
  transport : τ

/-- A client over HTTP with the given settings. -/
def RestClient.new (config : ClientConfig) : Except Error (RestClient HttpTransport) :=
  (HttpTransport.new config).map fun t => ⟨t⟩

/-- A client over HTTP with the settings of an environment. -/
def RestClient.fromEnv (lookup : String → Option String) :
    Except Error (RestClient HttpTransport) :=
  RestClient.new (ClientConfig.fromEnv lookup)

/-- How a client over HTTP shows itself. -/
def RestClient.debugText (c : RestClient HttpTransport) : String :=
  "RestClient \x7b transport: " ++ c.transport.debugText ++ " \x7d"

end ContentPublish

/-! ## Command-line arguments

The command publishes one file, or every regular file directly inside a
directory, to a folder of a workspace, or unpublishes them. It is given:
  * `--server <SERVER>`, `--repo <REPO>` and `--workspacepath <PATH>`,
    which are required;
  * exactly one of `--file <FILE>` and `--dir <DIR>`;
  * optionally `--workspacename` (default `default`), `--username` and
    `--pwd` (both default `admin`), and the flag `--unpublish`.
A value follows its option as the next argument or after `=`. An option
given twice, an unknown argument, a missing value and a missing required
option are refused with a message and the usage line.
-/

namespace ContentPublish.Cli

/-- What to publish: one file, or the files directly inside a directory. -/
inductive Source where
  | file (path : String)
  | dir (path : String)
  deriving DecidableEq, Repr

/-- The settings of one run. -/
structure Arguments where
  server : String
  repo : String
  workspaceName : String
  workspacePath : String
  source : Source
  username : String
  password : String
  unpublish : Bool
  deriving DecidableEq, Repr

/-- What the command line asks for. -/
inductive Command where
  | run (args : Arguments)
  | help
  | version
  deriving DecidableEq, Repr

/-- The options that take a value, with the name of the value. -/
def valueOptions : List (String × String) :=
  [("server", "SERVER"), ("repo", "REPO"), ("workspacename", "WORKSPACENAME"),
   ("workspacepath", "WORKSPACEPATH"), ("file", "FILE"), ("dir", "DIR"),
   ("username", "USERNAME"), ("pwd", "PWD")]

/-- The usage line. -/
def usage : String :=
  "Usage: nodepub --server <SERVER> --repo <REPO> --workspacepath <WORKSPACEPATH> " ++
    "<--file <FILE>|--dir <DIR>>"

/-- The help text. -/
def helpText : String :=
  "Publish files to a JCR repository over REST\n\n" ++ usage ++ "\n\nOptions:\n" ++
  "      --server <SERVER>\n      --repo <REPO>\n" ++
  "      --workspacename <WORKSPACENAME>  [default: default]\n" ++
  "      --workspacepath <WORKSPACEPATH>\n      --file <FILE>\n      --dir <DIR>\n" ++
  "      --username <USERNAME>            [default: admin]\n" ++
  "      --pwd <PWD>                      [default: admin]\n      --unpublish\n" ++
  "  -h, --help                           Print help\n  -V, --version                        Print version"

/-- A refusal, with the usage line. -/
def refuse (message : String) : String :=
  "error: " ++ message ++ "\n\n" ++ usage ++ "\n\nFor more information, try '--help'."

/-- The option and value of `--name=value` or `--name`. -/
def splitOption (arg : String) : Option (String × Option String) :=
  if arg.startsWith "--" then
    let body := (arg.toList.drop 2)
    match body.findIdx? (· == '=') with
    | some i => some (String.ofList (body.take i), some (String.ofList (body.drop (i + 1))))
    | none => some (String.ofList body, none)
  else none

/-- The spelling of an option with its value name, as messages show it. -/
def display (name : String) : String :=
  match valueOptions.find? (·.1 == name) with
  | some (_, v) => "--" ++ name ++ " <" ++ v ++ ">"
  | none => "--" ++ name

/-- Collect the options, each at most once. -/
def collect : List String → List (String × String) → Bool →
    Except String (Command ⊕ (List (String × String) × Bool))
  | [], acc, unpublish => .ok (.inr (acc, unpublish))
  | arg :: rest, acc, unpublish =>
    if arg == "-h" || arg == "--help" then .ok (.inl .help)
    else if arg == "-V" || arg == "--version" then .ok (.inl .version)
    else
      match splitOption arg with
      | none => .error (refuse ("unexpected argument '" ++ arg ++ "' found"))
      | some ("unpublish", none) =>
        if unpublish then
          .error (refuse "the argument '--unpublish' cannot be used multiple times")
        else collect rest acc true
      | some ("unpublish", some _) =>
        .error (refuse "unexpected value for '--unpublish'")
      | some (name, inline) =>
        if !(valueOptions.any (·.1 == name)) then
          .error (refuse ("unexpected argument '" ++ arg ++ "' found"))
        else if acc.any (·.1 == name) then
          .error (refuse ("the argument '" ++ display name ++ "' cannot be used multiple times"))
        else
          match inline with
          | some v => collect rest (acc ++ [(name, v)]) unpublish
          | none =>
            match rest with
            | v :: more =>
              if v.startsWith "--" then
                .error (refuse ("a value is required for '" ++ display name ++
                  "' but none was supplied"))
              else collect more (acc ++ [(name, v)]) unpublish
            | [] =>
              .error (refuse ("a value is required for '" ++ display name ++
                "' but none was supplied"))

/-- The command the arguments ask for. -/
def parseArguments (args : List String) : Except String Command :=
  match collect args [] false with
  | .error e => .error e
  | .ok (.inl c) => .ok c
  | .ok (.inr (given, unpublish)) =>
    let get (name : String) : Option String := (given.find? (·.1 == name)).map (·.2)
    let missing := ["server", "repo", "workspacepath"].filter fun n => (get n).isNone
    let missing := if (get "file").isNone && (get "dir").isNone then
        missing.map display ++ ["<--file <FILE>|--dir <DIR>>"]
      else missing.map display
    if !missing.isEmpty then
      .error (refuse ("the following required arguments were not provided:\n" ++
        "\n".intercalate (missing.map ("  " ++ ·))))
    else
      match get "file", get "dir" with
      | some _, some _ =>
        .error (refuse "the argument '--file <FILE>' cannot be used with '--dir <DIR>'")
      | file, dir =>
        let source := match file with
          | some f => Source.file f
          | none => Source.dir (dir.getD "")
        .ok (.run
          { server := (get "server").getD "", repo := (get "repo").getD "",
            workspaceName := (get "workspacename").getD "default",
            workspacePath := (get "workspacepath").getD "", source := source,
            username := (get "username").getD "admin", password := (get "pwd").getD "admin",
            unpublish })

end ContentPublish.Cli

/-! ## Publishing a batch of files

A run first validates the server and lists its repositories; either
failing ends the run with the step that failed and its cause. A
repository the server does not list is still used. Then each file is
published, or unpublished, in turn; a file that fails does not stop the
others. Each file's outcome is reported as one JSON line: the file, its
status, and for a failure the error report of the operation.
-/

namespace ContentPublish.Cli

/-- What became of one file. -/
structure Outcome where
  file : String
  operation : String
  status : Status

/-- The line reporting an outcome; `traceId` identifies a failure's report. -/
def reportLine (o : Outcome) (traceId : String) : String :=
  let error := match o.status.cause with
    | some e =>
      [("error", Json.Value.mkObject [("code", .string e.code), ("message", .string e.message),
        ("operation", .string o.operation), ("trace_id", .string traceId)])]
    | none => []
  let status := match o.status.toJson with
    | .object members => Json.Value.mkObject members
    | v => v
  (Json.Value.mkObject ([("file", .string o.file), ("status", status)] ++ error)).render

/-- A session's result as a value: its errors are caught. -/
def attempt {σ α : Type} (s : Session σ α) : Session σ (Except Error α) :=
  tryCatch (do return .ok (← s)) fun e => return .error e

/-- Connect to the server the arguments name, then publish or unpublish each
file; a failure to connect is the step that failed with its cause. -/
def runBatch {σ : Type} (t : Transport σ) (args : Arguments) (files : List String) :
    Session σ (Except (String × Error) (List Outcome)) := do
  match ← attempt (Session.validate t (Server.new args.server args.username args.password)) with
  | .error e => return .error ("failed to validate server " ++ args.server, e)
  | .ok server =>
    match ← attempt (Session.getRepositories t server) with
    | .error e => return .error ("failed to list repositories on " ++ args.server, e)
    | .ok _ =>
      let ws : Workspace := ⟨args.workspaceName, ⟨args.repo, server⟩⟩
      let operation := if args.unpublish then "unpublish" else "publish"
      let outcomes ← files.mapM fun file => do
        let status ← if args.unpublish then Session.unpublish t ws args.workspacePath file
          else Session.publish t ws args.workspacePath file
        return (⟨file, operation, status⟩ : Outcome)
      return .ok outcomes

/-- Two lowercase hex digits of a byte. -/
def hexPair (b : Nat) : String := String.ofList [Text.hexDigit (b / 16 % 16), Text.hexDigit (b % 16)]

/-- A version 4 UUID from sixteen random bytes: the version nibble is set to
4 and the variant bits to `10`. -/
def traceIdText (bytes : List Nat) : String :=
  let b (i : Nat) : Nat := bytes.getD i 0 % 256
  let fixed (i : Nat) : Nat :=
    if i = 6 then b 6 % 16 + 64 else if i = 8 then b 8 % 64 + 128 else b i
  let group (start count : Nat) : String :=
    String.join ((List.range count).map fun k => hexPair (fixed (start + k)))
  group 0 4 ++ "-" ++ group 4 2 ++ "-" ++ group 6 2 ++ "-" ++ group 8 2 ++ "-" ++ group 10 6

end ContentPublish.Cli
