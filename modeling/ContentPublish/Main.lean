import ContentPublish.Cli

/-
  The command

  Reads the command line and the environment, and runs the batch. Setup
  failures end the run with status 1 and the step that failed with its
  cause; a refused command line ends it with status 2. Each file's outcome
  is printed as one JSON line.

  This build speaks to no network: its transport fails every request to
  connect, so a run ends at the validation of the server.
-/

open ContentPublish

/-- The transport of a build without network access. -/
def offline : Transport Unit :=
  ⟨fun _ _ s => (.error (.io .connectionRefused "no network transport in this build"), s)⟩

/-- A fresh trace id. -/
def freshTraceId : IO String := do
  let mut bytes : List Nat := []
  for _ in List.range 16 do
    bytes := bytes ++ [← IO.rand 0 255]
  return Cli.traceIdText bytes

/-- Report a setup failure and its cause. -/
def reportFailure (context : String) (cause : Error) : IO UInt32 := do
  IO.eprintln ("Error: " ++ context ++ "\n\nCaused by:\n    " ++ cause.message)
  return 1

def main (argv : List String) : IO UInt32 := do
  match Cli.parseArguments argv with
  | .error message =>
    IO.eprintln message
    return 2
  | .ok .help =>
    IO.println Cli.helpText
    return 0
  | .ok .version =>
    IO.println "nodepub 0.1.0"
    return 0
  | .ok (.run args) =>
    let timeout ← IO.getEnv timeoutVariable
    let agent ← IO.getEnv userAgentVariable
    let lookup (name : String) : Option String :=
      if name == timeoutVariable then timeout else if name == userAgentVariable then agent else none
    match RestClient.fromEnv lookup with
    | .error e => reportFailure "failed to create http client" e
    | .ok _ =>
      let files := match args.source with
        | .file f => [f]
        | .dir _ => []
      let world : World Unit := ⟨(), LocalFiles.empty, []⟩
      match ((Cli.runBatch offline args files).run world).1 with
      | .ok (.ok outcomes) =>
        for o in outcomes do
          IO.println (Cli.reportLine o (← freshTraceId))
        return 0
      | .ok (.error (context, cause)) => reportFailure context cause
      | .error e =>
        IO.eprintln ("Error: " ++ e.message)
        return 1
