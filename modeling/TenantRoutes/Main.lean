import TenantRoutes.Command.Run
import TenantRoutes.Watch.Session
/-! The program. It reads the policy, prints and writes what the task of the command says, and
shows the log on standard error. While it watches, it looks at the policy file once a second. -/
namespace TenantRoutes

open Log (Event Filter)

/-- The failure that an error of the system stands for. -/
def fileErrorOf : IO.Error → FileError
  | .noFileOrDirectory .. => .notFound
  | .inappropriateType _ 20 _ => .notDirectory
  | .inappropriateType .. => .isDirectory
  | error => .other (toString error)

def readFile (path : String) : IO (Except FileError ByteArray) := do
  try
    return .ok (← IO.FS.readBinFile path)
  catch error =>
    return .error (fileErrorOf error)

def writeFile (path text : String) : IO (Except FileError Unit) := do
  try
    IO.FS.writeFile path text
    return .ok ()
  catch error =>
    return .error (fileErrorOf error)

/-- Show the lines of the events that the filter lets through. -/
def showEvents (filter : Filter) (withTarget : Bool) (events : List Event) : IO Unit := do
  let stderr ← IO.getStderr
  for line in filter.lines withTarget events do
    stderr.putStrLn line
  stderr.flush

def failWith (failure : Failure) : IO UInt32 := do
  IO.eprintln ("Error: " ++ failure.describe)
  return 1

/-- Look at the policy file again and again, and let the session handle every change of it. -/
partial def watchLoop (session : Session) (showNow : List Event → IO Unit) : IO UInt32 := do
  IO.sleep 1000
  let file := (← readFile session.config).toOption
  if file == session.file then watchLoop session showNow
  else
    let (session, text?) := (session.replace file).handleChange.compileNext
    showNow session.events
    let session := { session with events := [] }
    match text? with
    | none => watchLoop session showNow
    | some text =>
      match ← writeFile session.outputPath text with
      | .error error => failWith (.file error)
      | .ok () =>
        let session := session.write text
        showNow session.events
        watchLoop { session with events := [] } showNow

/-- Do the task of a command, and go on watching if it asks for it. -/
def runWith (invocation : Invocation) (policy : Policy) (file : PolicyFile)
    (showNow : List Event → IO Unit) : IO UInt32 := do
  let task := Task.ofCommand policy invocation.config invocation.command
  showNow (.policyLoaded invocation.config policy.sites.length :: task.events)
  match task.result with
  | .error failure => failWith failure
  | .ok (.print text) =>
    IO.print text
    return 0
  | .ok (.write path text) =>
    match ← writeFile path text with
    | .error error => failWith (.file error)
    | .ok () =>
      showNow (invocation.closingEvents (.write path text))
      match invocation.command with
      | .watch outputPath layout =>
        let session : Session :=
          { config := invocation.config, outputPath, layout, file, stage := .watching,
            output := some text }
        watchLoop session showNow
      | _ => return 0

def runInvocation (invocation : Invocation) : IO UInt32 := do
  let content ← readFile invocation.config
  match Policy.load content with
  | .error error => failWith (.load error)
  | .ok policy =>
    match Filter.select? (← IO.getEnv "RUST_LOG") policy.logging.level with
    | none => return UInt32.ofNat Invocation.noLogExitCode
    | some filter =>
      runWith invocation policy content.toOption (showEvents filter policy.logging.withTarget)

end TenantRoutes

open TenantRoutes in
def main (arguments : List String) : IO UInt32 :=
  match Arguments.parse arguments with
  | .malformed => do
    IO.eprint usage
    return 2
  | .help => do
    IO.print usage
    return 0
  | .run invocation => runInvocation invocation
