import TenantRoutes.Command.Task
import TenantRoutes.Files.Tree
import TenantRoutes.Log.Filter
/-! Running a command on a tree of files. The report holds all that can be seen from outside: the
exit code, what was printed, the failure, the lines of the log and the files. -/
namespace TenantRoutes

open Log (Event Filter)

structure Report where
  exitCode : Nat
  printed : String := ""
  failure : Option Failure := none
  log : List String := []
  files : FileTree

/-- The directory that a path lies in; of a bare name it is the current one. -/
def directoryOf (path : String) : String :=
  let slashed := path.toList.reverse.dropWhile (· != '/')
  match slashed with
  | [] => "."
  | slashed =>
    match slashed.dropWhile (· == '/') with
    | [] => "/"
    | directory => String.ofList directory.reverse

namespace Invocation

/-- Events after a command did what it set out to do. -/
def closingEvents (invocation : Invocation) : Effect → List Event
  | .print _ => []
  | .write path text =>
    .routesWritten path text.utf8ByteSize ::
      match invocation.command with
      | .watch _ _ => [.watcherStarted invocation.config (directoryOf invocation.config)]
      | _ => []

/-- The exit code of a program that cannot set up its log. -/
def noLogExitCode : Nat := 101

/-- Run a command with its policy loaded and the filter of its log. -/
def runWith (invocation : Invocation) (policy : Policy) (filter : Filter) (files : FileTree) :
    Report :=
  let task := Task.ofCommand policy invocation.config invocation.command
  let events := .policyLoaded invocation.config policy.sites.length :: task.events
  let log (closing : List Event) := filter.lines policy.logging.withTarget (events ++ closing)
  match task.result with
  | .error failure => { exitCode := 1, failure := some failure, log := log [], files }
  | .ok (.print text) => { exitCode := 0, printed := text, log := log [], files }
  | .ok (.write path text) =>
    match files.write path text.toUTF8 with
    | .error error => { exitCode := 1, failure := some (.file error), log := log [], files }
    | .ok files =>
      { exitCode := 0, log := log (invocation.closingEvents (.write path text)), files }

/-- Load the policy, set up the log and run the command. -/
def run (invocation : Invocation) (environment : Option String) (files : FileTree) : Report :=
  match Policy.load (files.read invocation.config) with
  | .error error => { exitCode := 1, failure := some (.load error), files }
  | .ok policy =>
    match Filter.select? environment policy.logging.level with
    | none => { exitCode := noLogExitCode, files }
    | some filter => invocation.runWith policy filter files

end Invocation

/-- What is printed when help is asked for. -/
def usage : String :=
  "Usage: site-routes [OPTIONS] <COMMAND>\n\nCommands:\n"
    ++ "  compile  Compile routes and print them as JSON\n"
    ++ "  check    Validate the policy file\n"
    ++ "  watch    Recompile into a file whenever the policy changes\n\n"
    ++ "Options:\n  -c, --config <CONFIG>  Policy file [default: sites.toml]\n"

/-- Run a command line. `environment` is the filter of the log that the environment asks for. -/
def runCommandLine (arguments : List String) (environment : Option String) (files : FileTree) :
    Report :=
  match Arguments.parse arguments with
  | .malformed => { exitCode := 2, files }
  | .help => { exitCode := 0, printed := usage, files }
  | .run invocation => invocation.run environment files

end TenantRoutes
