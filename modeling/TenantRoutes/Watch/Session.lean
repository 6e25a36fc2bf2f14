import TenantRoutes.Command.Run
import TenantRoutes.Watch.Revision
/-! The watch command over time. It starts by loading the policy, writing its routes and only then
watching the directory. From there on a change of the file is first pending, then, when it is
handled, read and queued if accepted, and at last compiled and written. The file may change between
any two of these steps. A revision that is rejected or does not compile leaves the output as it
is. -/
namespace TenantRoutes

open Log (Event)

/-- How far the command has come. -/
inductive Stage where
  | starting
  | loaded (policy : Policy)
  | written
  | watching
  | ended (failure : Failure)

structure Session where
  config : String
  outputPath : String
  layout : Json.Layout
  file : PolicyFile
  stage : Stage := .starting
  /-- What was last written. -/
  output : Option String := none
  /-- The number of changes that are not handled yet. -/
  pending : Nat := 0
  /-- Accepted policies that are not compiled yet, oldest first. -/
  queue : List Policy := []
  events : List Event := []

namespace Session

def report (session : Session) (events : List Event) : Session :=
  { session with events := session.events ++ events }

/-- Replace the policy file. Only a watched directory makes the change known. -/
def replace (session : Session) (file : PolicyFile) : Session :=
  { session with
    file
    pending :=
      match session.stage with
      | .watching => session.pending + 1
      | _ => session.pending }

/-- Load the policy at the start. -/
def loadFirst (session : Session) : Session :=
  match session.file.load with
  | .error error => { session with stage := .ended (.load error) }
  | .ok policy =>
    { session with stage := .loaded policy }.report
      [.policyLoaded session.config policy.sites.length]

/-- Write the text of routes. -/
def write (session : Session) (text : String) : Session :=
  { session with output := some text }.report [.routesWritten session.outputPath text.utf8ByteSize]

/-- Write the routes of the first policy. -/
def writeFirst (session : Session) (policy : Policy) : Session :=
  match policy.renderRoutes session.layout with
  | (events, .error error) => { session.report events with stage := .ended (.compile error) }
  | (events, .ok text) => { (session.report events).write text with stage := .written }

/-- Begin to watch the directory. -/
def beginWatching (session : Session) : Session :=
  { session with stage := .watching }.report
    [.watcherStarted session.config (directoryOf session.config)]

/-- The next step of starting up. -/
def startStep (session : Session) : Session :=
  match session.stage with
  | .starting => session.loadFirst
  | .loaded policy => session.writeFirst policy
  | .written => session.beginWatching
  | .watching | .ended _ => session

/-- Start up without a change of the file on the way. -/
def start (session : Session) : Session :=
  session.startStep.startStep.startStep

/-- Handle one pending change: read the file as it is now and queue its policy if it is accepted. -/
def handleChange (session : Session) : Session :=
  match session.pending with
  | 0 => session
  | pending + 1 =>
    let session := { session with pending }
    match session.file.load with
    | .error error => session.report [.reloadRejected session.config error.message]
    | .ok policy =>
      { session with queue := session.queue ++ [policy] }.report
        [.readPolicy session.config policy.sites.length,
          .policyReloaded session.config policy.sites.length]

/-- Compile the oldest queued policy; the text of its routes is what has to be written next. -/
def compileNext (session : Session) : Session × Option String :=
  match session.queue with
  | [] => (session, none)
  | policy :: queue =>
    let session := { session with queue }
    match policy.renderRoutes session.layout with
    | (events, .error error) =>
      (session.report (events ++ [.compilationFailed error.message]), none)
    | (events, .ok text) => (session.report events, some text)

/-- Compile the oldest queued policy, and write its routes if there are any to write. -/
def takePolicy (session : Session) : Session :=
  match session.compileNext with
  | (session, none) => session
  | (session, some text) => session.write text

/-- Replace the policy file and wait until nothing is left to do. -/
def revise (session : Session) (file : PolicyFile) : Session :=
  (session.replace file).handleChange.takePolicy

end Session

end TenantRoutes
