import TenantRoutes.Command.Arguments
import TenantRoutes.Compiler.Platform
import TenantRoutes.Policy.Load
import TenantRoutes.Route.Json
/-! What commands do once their policy is loaded. A task tells which events come up and then either
why the command fails or its one effect: a text to print or a file to write. Nothing is printed or
written before all routes are compiled. -/
namespace TenantRoutes

open Log (Event)

/-- Why a command fails. -/
inductive Failure where
  | load (error : LoadError)
  /-- No site of the policy has the id that was asked for. -/
  | unknownSite (site config : String)
  | compile (error : CompileError)
  | file (error : FileError)
deriving DecidableEq

def Failure.describe : Failure → String
  | load error => error.describe
  | unknownSite site config =>
    Text.quoted ("site " ++ Text.quoted site ++ " not found in " ++ config)
  | compile error => error.describe
  | file error => error.describe

/-- The one effect of a command. -/
inductive Effect where
  | print (text : String)
  | write (path text : String)
deriving DecidableEq

structure Task where
  events : List Event
  result : Except Failure Effect

namespace Policy

/-- The policy of the sites with an id. -/
def onlySite (policy : Policy) (id : String) : Policy :=
  { policy with sites := policy.sites.filter (·.id == id) }

/-- The text of a policy's routes, with the events of compiling it. -/
def renderRoutes (policy : Policy) (layout : Json.Layout) :
    List Event × Except CompileError String :=
  let run := policy.compile
  match run.result with
  | .error error => (run.events, .error error)
  | .ok routes =>
    (run.events ++ [.compiledPolicy policy.sites.length routes.length],
      .ok (Route.render layout routes))

/-- The number of branches of all sites. -/
def branchCount (policy : Policy) : Nat :=
  (policy.sites.flatMap fun site => site.branches).length

end Policy

namespace Task

/-- Compile a policy and print the text of its routes or write it to a file. -/
def ofRoutes (policy : Policy) (layout : Json.Layout) (output : Option String) : Task :=
  match policy.renderRoutes layout with
  | (events, .error error) => ⟨events, .error (.compile error)⟩
  | (events, .ok text) =>
    match output with
    | none => ⟨events, .ok (.print (text ++ "\n"))⟩
    | some path => ⟨events, .ok (.write path text)⟩

/-- The summary of a valid policy. -/
def ofCheck (policy : Policy) (config : String) : Task :=
  ⟨[], .ok (.print (config ++ ": " ++ toString policy.sites.length ++ " sites, "
    ++ toString policy.branchCount ++ " branches, ok\n"))⟩

/-- What a command does with its policy. Watching begins by writing the routes. -/
def ofCommand (policy : Policy) (config : String) : Command → Task
  | .compile none layout output => ofRoutes policy layout output
  | .compile (some site) layout output =>
    let selected := policy.onlySite site
    if selected.sites.isEmpty then ⟨[], .error (.unknownSite site config)⟩
    else ofRoutes selected layout output
  | .check => ofCheck policy config
  | .watch output layout => ofRoutes policy layout (some output)

end Task

end TenantRoutes
