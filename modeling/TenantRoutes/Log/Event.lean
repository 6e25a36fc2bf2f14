/-! Events of the log. Each event is one fact with its data; how severe it is, where it belongs and
how it is worded follows from the kind of the fact. -/
namespace TenantRoutes.Log

inductive Level where
  | error
  | warn
  | info
  | debug
  | trace
deriving DecidableEq

namespace Level

/-- Greater ranks are for more detail. -/
def rank : Level → Nat
  | error => 1
  | warn => 2
  | info => 3
  | debug => 4
  | trace => 5

def text : Level → String
  | error => "ERROR"
  | warn => "WARN"
  | info => "INFO"
  | debug => "DEBUG"
  | trace => "TRACE"

end Level

/-- The value of a field of an event. -/
inductive Value where
  | text (value : String)
  | count (value : Nat)
  | flag (value : Bool)
deriving DecidableEq

def Value.toText : Value → String
  | text value => value
  | count value => toString value
  | flag value => if value then "true" else "false"

/-- What is reported. The first six kinds belong to the compilation of routes, the others to
reading a policy, to watching its file and to the program. -/
inductive Event where
  | resolvedDomains (site : String) (domains : Nat)
  | builtContentRoute (site branch : String) (singlePage : Bool) (handlers : Nat)
  | compiledBranch (site branch : String) (hosts subroutes : Nat)
  | unreachableBranch (site branch : String)
  | compiledSite (site : String) (routes : Nat)
  | compiledSites (sites routes : Nat)
  | readPolicy (path : String) (sites : Nat)
  | watcherStarted (path directory : String)
  | policyReloaded (path : String) (sites : Nat)
  | reloadRejected (path error : String)
  | policyLoaded (config : String) (sites : Nat)
  | compiledPolicy (sites routes : Nat)
  | compilationFailed (error : String)
  | routesWritten (path : String) (bytes : Nat)
deriving DecidableEq

namespace Event

def level : Event → Level
  | resolvedDomains .. | builtContentRoute .. | compiledBranch .. | compiledSite ..
  | compiledSites .. | readPolicy .. => .debug
  | unreachableBranch .. | reloadRejected .. => .warn
  | watcherStarted .. | policyReloaded .. | policyLoaded .. | compiledPolicy ..
  | routesWritten .. => .info
  | compilationFailed .. => .error

/-- The part of the program that an event belongs to. Filters select events by it. -/
def target : Event → String
  | resolvedDomains .. => "site_routes::routing::domains"
  | builtContentRoute .. => "site_routes::routing::content"
  | compiledBranch .. | unreachableBranch .. => "site_routes::routing::branch"
  | compiledSite .. | compiledSites .. => "site_routes::routing::sites"
  | readPolicy .. => "site_routes::config::loader"
  | watcherStarted .. | policyReloaded .. | reloadRejected .. => "site_routes::config::watcher"
  | policyLoaded .. | compiledPolicy .. | compilationFailed .. | routesWritten .. => "site_routes"

def message : Event → String
  | resolvedDomains .. => "Resolved site domains"
  | builtContentRoute .. => "Built content route"
  | compiledBranch .. => "Compiled branch route"
  | unreachableBranch .. => "Branch is not reachable on any host"
  | compiledSite .. => "Compiled site"
  | compiledSites .. | compiledPolicy .. => "Compiled site routes"
  | readPolicy .. | policyLoaded .. => "Policy loaded"
  | watcherStarted .. => "Policy watcher started"
  | policyReloaded .. => "Policy reloaded"
  | reloadRejected .. => "Policy reload rejected"
  | compilationFailed error => "Failed to compile routes: " ++ error
  | routesWritten .. => "Routes written"

/-- The data of an event by name, in the order in which a line shows it. -/
def fields : Event → List (String × Value)
  | resolvedDomains site domains => [("site", .text site), ("domains", .count domains)]
  | builtContentRoute site branch singlePage handlers =>
    [("site", .text site), ("branch", .text branch), ("spa", .flag singlePage),
      ("handlers", .count handlers)]
  | compiledBranch site branch hosts subroutes =>
    [("site", .text site), ("branch", .text branch), ("hosts", .count hosts),
      ("subroutes", .count subroutes)]
  | unreachableBranch site branch => [("site", .text site), ("branch", .text branch)]
  | compiledSite site routes => [("site", .text site), ("routes", .count routes)]
  | compiledSites sites routes | compiledPolicy sites routes =>
    [("sites", .count sites), ("routes", .count routes)]
  | readPolicy path sites | policyReloaded path sites =>
    [("path", .text path), ("sites", .count sites)]
  | watcherStarted path directory => [("path", .text path), ("dir", .text directory)]
  | reloadRejected path error => [("path", .text path), ("error", .text error)]
  | policyLoaded config sites => [("config", .text config), ("sites", .count sites)]
  | compilationFailed _ => []
  | routesWritten path bytes => [("path", .text path), ("bytes", .count bytes)]

/-- The line of an event: level, target if wanted, message and fields. -/
def line (withTarget : Bool) (event : Event) : String :=
  event.level.text ++ " " ++ (if withTarget then event.target ++ ": " else "") ++ event.message
    ++ String.join (event.fields.map fun (name, value) => " " ++ name ++ "=" ++ value.toText)

end Event

end TenantRoutes.Log
