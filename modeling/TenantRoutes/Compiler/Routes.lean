import TenantRoutes.Compiler.Addresses
import TenantRoutes.Compiler.Headers
/-! The routes of sites. A branch has one route, selected by its hosts. The route tries, in this
order, the password if there is one, the redirects, and the content of the branch. Error routes
stand on the outer route, since an error route beside the password handler would take away its
challenge. -/
namespace TenantRoutes

/-- The file served where no file has the requested path. -/
def singlePageFile : String := "/index.html"

/-- Stands for the path of the request. -/
def requestPath : String := "\x7bhttp.request.uri.path\x7d"

/-- Stands for the file that a file matcher found. -/
def matchedFile : String := "\x7bhttp.matchers.file.relative\x7d"

/-- Stands for the status of an error. -/
def errorStatus : String := "\x7bhttp.error.status_code\x7d"

/-- A condition on the status of an error. -/
def MatcherSet.onStatus (status : String) : MatcherSet :=
  { expression := some (errorStatus ++ " == " ++ status) }

def MatcherSet.onPath (path : String) : MatcherSet :=
  { path := some [path] }

def MatcherSet.onHosts (hosts : List String) : MatcherSet :=
  { host := some hosts }

/-- Holds where the requested file or the file for single pages exists. -/
def MatcherSet.onFile (root : String) : MatcherSet :=
  { file := some { root, tryFiles := [requestPath, singlePageFile] } }

/-- The chain of handlers that serve content from a root. -/
def contentHandlers (site : Site) (branch : Branch) (root : String) : List Handler :=
  (if site.singlePage then [.rewrite matchedFile] else [])
    ++ [headersHandler site branch, .encode true, .fileServer root]

/-- The route that serves the content of a branch. -/
def contentRoute (site : Site) (branch : Branch) : Plan Route := do
  let root ← Plan.query (.contentRoot site.id branch.id)
  let handlers := contentHandlers site branch root
  Plan.emit (.builtContentRoute site.id branch.id site.singlePage handlers.length)
  pure { matchers := if site.singlePage then [MatcherSet.onFile root] else [], handlers }

/-- The route in front of everything else that asks for a password, if there is one to ask for. -/
def authRoutes : Option Password → Plan (List Route)
  | none => pure []
  | some password => do
    let handler ← Plan.query (.authHandler password)
    pure [{ handlers := [handler] }]

/-- Answers a refused password with its status and a fixed text. -/
def unauthenticatedRoute : Route :=
  { matchers := [MatcherSet.onStatus "401"]
    handlers := [.staticResponse (some (.placeholder errorStatus)) HeaderMap.empty
      (some "not authenticated")] }

/-- The warning about a branch without hosts. -/
def warnUnreachable (site : Site) (branch : Branch) (hosts : List String) : Plan Unit :=
  if hosts.isEmpty then Plan.emit (.unreachableBranch site.id branch.id) else pure ()

/-- The route of a branch of a site. -/
def branchRoute (site : Site) (branch : Branch) : Plan Route := do
  let domains ← site.resolveDomains
  let hosts := branchHosts domains branch site
  let auth ← authRoutes (site.effectivePassword branch)
  let redirects ← branch.redirects.mapM fun redirect =>
    Plan.query (.redirectRoute site branch redirect)
  let content ← contentRoute site branch
  let notFound ← Plan.query (.notFoundRoute site branch)
  let routes := auth ++ redirects ++ [content]
  Plan.emit (.compiledBranch site.id branch.id hosts.length routes.length)
  warnUnreachable site branch hosts
  let id ← Plan.query (.routeId site branch)
  pure
    { id := some id
      group := some site.id
      matchers := [MatcherSet.onHosts hosts]
      handlers := [.subroute routes]
      errors := some [unauthenticatedRoute, notFound] }

/-- One route for each branch of a site, in order. -/
def siteRoutes (site : Site) : Plan (List Route) := do
  let routes ← site.branches.mapM (branchRoute site)
  Plan.emit (.compiledSite site.id routes.length)
  pure routes

/-- The routes of all sites, one site after the other. -/
def compileSites (sites : List Site) : Plan (List Route) := do
  let routes := (← sites.mapM siteRoutes).flatten
  Plan.emit (.compiledSites sites.length routes.length)
  pure routes

end TenantRoutes
