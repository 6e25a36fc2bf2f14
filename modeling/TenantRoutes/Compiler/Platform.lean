import TenantRoutes.Compiler.Routes
import TenantRoutes.Policy.Basic
import TenantRoutes.Text.Base64
/-! The answers of a platform to the questions of the compiler. They depend on nothing but its
settings. -/
namespace TenantRoutes

/-- An id that leads out of the content root, or nowhere, is no part of a path. -/
def checkSegment (id : String) : Except CompileError String :=
  if id.isEmpty || id == "." || id == ".." || id.toList.contains '/' || id.toList.contains '\\' then
    .error (.invalidPathSegment id)
  else .ok id

/-- A text without the slashes that end it. -/
def trimTrailingSlashes (s : String) : String :=
  String.ofList (s.toList.reverse.dropWhile (· == '/')).reverse

/-- A text without the slashes that begin it. -/
def trimLeadingSlashes (s : String) : String :=
  String.ofList (s.toList.dropWhile (· == '/'))

namespace Platform

/-- The name of a site below the domain of all sites. -/
def mainDomain (platform : Platform) (site : Site) : Except CompileError String :=
  if site.name.isEmpty then .error (.missingSiteName site.id)
  else .ok (site.name ++ "." ++ platform.sitesDomain)

/-- The directory of a branch, below that of its site. -/
def contentRoot (platform : Platform) (site branch : String) : Except CompileError String := do
  let site ← checkSegment site
  let branch ← checkSegment branch
  pure (trimTrailingSlashes platform.sitesDir ++ "/" ++ site ++ "/" ++ branch)

def routeId (platform : Platform) (site : Site) (branch : Branch) : String :=
  platform.idStart ++ site.id ++ "-" ++ branch.id

/-- A challenge that one account passes: the user of the platform with the given password. -/
def authHandler (platform : Platform) (password : Password) : Except CompileError Handler :=
  if password.hash.isEmpty then .error .emptyPassword
  else
    .ok (.authentication (some
      { algorithm := "bcrypt"
        accounts :=
          [{ username := platform.credentials.username
             password := Text.Base64.ofText password.hash }]
        realm := platform.credentials.realm }))

/-- The handlers that answer with a file of a branch. -/
def fileHandlers (platform : Platform) (site : Site) (branch : Branch) (uri : String) :
    Except CompileError (List Handler) := do
  let root ← platform.contentRoot site.id branch.id
  pure [.rewrite uri, .fileServer root]

def redirectHandlers (platform : Platform) (site : Site) (branch : Branch) :
    Redirect.Target → Except CompileError (List Handler)
  | .url location permanent =>
    .ok [.staticResponse (some (.code (if permanent then 301 else 302)))
      (HeaderMap.empty.insert "Location" [location]) none]
  | .file name => platform.fileHandlers site branch ("/" ++ trimLeadingSlashes name)

/-- The route for the path of a redirect rule. -/
def redirectRoute (platform : Platform) (site : Site) (branch : Branch) (redirect : Redirect) :
    Except CompileError Route := do
  let handlers ← platform.redirectHandlers site branch redirect.target
  pure { matchers := [MatcherSet.onPath redirect.path], handlers }

/-- The error route that answers paths without a file with the page for them. -/
def notFoundRoute (platform : Platform) (site : Site) (branch : Branch) :
    Except CompileError Route := do
  let handlers ← platform.fileHandlers site branch platform.notFoundPage
  pure { matchers := [MatcherSet.onStatus "404"], handlers }

/-- All answers of a platform. -/
def lookups (platform : Platform) : Lookups where
  mainDomain := platform.mainDomain
  contentRoot := platform.contentRoot
  routeId site branch := .ok (platform.routeId site branch)
  authHandler := platform.authHandler
  redirectRoute := platform.redirectRoute
  notFoundRoute := platform.notFoundRoute
  sameDomain := Domain.sameHost

end Platform

namespace Policy

/-- The routes of a policy's sites on its own platform. -/
def compile (policy : Policy) : Run (List Route) :=
  (compileSites policy.sites).run policy.platform.lookups

end Policy

end TenantRoutes
