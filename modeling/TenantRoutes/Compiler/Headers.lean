import TenantRoutes.Route.Basic
import TenantRoutes.Site.Basic
/-! Response headers of a branch. The headers of the branch follow those of the site, and a later
header takes the place of every earlier one of its name, whatever the letter case. How responses
are cached is not for tenants to say. -/
namespace TenantRoutes

/-- The header that tenants cannot set. -/
def cacheControl : String := "Cache-Control"

def cacheDirectives : List String := ["public", "max-age=0", "must-revalidate"]

/-- Take one more header into account. -/
def HeaderMap.overlay (map : HeaderMap) (header : Header) : HeaderMap :=
  if Text.eqIgnoringCase header.name cacheControl then map
  else (map.eraseIgnoringCase header.name).insert header.name [header.value]

/-- The headers set for a branch of a site. -/
def branchHeaders (site : Site) (branch : Branch) : HeaderMap :=
  ((site.headers ++ branch.headers).foldl HeaderMap.overlay HeaderMap.empty).insert
    cacheControl cacheDirectives

/-- The handler that sets the headers of a branch. -/
def headersHandler (site : Site) (branch : Branch) : Handler :=
  .headers (branchHeaders site branch)

end TenantRoutes
