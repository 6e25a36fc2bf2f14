import TenantRoutes.Compiler.Plan
import TenantRoutes.Text.Ascii
/-! Addresses of a site and its branches. A site is served under its own domains and under one name
on the platform. A domain that repeats an earlier one is dropped with its settings, so a domain of
the site that spells out the name on the platform keeps its settings. -/
namespace TenantRoutes

namespace Domain

/-- The domain for a name on the platform. -/
def onPlatform (name : String) : Domain :=
  { name, exposesBranches := true, certificate := .acme }

/-- Domains are the same host when their names agree ignoring case. -/
def sameHost (a b : Domain) : Bool :=
  Text.eqIgnoringCase a.name b.name

end Domain

/-- Whether a domain repeats one of the kept domains, asked in order until one does. -/
def isRepeated (domain : Domain) : List Domain → Plan Bool
  | [] => pure false
  | seen :: rest => do
    if ← Plan.query (.sameDomain seen domain) then pure true else isRepeated domain rest

/-- Keep, after the domains kept so far, those domains that repeat no kept one. -/
def keepFirst (kept : List Domain) : List Domain → Plan (List Domain)
  | [] => pure kept
  | domain :: rest => do
    if ← isRepeated domain kept then keepFirst kept rest else keepFirst (kept ++ [domain]) rest

namespace Site

/-- The domains that route to a site, in order of priority. -/
def resolveDomains (site : Site) : Plan (List Domain) := do
  let name ← Plan.query (.mainDomain site)
  let domains ← keepFirst [] (site.domains ++ [Domain.onPlatform name])
  Plan.emit (.resolvedDomains site.id domains.length)
  pure domains

end Site

/-- The host that addresses a branch below a domain. -/
def Branch.hostBelow (branch : Branch) (domain : Domain) : String :=
  branch.slug ++ "." ++ domain.name

/-- The hosts of a branch: one below each domain that exposes branches and, for the main branch,
after them the domains themselves. Hosts that occur twice stay. -/
def branchHosts (domains : List Domain) (branch : Branch) (site : Site) : List String :=
  (domains.filter (·.exposesBranches)).map branch.hostBelow
    ++ if site.isMainBranch branch then domains.map (·.name) else []

end TenantRoutes
