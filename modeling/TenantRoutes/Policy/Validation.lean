import TenantRoutes.Policy.Basic
import TenantRoutes.Policy.Naming
import TenantRoutes.Policy.Problem
/-! Validation of policies. Every problem is reported, in the order in which the policy is read:
those of the platform, then site by site. A repeated id or slug is a problem of its later
occurrences. Nothing is asked of passwords, so an accepted policy may still fail to compile for an
empty hash. -/
namespace TenantRoutes

/-- The list with one element where a condition holds, and without one elsewhere. -/
def reportIf (condition : Bool) (problem : Problem) : List Problem :=
  if condition then [problem] else []

namespace Platform

/-- Problems of the platform settings. -/
def problems (platform : Platform) : List Problem :=
  if Text.isBlankText platform.sitesDomain then [.emptySitesDomain]
  else reportIf (!isHostname platform.sitesDomain) (.invalidSitesDomain platform.sitesDomain)

end Platform

/-- A header needs a name with something to be seen in it. -/
def hasUnnamedHeader (headers : List Header) : Bool :=
  headers.any fun header => Text.isBlankText header.name

namespace Branch

/-- Problems of a branch's id, where `earlier` are the usable ids of the branches before it. -/
def idProblems (site : String) (earlier : List String) (branch : Branch) : List Problem :=
  if branch.id.isEmpty then [.emptyField site .branchId]
  else if !isDirectoryName branch.id then [.invalidId site .branchId branch.id]
  else reportIf (earlier.contains branch.id) (.duplicateBranch site branch.id)

/-- Problems of a branch's slug, where `earlier` are the usable slugs of the branches before it,
with their letter case folded. -/
def slugProblems (site : String) (earlier : List (List Char)) (branch : Branch) : List Problem :=
  if !isLabelText branch.slug then [.invalidSlug site branch.slug]
  else reportIf (earlier.contains (Text.foldCase branch.slug)) (.duplicateSlug site branch.slug)

/-- Problems of a branch's headers and redirects. -/
def contentProblems (site : String) (branch : Branch) : List Problem :=
  reportIf (hasUnnamedHeader branch.headers) (.emptyHeaderName site)
    ++ branch.redirects.flatMap fun redirect =>
      reportIf (redirect.path.toList.head? != some '/')
        (.invalidRedirectPath site branch.id redirect.path)

end Branch

/-- Problems of branches that follow branches with the given usable ids and folded slugs. -/
def branchProblems (site : String) (ids : List String) (slugs : List (List Char)) :
    List Branch → List Problem
  | [] => []
  | branch :: rest =>
    branch.idProblems site ids ++ branch.slugProblems site slugs ++ branch.contentProblems site
      ++ branchProblems site
        (if isDirectoryName branch.id then branch.id :: ids else ids)
        (if isLabelText branch.slug then Text.foldCase branch.slug :: slugs else slugs) rest

namespace Site

/-- Problems of a site's own id and name. -/
def namingProblems (site : Site) : List Problem :=
  (if site.id.isEmpty then [.emptyField site.id .id]
    else reportIf (!isDirectoryName site.id) (.invalidId site.id .id site.id))
  ++ (if site.name.isEmpty then [.emptyField site.id .name]
    else reportIf (!isLabelText site.name) (.invalidSiteName site.id site.name))

/-- A site with branches needs its main branch among them. -/
def mainBranchProblems (site : Site) : List Problem :=
  reportIf (!site.branches.isEmpty && (site.branch? site.mainBranch).isNone)
    (.unknownMainBranch site.id site.mainBranch)

def domainProblems (site : Site) : List Problem :=
  site.domains.flatMap fun domain =>
    reportIf (!isHostname domain.name) (.invalidDomain site.id domain.name)

/-- All problems of a site by itself. -/
def problems (site : Site) : List Problem :=
  site.namingProblems ++ site.mainBranchProblems ++ site.domainProblems
    ++ branchProblems site.id [] [] site.branches
    ++ reportIf (hasUnnamedHeader site.headers) (.emptyHeaderName site.id)

end Site

/-- Problems of sites that follow sites with the given ids. -/
def siteProblems (earlier : List String) : List Site → List Problem
  | [] => []
  | site :: rest =>
    reportIf (earlier.contains site.id) (.duplicateSite site.id) ++ site.problems
      ++ siteProblems (site.id :: earlier) rest

namespace Policy

/-- All problems of a policy. -/
def problems (policy : Policy) : List Problem :=
  policy.platform.problems ++ siteProblems [] policy.sites

/-- A policy without problems. -/
def isValid (policy : Policy) : Bool :=
  policy.problems.isEmpty

end Policy

end TenantRoutes
