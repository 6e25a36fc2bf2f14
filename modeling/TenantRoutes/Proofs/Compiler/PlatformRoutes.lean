import TenantRoutes.Compiler.Platform
import TenantRoutes.Proofs.Compiler.Domains

/-! Compilation on a platform, split into the faults that stop it and the routes it builds. Every
answer of a platform is a value that is there unless a fault takes it away, and so is the result of
every step of the compiler. The routes of this file are total: they are also defined where a fault
keeps the compiler from returning them. -/
namespace TenantRoutes

/-- An id that cannot stand as one component of a path. -/
def IsUnusableSegment (id : String) : Prop :=
  id = "" ∨ id = "." ∨ id = ".." ∨ '/' ∈ id.toList ∨ '\\' ∈ id.toList

instance (id : String) : Decidable (IsUnusableSegment id) :=
  inferInstanceAs (Decidable (_ ∨ _))

def segmentFault? (id : String) : Option CompileError :=
  if IsUnusableSegment id then some (.invalidPathSegment id) else none

theorem checkSegment_eq (id : String) : checkSegment id = settle (segmentFault? id) id := by
  have hCheck : (id.isEmpty || id == "." || id == ".." || id.toList.contains '/'
      || id.toList.contains '\\') = decide (IsUnusableSegment id) := by
    rw [Bool.eq_iff_iff, decide_eq_true_iff]
    simp [IsUnusableSegment, String.isEmpty_iff, or_assoc]
  rw [checkSegment, hCheck, segmentFault?]
  by_cases hUnusable : IsUnusableSegment id <;> simp [hUnusable]

/-- The only fault of a password is an empty hash. -/
def passwordFault? (password? : Option Password) : Option CompileError :=
  if password? = some { hash := "" } then some .emptyPassword else none

namespace Site

def nameFault? (site : Site) : Option CompileError :=
  if site.name = "" then some (.missingSiteName site.id) else none

/-- The fault of a branch's directory; that of the site's id comes first. -/
def rootFault? (site : Site) (branch : Branch) : Option CompileError :=
  (segmentFault? site.id).or (segmentFault? branch.id)

/-- The fault of a branch of a site. Where several things are wrong with them, it is the first of
this order. -/
def fault? (site : Site) (branch : Branch) : Option CompileError :=
  if site.name = "" then some (.missingSiteName site.id)
  else if site.effectivePassword branch = some { hash := "" } then some .emptyPassword
  else if IsUnusableSegment site.id then some (.invalidPathSegment site.id)
  else if IsUnusableSegment branch.id then some (.invalidPathSegment branch.id)
  else none

theorem fault?_eq (site : Site) (branch : Branch) :
    site.fault? branch = site.nameFault?.or
      ((passwordFault? (site.effectivePassword branch)).or (site.rootFault? branch)) := by
  unfold fault? nameFault? passwordFault? rootFault? segmentFault?
  split_ifs <;> rfl

theorem fault?_eq_none_iff {site : Site} {branch : Branch} :
    site.fault? branch = none ↔ site.nameFault? = none ∧
      passwordFault? (site.effectivePassword branch) = none ∧ site.rootFault? branch = none := by
  rw [fault?_eq, Option.or_eq_none_iff, Option.or_eq_none_iff]

end Site

/-- Every branch of a list of sites together with its site, in the order of compilation. -/
def ownedBranches (sites : List Site) : List (Site × Branch) :=
  sites.flatMap fun site => site.branches.map fun branch => (site, branch)

theorem mem_ownedBranches {sites : List Site} {owned : Site × Branch} :
    owned ∈ ownedBranches sites ↔ owned.1 ∈ sites ∧ owned.2 ∈ owned.1.branches := by
  obtain ⟨site, branch⟩ := owned
  simp only [ownedBranches, List.mem_flatMap, List.mem_map, Prod.mk.injEq]
  constructor
  · rintro ⟨_, hSite, _, hBranch, rfl, rfl⟩
    exact ⟨hSite, hBranch⟩
  · rintro ⟨hSite, hBranch⟩
    exact ⟨site, hSite, branch, hBranch, rfl, rfl⟩

theorem map_ownedBranches {α : Type} (f : Site → Branch → α) (sites : List Site) :
    ((ownedBranches sites).map fun owned => f owned.1 owned.2) =
      (sites.map fun site => site.branches.map (f site)).flatten := by
  rw [ownedBranches, List.map_flatMap, List.flatMap_def]
  simp only [List.map_map, Function.comp_def]

theorem findSome?_ownedBranches {α : Type} (f : Site → Branch → Option α) (sites : List Site) :
    ((ownedBranches sites).findSome? fun owned => f owned.1 owned.2) =
      sites.findSome? fun site => site.branches.findSome? (f site) := by
  induction sites with
  | nil => rfl
  | cons site rest ih =>
      have hSite : ((site.branches.map fun branch => (site, branch)).findSome?
          fun owned => f owned.1 owned.2) = site.branches.findSome? (f site) :=
        List.findSome?_map
      rw [ownedBranches, List.flatMap_cons, List.findSome?_append, hSite, List.findSome?_cons]
      cases site.branches.findSome? (f site) with
      | some failure => rfl
      | none => exact ih

namespace Platform

variable (platform : Platform) (site : Site) (branch : Branch)

/-- The directory of a branch, below that of its site. -/
def directory : String :=
  trimTrailingSlashes platform.sitesDir ++ "/" ++ site.id ++ "/" ++ branch.id

theorem contentRoot_eq :
    platform.contentRoot site.id branch.id =
      settle (site.rootFault? branch) (platform.directory site branch) := by
  rw [contentRoot, checkSegment_eq, checkSegment_eq, Site.rootFault?]
  cases segmentFault? site.id <;> cases segmentFault? branch.id <;> rfl

theorem mainDomain_eq :
    platform.mainDomain site =
      settle site.nameFault? (site.name ++ "." ++ platform.sitesDomain) := by
  unfold mainDomain Site.nameFault?
  by_cases hName : site.name = "" <;> simp [hName, String.isEmpty_iff]

/-- The challenge for a password. -/
def challenge (password : Password) : Handler :=
  .authentication (some
    { algorithm := "bcrypt"
      accounts :=
        [{ username := platform.credentials.username
           password := Text.Base64.ofText password.hash }]
      realm := platform.credentials.realm })

theorem authHandler_eq (password : Password) :
    platform.authHandler password =
      settle (passwordFault? (some password)) (platform.challenge password) := by
  obtain ⟨hash⟩ := password
  unfold authHandler passwordFault?
  by_cases hHash : hash = "" <;> simp [hHash, String.isEmpty_iff, challenge]

/-- The handlers that answer with a file of a branch. -/
def fileResponse (uri : String) : List Handler :=
  [.rewrite uri, .fileServer (platform.directory site branch)]

theorem fileHandlers_eq (uri : String) :
    platform.fileHandlers site branch uri =
      settle (site.rootFault? branch) (platform.fileResponse site branch uri) := by
  rw [fileHandlers, contentRoot_eq]
  cases site.rootFault? branch <;> rfl

/-- What answers the path of a redirect rule. -/
def redirectResponse : Redirect.Target → List Handler
  | .url location permanent =>
    [.staticResponse (some (.code (if permanent then 301 else 302)))
      (HeaderMap.empty.insert "Location" [location]) none]
  | .file name => platform.fileResponse site branch ("/" ++ trimLeadingSlashes name)

def redirectRouteFor (redirect : Redirect) : Route :=
  { matchers := [MatcherSet.onPath redirect.path]
    handlers := platform.redirectResponse site branch redirect.target }

/-- Only a redirect to a file needs the directory of the branch. -/
def redirectFault? (redirect : Redirect) : Option CompileError :=
  match redirect.target with
  | .url _ _ => none
  | .file _ => site.rootFault? branch

theorem redirectRoute_eq (redirect : Redirect) :
    platform.redirectRoute site branch redirect =
      settle (redirectFault? site branch redirect)
        (platform.redirectRouteFor site branch redirect) := by
  unfold redirectRoute redirectRouteFor redirectFault?
  cases redirect.target with
  | url location permanent => rfl
  | file name =>
      rw [redirectHandlers, fileHandlers_eq]
      cases site.rootFault? branch <;> rfl

def notFoundRouteFor : Route :=
  { matchers := [MatcherSet.onStatus "404"]
    handlers := platform.fileResponse site branch platform.notFoundPage }

theorem notFoundRoute_eq :
    platform.notFoundRoute site branch =
      settle (site.rootFault? branch) (platform.notFoundRouteFor site branch) := by
  rw [notFoundRoute, fileHandlers_eq]
  cases site.rootFault? branch <;> rfl

def contentRouteFor : Route :=
  let root := platform.directory site branch
  { matchers := if site.singlePage then [MatcherSet.onFile root] else []
    handlers := contentHandlers site branch root }

theorem contentRoute_resultWith :
    (contentRoute site branch).resultWith platform.lookups =
      settle (site.rootFault? branch) (platform.contentRouteFor site branch) := by
  simp only [contentRoute, Plan.query, Plan.emit, Plan.bind_eq, Plan.ask_bind, Plan.done_bind,
    Plan.report_bind, Plan.resultWith_ask, Plan.resultWith_report, Plan.pure_eq_done,
    Plan.resultWith_done, Lookups.answer]
  change (platform.contentRoot site.id branch.id >>= _) = _
  rw [contentRoot_eq]
  cases site.rootFault? branch <;> rfl

/-- The route in front of all others that asks for a password, if there is one. -/
def authRoutesFor : Option Password → List Route
  | none => []
  | some password => [{ handlers := [platform.challenge password] }]

theorem authRoutes_resultWith (password? : Option Password) :
    (authRoutes password?).resultWith platform.lookups =
      settle (passwordFault? password?) (platform.authRoutesFor password?) := by
  cases password? with
  | none => rfl
  | some password =>
      simp only [authRoutes, Plan.query, Plan.bind_eq, Plan.ask_bind, Plan.done_bind,
        Plan.resultWith_ask, Plan.pure_eq_done, Plan.resultWith_done, Lookups.answer]
      change (platform.authHandler password >>= _) = _
      rw [authHandler_eq]
      cases passwordFault? (some password) <;> rfl

/-- The domains a site is found under on the platform. -/
def domainsFor : List Domain :=
  keepDistinct Domain.sameHost []
    (site.domains ++ [Domain.onPlatform (site.name ++ "." ++ platform.sitesDomain)])

theorem resolveDomains_resultWith :
    site.resolveDomains.resultWith platform.lookups =
      settle site.nameFault? (platform.domainsFor site) := by
  rw [Site.resolveDomains_resultWith]
  change (platform.mainDomain site).map _ = _
  rw [mainDomain_eq]
  cases site.nameFault? <;> rfl

/-- The routes tried for a request to a branch, in the order in which they are tried. -/
def innerRoutesFor : List Route :=
  platform.authRoutesFor (site.effectivePassword branch)
    ++ branch.redirects.map (platform.redirectRouteFor site branch)
    ++ [platform.contentRouteFor site branch]

def routeFor : Route :=
  { id := some (platform.routeId site branch)
    group := some site.id
    matchers := [MatcherSet.onHosts (branchHosts (platform.domainsFor site) branch site)]
    handlers := [.subroute (platform.innerRoutesFor site branch)]
    errors := some [unauthenticatedRoute, platform.notFoundRouteFor site branch] }

theorem redirects_resultWith :
    (branch.redirects.mapM fun redirect =>
      Plan.query (.redirectRoute site branch redirect)).resultWith platform.lookups =
      settle (branch.redirects.findSome? (redirectFault? site branch))
        (branch.redirects.map (platform.redirectRouteFor site branch)) := by
  rw [Plan.resultWith_mapM, ← mapM_settle]
  congr 1
  funext redirect
  rw [← redirectRoute_eq, Plan.query, Plan.resultWith_ask]
  exact bind_pure _

theorem redirectFault?_cases (redirect : Redirect) :
    redirectFault? site branch redirect = none ∨
      redirectFault? site branch redirect = site.rootFault? branch := by
  unfold redirectFault?
  cases redirect.target with
  | url location permanent => exact Or.inl rfl
  | file name => exact Or.inr rfl

/-- However many redirects need the directory of the branch, what is wrong with it is found once
and is the same for the content, which always needs it. -/
theorem redirectFaults_or_rootFault :
    (branch.redirects.findSome? (redirectFault? site branch)).or (site.rootFault? branch) =
      site.rootFault? branch := by
  induction branch.redirects with
  | nil => rfl
  | cons redirect rest ih =>
      rcases redirectFault?_cases site branch redirect with hNone | hSame
      · rw [List.findSome?_cons, hNone]
        exact ih
      · rw [List.findSome?_cons, hSame]
        cases hRoot : site.rootFault? branch with
        | none => rwa [hRoot] at ih
        | some fault => rfl

theorem warnUnreachable_resultWith (lookups : Lookups) (hosts : List String) :
    (warnUnreachable site branch hosts).resultWith lookups = .ok () := by
  unfold warnUnreachable
  cases hosts.isEmpty <;> rfl

/-- The compiler either stops with the fault of a branch or returns its route. -/
theorem branchRoute_resultWith :
    (branchRoute site branch).resultWith platform.lookups =
      settle (site.fault? branch) (platform.routeFor site branch) := by
  have hFaults : site.fault? branch = site.nameFault?.or
      ((passwordFault? (site.effectivePassword branch)).or
        ((branch.redirects.findSome? (redirectFault? site branch)).or
          ((site.rootFault? branch).or (site.rootFault? branch)))) := by
    rw [Site.fault?_eq, Option.or_self, redirectFaults_or_rootFault]
  rw [hFaults]
  simp only [branchRoute, Plan.bind_eq, Plan.resultWith_bind, resolveDomains_resultWith,
    authRoutes_resultWith, redirects_resultWith, contentRoute_resultWith]
  simp only [Plan.query, Plan.emit, Plan.resultWith_ask, Plan.resultWith_report,
    Plan.resultWith_done, Plan.pure_eq_done, warnUnreachable_resultWith, Lookups.answer]
  have hNotFound : platform.lookups.notFoundRoute site branch =
      settle (site.rootFault? branch) (platform.notFoundRouteFor site branch) :=
    notFoundRoute_eq platform site branch
  rw [hNotFound]
  cases site.nameFault? with
  | some fault => rfl
  | none =>
      cases passwordFault? (site.effectivePassword branch) with
      | some fault => rfl
      | none =>
          cases branch.redirects.findSome? (redirectFault? site branch) with
          | some fault => rfl
          | none => cases site.rootFault? branch <;> rfl

theorem branchRoute_eq_ok_iff {route : Route} :
    (branchRoute site branch).resultWith platform.lookups = .ok route ↔
      site.fault? branch = none ∧ platform.routeFor site branch = route := by
  rw [branchRoute_resultWith, settle_eq_ok_iff]

/-- A site is compiled branch by branch, up to its first fault. -/
theorem siteRoutes_resultWith :
    (siteRoutes site).resultWith platform.lookups =
      settle (site.branches.findSome? site.fault?)
        (site.branches.map (platform.routeFor site)) := by
  simp only [siteRoutes, Plan.emit, Plan.bind_eq, Plan.report_bind, Plan.done_bind,
    Plan.resultWith_bind, Plan.resultWith_report, Plan.pure_eq_done, Plan.resultWith_done,
    Plan.resultWith_mapM, branchRoute_resultWith, mapM_settle]
  exact bind_pure _

/-- All sites are compiled in order, and the first fault among their branches ends the compilation.
Without one there is one route for each branch, and a site without branches plays no part. -/
theorem compileSites_resultWith (sites : List Site) :
    (compileSites sites).resultWith platform.lookups =
      settle ((ownedBranches sites).findSome? fun owned => owned.1.fault? owned.2)
        ((ownedBranches sites).map fun owned => platform.routeFor owned.1 owned.2) := by
  rw [findSome?_ownedBranches, map_ownedBranches]
  simp only [compileSites, Plan.emit, Plan.bind_eq, Plan.report_bind, Plan.done_bind,
    Plan.resultWith_bind, Plan.resultWith_report, Plan.pure_eq_done, Plan.resultWith_done,
    Plan.resultWith_mapM, siteRoutes_resultWith, mapM_settle]
  cases sites.findSome? fun site => site.branches.findSome? site.fault? <;> rfl

theorem compileSites_eq_ok_iff {sites : List Site} {routes : List Route} :
    (compileSites sites).resultWith platform.lookups = .ok routes ↔
      (∀ owned ∈ ownedBranches sites, owned.1.fault? owned.2 = none) ∧
        ((ownedBranches sites).map fun owned => platform.routeFor owned.1 owned.2) = routes := by
  rw [compileSites_resultWith, settle_eq_ok_iff, List.findSome?_eq_none_iff]

/-- The compiled routes stand in the order of the branches, one for each. -/
theorem ownedBranches_zip_routes {sites : List Site} {routes : List Route}
    (hRoutes : (compileSites sites).resultWith platform.lookups = .ok routes) :
    (ownedBranches sites).zip routes =
      (ownedBranches sites).map fun owned => (owned, platform.routeFor owned.1 owned.2) := by
  obtain ⟨_, rfl⟩ := platform.compileSites_eq_ok_iff.mp hRoutes
  exact List.map_prod_left_eq_zip.symm

theorem mem_zip_routes {sites : List Site} {routes : List Route}
    (hRoutes : (compileSites sites).resultWith platform.lookups = .ok routes)
    {owned : Site × Branch} {route : Route} :
    (owned, route) ∈ (ownedBranches sites).zip routes ↔
      owned ∈ ownedBranches sites ∧ platform.routeFor owned.1 owned.2 = route := by
  rw [platform.ownedBranches_zip_routes hRoutes, List.mem_map]
  constructor
  · rintro ⟨_, hOwned, hPair⟩
    obtain ⟨rfl, rfl⟩ := Prod.mk.inj hPair
    exact ⟨hOwned, rfl⟩
  · rintro ⟨hOwned, rfl⟩
    exact ⟨owned, hOwned, rfl⟩

theorem compileSites_eq_error_iff {sites : List Site} {fault : CompileError} :
    (compileSites sites).resultWith platform.lookups = .error fault ↔
      (ownedBranches sites).findSome? (fun owned => owned.1.fault? owned.2) = some fault := by
  rw [compileSites_resultWith, settle_eq_error_iff]

end Platform

end TenantRoutes
