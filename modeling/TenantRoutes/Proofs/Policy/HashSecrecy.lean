import TenantRoutes.Compiler.Platform
import TenantRoutes.Policy.Described
import TenantRoutes.Policy.Validation
import TenantRoutes.Proofs.Compiler.AlikeRuns

/-! Where password hashes show. Two policies that differ only in the contents of hashes have the
same descriptions, the same problems and the same events of compilation, and their routes differ in
the passwords of accounts alone, which is where a hash belongs. Whether a hash is empty does show, as
its password cannot be compiled. Each policy is compared with one whose hashes are masked. -/
namespace TenantRoutes

/-- What may be known of a password is whether its hash is empty. -/
def Password.masked (password : Password) : Password :=
  if password.hash.isEmpty then password else { hash := "***" }

/-- Two passwords are masked alike when both hashes are empty or neither is. -/
theorem Password.masked_eq_iff (first second : Password) :
    first.masked = second.masked ↔ (first.hash = "" ↔ second.hash = "") := by
  obtain ⟨hash⟩ := first
  obtain ⟨other⟩ := second
  by_cases hHash : hash = "" <;> by_cases hOther : other = "" <;>
    simp [masked, String.isEmpty_iff, hHash, hOther]

def Branch.masked (branch : Branch) : Branch :=
  { branch with password := branch.password.map Password.masked }

def Site.masked (site : Site) : Site :=
  { site with
    password := site.password.map Password.masked
    branches := site.branches.map Branch.masked }

/-- A policy with every hash masked. -/
def Policy.masked (policy : Policy) : Policy :=
  { policy with sites := policy.sites.map Site.masked }

def BasicAuth.withoutPasswords (auth : BasicAuth) : BasicAuth :=
  { auth with accounts := auth.accounts.map fun account => { account with password := "" } }

mutual

/-- A route with the password of every account erased. -/
def Route.withoutPasswords : Route → Route
  | .mk id group matchers handlers errors =>
    .mk id group matchers (handlersWithoutPasswords handlers) (errorsWithoutPasswords errors)

def Handler.withoutPasswords : Handler → Handler
  | .subroute routes => .subroute (routesWithoutPasswords routes)
  | .authentication basic => .authentication (basic.map BasicAuth.withoutPasswords)
  | .rewrite uri => .rewrite uri
  | .headers set => .headers set
  | .encode gzip => .encode gzip
  | .fileServer root => .fileServer root
  | .staticResponse status headers body => .staticResponse status headers body

def routesWithoutPasswords : List Route → List Route
  | [] => []
  | route :: rest => route.withoutPasswords :: routesWithoutPasswords rest

def handlersWithoutPasswords : List Handler → List Handler
  | [] => []
  | handler :: rest => handler.withoutPasswords :: handlersWithoutPasswords rest

def errorsWithoutPasswords : Option (List Route) → Option (List Route)
  | none => none
  | some routes => some (routesWithoutPasswords routes)

end

theorem routesWithoutPasswords_eq (routes : List Route) :
    routesWithoutPasswords routes = routes.map Route.withoutPasswords := by
  induction routes with
  | nil => rfl
  | cons route rest ih => rw [routesWithoutPasswords, ih, List.map_cons]

theorem length_eq_of_withoutPasswords_eq {routes others : List Route}
    (hSame : routes.map Route.withoutPasswords = others.map Route.withoutPasswords) :
    routes.length = others.length := by
  simpa only [List.length_map] using congrArg List.length hSame

/-! Descriptions. -/

theorem Branch.describe_masked (branch : Branch) : branch.masked.describe = branch.describe := by
  obtain ⟨id, name, slug, password, redirects, headers⟩ := branch
  cases password <;> rfl

theorem Site.map_describe_branches_masked (site : Site) :
    site.masked.branches.map Branch.describe = site.branches.map Branch.describe := by
  rw [masked, List.map_map]
  exact List.map_congr_left fun branch _ => branch.describe_masked

theorem Site.describe_masked (site : Site) : site.masked.describe = site.describe := by
  have hBranches := site.map_describe_branches_masked
  obtain ⟨id, name, mainBranch, singlePage, password, domains, headers, branches⟩ := site
  rw [describe, hBranches]
  cases password <;> rfl

theorem Policy.map_describe_sites_masked (policy : Policy) :
    policy.masked.sites.map Site.describe = policy.sites.map Site.describe := by
  rw [masked, List.map_map]
  exact List.map_congr_left fun site _ => site.describe_masked

theorem Policy.describe_masked (policy : Policy) : policy.masked.describe = policy.describe := by
  rw [describe, map_describe_sites_masked]
  rfl

theorem Policy.map_describe_branches_masked (policy : Policy) :
    (policy.masked.sites.map fun site => site.branches.map Branch.describe) =
      policy.sites.map fun site => site.branches.map Branch.describe := by
  rw [masked, List.map_map]
  exact List.map_congr_left fun site _ => site.map_describe_branches_masked

/-! Problems. -/

theorem branchProblems_masked (site : String) (ids : List String) (slugs : List (List Char))
    (branches : List Branch) :
    branchProblems site ids slugs (branches.map Branch.masked) =
      branchProblems site ids slugs branches := by
  induction branches generalizing ids slugs with
  | nil => rfl
  | cons branch rest ih =>
      rw [List.map_cons, branchProblems, branchProblems, ih]
      rfl

theorem Site.mainBranchProblems_masked (site : Site) :
    site.masked.mainBranchProblems = site.mainBranchProblems := by
  have hBranch : site.masked.branch? site.mainBranch =
      (site.branch? site.mainBranch).map Branch.masked := List.find?_map
  have hEmpty : site.masked.branches.isEmpty = site.branches.isEmpty := List.isEmpty_map
  unfold mainBranchProblems
  change reportIf (!site.masked.branches.isEmpty &&
    (site.masked.branch? site.mainBranch).isNone) _ = _
  rw [hBranch, hEmpty, Option.isNone_map]
  rfl

theorem Site.problems_masked (site : Site) : site.masked.problems = site.problems := by
  rw [problems, problems, mainBranchProblems_masked]
  change _ ++ _ ++ _ ++ branchProblems site.id [] [] (site.branches.map Branch.masked) ++ _ = _
  rw [branchProblems_masked]
  rfl

theorem siteProblems_masked (earlier : List String) (sites : List Site) :
    siteProblems earlier (sites.map Site.masked) = siteProblems earlier sites := by
  induction sites generalizing earlier with
  | nil => rfl
  | cons site rest ih =>
      rw [List.map_cons, siteProblems, siteProblems, site.problems_masked, ih]
      rfl

theorem Policy.problems_masked (policy : Policy) : policy.masked.problems = policy.problems := by
  rw [problems, problems]
  change _ ++ siteProblems [] (policy.sites.map Site.masked) = _
  rw [siteProblems_masked]
  rfl

/-! Compilation. -/

namespace Platform

open Plan (LooksAlike)

variable (platform : Platform) (site : Site) (branch : Branch)

theorem authHandler_masked (password : Password) :
    (platform.authHandler password.masked).map Handler.withoutPasswords =
      (platform.authHandler password).map Handler.withoutPasswords := by
  obtain ⟨hash⟩ := password
  by_cases hHash : hash = ""
  · subst hHash
    rfl
  · simp [authHandler, Password.masked, String.isEmpty_iff, hHash, Except.map,
      Handler.withoutPasswords, BasicAuth.withoutPasswords]

theorem authRoutes_masked (password? : Option Password) :
    LooksAlike platform.lookups (List.map Route.withoutPasswords)
      (authRoutes password?) (authRoutes (password?.map Password.masked)) := by
  cases password? with
  | none => exact .refl _
  | some password =>
      have hHandler : LooksAlike platform.lookups Handler.withoutPasswords
          (Plan.query (.authHandler password)) (Plan.query (.authHandler password.masked)) :=
        .of_silent (Plan.run_query _) (Plan.run_query _) (platform.authHandler_masked password).symm
      refine hHandler.bind fun handler other hAlike => .done ?_
      simp [Route.withoutPasswords, handlersWithoutPasswords, hAlike]

theorem effectivePassword_masked :
    site.masked.effectivePassword branch.masked =
      (site.effectivePassword branch).map Password.masked := by
  obtain ⟨_, _, _, password, _, _⟩ := branch
  cases password <;> rfl

theorem resolveDomains_masked :
    LooksAlike platform.lookups id site.resolveDomains site.masked.resolveDomains := by
  have hName : LooksAlike platform.lookups id (Plan.query (.mainDomain site))
      (Plan.query (.mainDomain site.masked)) :=
    .of_silent (Plan.run_query _) (Plan.run_query _) rfl
  refine hName.bind ?_
  rintro name _ rfl
  exact .refl _

theorem redirects_masked :
    LooksAlike platform.lookups (List.map id)
      (branch.redirects.mapM fun redirect => Plan.query (.redirectRoute site branch redirect))
      (branch.redirects.mapM fun redirect =>
        Plan.query (.redirectRoute site.masked branch.masked redirect)) :=
  LooksAlike.mapM fun _ _ => .of_silent (Plan.run_query _) (Plan.run_query _) rfl

/-- Only a question about a password has another answer once the hashes are masked. -/
theorem branchRoute_masked :
    LooksAlike platform.lookups Route.withoutPasswords
      (branchRoute site branch) (branchRoute site.masked branch.masked) := by
  have hNotFound : LooksAlike platform.lookups id (Plan.query (.notFoundRoute site branch))
      (Plan.query (.notFoundRoute site.masked branch.masked)) :=
    .of_silent (Plan.run_query _) (Plan.run_query _) rfl
  have hContent : LooksAlike platform.lookups id (contentRoute site branch)
      (contentRoute site.masked branch.masked) := .refl _
  have hWarning (hosts : List String) : LooksAlike platform.lookups id
      (warnUnreachable site branch hosts) (warnUnreachable site.masked branch.masked hosts) :=
    .refl _
  have hId : LooksAlike platform.lookups id (Plan.query (.routeId site branch))
      (Plan.query (.routeId site.masked branch.masked)) :=
    .of_silent (Plan.run_query _) (Plan.run_query _) rfl
  simp only [branchRoute, Plan.emit, Plan.bind_eq, Plan.report_bind, Plan.done_bind]
  rw [effectivePassword_masked]
  refine (platform.resolveDomains_masked site).bind ?_
  rintro domains _ rfl
  refine (platform.authRoutes_masked _).bind fun auth maskedAuth hAuth => ?_
  refine (platform.redirects_masked site branch).bind fun redirects maskedRedirects hSame => ?_
  rw [List.map_id, List.map_id] at hSame
  subst hSame
  refine hContent.bind ?_
  rintro content _ rfl
  refine hNotFound.bind ?_
  rintro notFound _ rfl
  -- The events count the routes, which are as many on both sides.
  simp only [List.length_append, length_eq_of_withoutPasswords_eq hAuth]
  refine .report ?_
  refine (hWarning _).bind fun _ _ _ => ?_
  refine hId.bind ?_
  rintro routeId _ rfl
  refine .done ?_
  simp only [Route.withoutPasswords, handlersWithoutPasswords, Handler.withoutPasswords,
    routesWithoutPasswords_eq, List.map_append, hAuth]
  rfl

theorem siteRoutes_masked :
    LooksAlike platform.lookups (List.map Route.withoutPasswords)
      (siteRoutes site) (siteRoutes site.masked) := by
  unfold siteRoutes
  have hBranches : site.masked.branches.mapM (branchRoute site.masked) =
      site.branches.mapM fun branch => branchRoute site.masked branch.masked := by
    rw [Site.masked, List.mapM_map]
    rfl
  rw [hBranches]
  refine (LooksAlike.mapM fun branch _ => platform.branchRoute_masked site branch).bind
    fun routes others hRoutes => ?_
  rw [length_eq_of_withoutPasswords_eq hRoutes]
  exact .report (.done hRoutes)

theorem compileSites_masked (sites : List Site) :
    LooksAlike platform.lookups (List.map Route.withoutPasswords)
      (compileSites sites) (compileSites (sites.map Site.masked)) := by
  unfold compileSites
  rw [List.mapM_map]
  refine (LooksAlike.mapM fun site _ => platform.siteRoutes_masked site).bind
    fun routes others hRoutes => ?_
  have hFlatten : routes.flatten.map Route.withoutPasswords =
      others.flatten.map Route.withoutPasswords := by
    rw [List.map_flatten, List.map_flatten, hRoutes]
  simp only [length_eq_of_withoutPasswords_eq hFlatten, List.length_map]
  exact .report (.done hFlatten)

end Platform

namespace Policy

theorem compile_masked (policy : Policy) :
    policy.masked.compile.events = policy.compile.events ∧
      policy.masked.compile.result.map (List.map Route.withoutPasswords) =
        policy.compile.result.map (List.map Route.withoutPasswords) :=
  have hAlike := policy.platform.compileSites_masked policy.sites
  ⟨hAlike.events_eq.symm, hAlike.result_eq.symm⟩

/-- What is shown of a policy depends on its hashes only through their emptiness, and the routes
depend on them otherwise only in the passwords of accounts. The ends of the compilations are
compared whole: they are the same failure, or both are routes. -/
theorem shown_eq_of_masked_eq {first second : Policy} (hMasked : first.masked = second.masked) :
    first.describe = second.describe ∧
      first.sites.map Site.describe = second.sites.map Site.describe ∧
      (first.sites.map fun site => site.branches.map Branch.describe) =
        (second.sites.map fun site => site.branches.map Branch.describe) ∧
      first.problems = second.problems ∧
      first.compile.events = second.compile.events ∧
      first.compile.result.map (List.map Route.withoutPasswords) =
        second.compile.result.map (List.map Route.withoutPasswords) := by
  refine ⟨?_, ?_, ?_, ?_, ?_, ?_⟩
  · rw [← first.describe_masked, hMasked, describe_masked]
  · rw [← first.map_describe_sites_masked, hMasked, map_describe_sites_masked]
  · rw [← first.map_describe_branches_masked, hMasked, map_describe_branches_masked]
  · rw [← first.problems_masked, hMasked, problems_masked]
  · rw [← first.compile_masked.1, hMasked, second.compile_masked.1]
  · rw [← first.compile_masked.2, hMasked, second.compile_masked.2]

/-- A site with a password, and a branch of it with another one. -/
def lockedSite (siteHash branchHash : String) : Policy :=
  { sites :=
      [{ id := "s1"
         name := "blog"
         mainBranch := "b1"
         password := some { hash := siteHash }
         branches :=
           [{ id := "b1", slug := "prod" },
            { id := "b2", slug := "next", password := some { hash := branchHash } }] }] }

theorem lockedSite_shows_no_hash :
    (lockedSite "one" "two").masked = (lockedSite "three" "four").masked ∧
      (lockedSite "one" "two").describe = (lockedSite "three" "four").describe ∧
      (lockedSite "one" "two").compile.events = (lockedSite "three" "four").compile.events ∧
      ∃ routes others, (lockedSite "one" "two").compile.result = .ok routes ∧
        (lockedSite "three" "four").compile.result = .ok others ∧
        routes.map Route.withoutPasswords = others.map Route.withoutPasswords := by
  have hMasked : (lockedSite "one" "two").masked = (lockedSite "three" "four").masked := by decide
  obtain ⟨hDescribe, _, _, _, hEvents, hRoutes⟩ := shown_eq_of_masked_eq hMasked
  exact ⟨hMasked, hDescribe, hEvents, _, _, rfl, rfl, Except.ok.inj hRoutes⟩

end Policy

end TenantRoutes
