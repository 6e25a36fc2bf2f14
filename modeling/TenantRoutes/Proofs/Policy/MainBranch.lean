import TenantRoutes.Proofs.Compiler.FirstDomains
import TenantRoutes.Proofs.Policy.SharedHosts

/-! The main branch of a site. Validation asks that the site names one of its branches and that no
two branches have one id, so there is exactly one, and it is the branch that is found by that id. It
is served under the bare names of the site's domains after the hosts below them, which are all that
the other branches have. -/
namespace TenantRoutes

/-- The one route that stands for a branch among compiled routes, which stand in the order of the
branches. -/
def IsRouteOf (sites : List Site) (routes : List Route) (owned : Site × Branch) (route : Route) :
    Prop :=
  ∀ other, (owned, other) ∈ (ownedBranches sites).zip routes ↔ other = route

theorem branchHosts_of_main {site : Site} {branch : Branch} (domains : List Domain)
    (hMain : site.isMainBranch branch = true) :
    branchHosts domains branch site =
      (domains.filter (·.exposesBranches)).map branch.hostBelow ++ domains.map (·.name) := by
  rw [branchHosts, if_pos hMain]

theorem branchHosts_of_not_main {site : Site} {branch : Branch} (domains : List Domain)
    (hNotMain : site.isMainBranch branch ≠ true) :
    branchHosts domains branch site =
      (domains.filter (·.exposesBranches)).map branch.hostBelow := by
  rw [branchHosts, if_neg hNotMain, List.append_nil]

namespace Site.WellFormed

/-- The main branch is the only one that passes as such, and the one that is found by its id. -/
theorem exists_filter_isMainBranch {site : Site} (hSite : site.WellFormed)
    (hSome : site.branches ≠ []) : ∃ main,
      site.branches.filter site.isMainBranch = [main] ∧
      site.branch? site.mainBranch = some main := by
  obtain ⟨branch, hBranch, hId⟩ := hSite.mainBranch hSome
  have hOnce : (site.branches.filter site.isMainBranch).length = 1 := by
    have hCount : (site.branches.map (·.id)).count site.mainBranch = 1 :=
      List.count_eq_one_of_mem hSite.branchIds (List.mem_map.mpr ⟨branch, hBranch, hId⟩)
    rw [List.count, List.countP_map, List.countP_eq_length_filter] at hCount
    exact hCount
  obtain ⟨main, hOnly⟩ := List.length_eq_one_iff.mp hOnce
  refine ⟨main, hOnly, ?_⟩
  calc site.branch? site.mainBranch
      = (site.branches.filter site.isMainBranch).head? := List.head?_filter.symm
    _ = some main := by rw [hOnly, List.head?_cons]

end Site.WellFormed

/-- A compilation has one route for each branch, with the hosts of the branch. -/
theorem Platform.exists_isRouteOf {platform : Platform} {sites : List Site} {routes : List Route}
    (hRoutes : (compileSites sites).resultWith platform.lookups = .ok routes) {site : Site}
    {branch : Branch} (hSite : site ∈ sites) (hBranch : branch ∈ site.branches) : ∃ route,
      IsRouteOf sites routes (site, branch) route ∧
      route.hosts? = some (branchHosts (platform.domainsFor site) branch site) := by
  refine ⟨platform.routeFor site branch, ?_, rfl⟩
  intro other
  have hOwned : (site, branch) ∈ ownedBranches sites := mem_ownedBranches.mpr ⟨hSite, hBranch⟩
  rw [platform.mem_zip_routes hRoutes, and_iff_right hOwned, eq_comm]

namespace Policy

/-- In an accepted policy every site with branches has exactly one main branch. Wherever the sites
are compiled, the main branch has the bare name of every domain of its site, in their order and
after the hosts below the domains that expose branches. The other branches only have hosts of the
latter kind. -/
theorem mainBranch_owns_bare_names (policy : Policy) (hValid : policy.isValid = true) :
    ∀ site ∈ policy.sites, site.branches ≠ [] → ∃ main,
      site.branches.filter site.isMainBranch = [main] ∧
      site.branch? site.mainBranch = some main ∧
      ∀ (platform : Platform) (routes : List Route),
        (compileSites policy.sites).resultWith platform.lookups = .ok routes →
        ∃ domains, site.resolveDomains.resultWith platform.lookups = .ok domains ∧
          (∃ route hosts, IsRouteOf policy.sites routes (site, main) route ∧
            route.hosts? = some hosts ∧ hosts ≠ [] ∧
            hosts = (domains.filter (·.exposesBranches)).map
                (fun domain => main.slug ++ "." ++ domain.name)
              ++ domains.map (·.name)) ∧
          ∀ branch ∈ site.branches, branch ≠ main →
            ∃ route, IsRouteOf policy.sites routes (site, branch) route ∧
              route.hosts? = some ((domains.filter (·.exposesBranches)).map
                fun domain => branch.slug ++ "." ++ domain.name) := by
  have hWell := isValid_iff_wellFormed.mp hValid
  intro site hIn hSome
  have hSite := hWell.sites site hIn
  obtain ⟨main, hOnly, hFound⟩ := hSite.exists_filter_isMainBranch hSome
  have hMainIff (branch : Branch) :
      branch ∈ site.branches ∧ site.isMainBranch branch = true ↔ branch = main := by
    rw [← List.mem_filter, hOnly, List.mem_singleton]
  obtain ⟨hMainIn, hMain⟩ := (hMainIff main).mpr rfl
  refine ⟨main, hOnly, hFound, ?_⟩
  intro platform routes hRoutes
  refine ⟨_, hSite.resolveDomains_resultWith platform, ?_, ?_⟩
  · obtain ⟨route, hRoute, hHosts⟩ := Platform.exists_isRouteOf hRoutes hIn hMainIn
    rw [branchHosts_of_main _ hMain] at hHosts
    refine ⟨route, _, hRoute, hHosts, ?_, rfl⟩
    exact List.append_ne_nil_of_right_ne_nil _
      (List.map_eq_nil_iff.not.mpr (platform.domainsFor_ne_nil site))
  · intro branch hBranch hOther
    obtain ⟨route, hRoute, hHosts⟩ := Platform.exists_isRouteOf hRoutes hIn hBranch
    have hNotMain : site.isMainBranch branch ≠ true :=
      fun hBranchMain => hOther ((hMainIff branch).mp ⟨hBranch, hBranchMain⟩)
    rw [branchHosts_of_not_main _ hNotMain] at hHosts
    exact ⟨route, hRoute, hHosts⟩

/-- The main branch of `namedSite` has its bare domains and the one on the platform after its own
hosts, and the other branch has only its own. -/
theorem homeBranch_owns_bare_names :
    Policy.isValid { sites := [namedSite] } = true ∧ namedSite.branches ≠ [] ∧
      ∃ routes, (compileSites [namedSite]).resultWith (Platform.lookups {}) = .ok routes ∧
        (∃ route, IsRouteOf [namedSite] routes (namedSite, homeBranch) route ∧
          route.hosts? = some ["prod.example.com", "prod.blog.sites.localhost", "example.com",
            "WWW.example.com", "blog.sites.localhost"]) ∧
        ∃ route, IsRouteOf [namedSite] routes (namedSite, wwwBranch) route ∧
          route.hosts? = some ["www.example.com", "www.blog.sites.localhost"] := by
  have hValid : Policy.isValid { sites := [namedSite] } = true := by decide
  have hSome : namedSite.branches ≠ [] := by decide
  obtain ⟨routes, hRoutes⟩ : ∃ routes,
      (compileSites [namedSite]).resultWith (Platform.lookups {}) = .ok routes := ⟨_, rfl⟩
  obtain ⟨main, hOnly, _, hCompiled⟩ := mainBranch_owns_bare_names { sites := [namedSite] } hValid
    namedSite (List.mem_singleton_self _) hSome
  obtain rfl : homeBranch = main := List.head_eq_of_cons_eq hOnly
  obtain ⟨domains, hDomains, ⟨route, hosts, hRoute, hHosts, _, rfl⟩, hOthers⟩ :=
    hCompiled {} routes hRoutes
  obtain rfl : namedSite.domains ++ [Domain.onPlatform "blog.sites.localhost"] = domains :=
    Except.ok.inj hDomains
  exact ⟨hValid, hSome, routes, hRoutes, ⟨route, hRoute, hHosts⟩,
    hOthers wwwBranch (List.mem_cons_of_mem _ List.mem_cons_self) (by decide)⟩

end Policy

end TenantRoutes
