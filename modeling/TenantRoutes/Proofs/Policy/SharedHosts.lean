import TenantRoutes.Proofs.Compiler.HostLists
import TenantRoutes.Proofs.Policy.WellFormed

/-! When branches of an accepted policy share a host. Within a site validation keeps the slugs
apart, so only a domain of the site itself can collide with a host of another branch. Between sites
nothing is kept apart: names and domains are validated for each site alone, and routes of different
sites are told apart by their groups, not by their hosts. -/
namespace TenantRoutes

namespace Site.WellFormed

variable {site : Site}

/-- The domains of a site with a usable name can be resolved on every platform. -/
theorem resolveDomains_resultWith (hSite : site.WellFormed) (platform : Platform) :
    site.resolveDomains.resultWith platform.lookups = .ok (platform.domainsFor site) := by
  have hName : site.name ≠ "" := ne_empty_of_isLabelText hSite.name
  rw [platform.resolveDomains_resultWith, nameFault?, if_neg hName, settle_none]

theorem slug_isLabel (hSite : site.WellFormed) {branch : Branch} (hBranch : branch ∈ site.branches) :
    IsLabel branch.slug.toList :=
  isLabel_iff.mp (hSite.branches branch hBranch).slug

/-- Two branches of a site with one slug are the same. -/
theorem eq_of_slug (hSite : site.WellFormed) {branch second : Branch}
    (hBranch : branch ∈ site.branches) (hSecond : second ∈ site.branches)
    (hSlug : Text.eqIgnoringCase branch.slug second.slug = true) : branch = second :=
  List.inj_on_of_nodup_map hSite.slugs hBranch hSecond (Text.eqIgnoringCase_iff.mp hSlug)

/-- A site has one main branch at most. -/
theorem eq_of_isMainBranch (hSite : site.WellFormed) {branch second : Branch}
    (hBranch : branch ∈ site.branches) (hSecond : second ∈ site.branches)
    (hMain : site.isMainBranch branch = true) (hSecondMain : site.isMainBranch second = true) :
    branch = second := by
  rw [isMainBranch, beq_iff_eq] at hMain hSecondMain
  exact List.inj_on_of_nodup_map hSite.branchIds hBranch hSecond (hMain.trans hSecondMain.symm)

theorem exists_isMainBranch (hSite : site.WellFormed) (hSome : site.branches ≠ []) :
    ∃ branch ∈ site.branches, site.isMainBranch branch = true := by
  obtain ⟨branch, hBranch, hMain⟩ := hSite.mainBranch hSome
  exact ⟨branch, hBranch, beq_iff_eq.mpr hMain⟩

end Site.WellFormed

theorem ShareName.of_filter {keep keepOther : Domain → Bool} {domains others : List Domain}
    (hShare : ShareName (domains.filter keep) (others.filter keepOther)) :
    ShareName domains others := by
  obtain ⟨domain, hDomain, other, hOther, hSame⟩ := hShare
  exact ⟨domain, List.mem_of_mem_filter hDomain, other, List.mem_of_mem_filter hOther, hSame⟩

namespace Policy

variable {policy : Policy} {routes : List Route}

/-- How two branches of an accepted policy share a host, whether or not they are of one site. -/
theorem WellFormed.shareHost_iff (hWell : policy.WellFormed)
    (hRoutes : policy.compile.result = .ok routes) {site other : Site} {branch second : Branch}
    (hSite : site ∈ policy.sites) (hOther : other ∈ policy.sites)
    (hBranch : branch ∈ site.branches) (hSecond : second ∈ other.branches) :
    ShareHost policy.sites routes (site, branch) (other, second) ↔
      (Text.eqIgnoringCase branch.slug second.slug = true ∧
        ShareName ((policy.platform.domainsFor site).filter (·.exposesBranches))
          ((policy.platform.domainsFor other).filter (·.exposesBranches))) ∨
      (site.isMainBranch branch = true ∧
        NamesHostBelow (policy.platform.domainsFor site) second
          (policy.platform.domainsFor other)) ∨
      (other.isMainBranch second = true ∧
        NamesHostBelow (policy.platform.domainsFor other) branch
          (policy.platform.domainsFor site)) ∨
      (site.isMainBranch branch = true ∧ other.isMainBranch second = true ∧
        ShareName (policy.platform.domainsFor site) (policy.platform.domainsFor other)) := by
  have hOwned : (site, branch) ∈ ownedBranches policy.sites :=
    mem_ownedBranches.mpr ⟨hSite, hBranch⟩
  have hOtherOwned : (other, second) ∈ ownedBranches policy.sites :=
    mem_ownedBranches.mpr ⟨hOther, hSecond⟩
  rw [Platform.shareHost_iff hRoutes, and_iff_right hOwned, and_iff_right hOtherOwned,
    branchHosts_meet_iff ((hWell.sites site hSite).slug_isLabel hBranch)
      ((hWell.sites other hOther).slug_isLabel hSecond)]

/-- Two branches of a site share a host exactly when one of them is the main branch and the site has
a domain that is named like a host of the other branch below one of its domains. -/
theorem branches_share_host_iff (policy : Policy) (routes : List Route)
    (hValid : policy.isValid = true) (hRoutes : policy.compile.result = .ok routes) :
    ∀ site ∈ policy.sites, ∃ domains,
      site.resolveDomains.resultWith policy.platform.lookups = .ok domains ∧
      ∀ branch ∈ site.branches, ∀ second ∈ site.branches, branch ≠ second →
        (ShareHost policy.sites routes (site, branch) (site, second) ↔
          (site.isMainBranch branch = true ∧ NamesHostBelow domains second domains) ∨
          (site.isMainBranch second = true ∧ NamesHostBelow domains branch domains)) ∧
        (site.isMainBranch branch = false → site.isMainBranch second = false →
          ¬ ShareHost policy.sites routes (site, branch) (site, second)) := by
  have hWell := isValid_iff_wellFormed.mp hValid
  intro site hIn
  have hSite := hWell.sites site hIn
  refine ⟨_, hSite.resolveDomains_resultWith policy.platform, ?_⟩
  intro branch hBranch second hSecond hDiffer
  have hSlugs : ¬ Text.eqIgnoringCase branch.slug second.slug = true :=
    fun hSlug => hDiffer (hSite.eq_of_slug hBranch hSecond hSlug)
  have hMains : ¬ (site.isMainBranch branch = true ∧ site.isMainBranch second = true) :=
    fun hBoth => hDiffer (hSite.eq_of_isMainBranch hBranch hSecond hBoth.1 hBoth.2)
  rw [hWell.shareHost_iff hRoutes hIn hIn hBranch hSecond]
  constructor
  · constructor
    · rintro (⟨hSlug, _⟩ | hFirst | hOther | ⟨hMain, hSecondMain, _⟩)
      · exact absurd hSlug hSlugs
      · exact Or.inl hFirst
      · exact Or.inr hOther
      · exact absurd ⟨hMain, hSecondMain⟩ hMains
    · rintro (hFirst | hOther)
      · exact Or.inr (Or.inl hFirst)
      · exact Or.inr (Or.inr (Or.inl hOther))
  · intro hNotMain hSecondNotMain
    simp [hSlugs, hNotMain, hSecondNotMain]

/-- The branch that is served under the domains of `namedSite`. -/
def homeBranch : Branch :=
  { id := "b1", slug := "prod" }

/-- A branch with a slug that a domain of `namedSite` spells out. -/
def wwwBranch : Branch :=
  { id := "b2", slug := "www" }

def namedSite : Site :=
  { id := "s1", name := "blog", mainBranch := "b1"
    domains := [{ name := "example.com", exposesBranches := true }, { name := "WWW.example.com" }]
    branches := [homeBranch, wwwBranch] }

/-- The main branch takes the host that the other branch has below `example.com`. -/
theorem namedSite_branches_share_host :
    Policy.isValid { sites := [namedSite] } = true ∧
      ∃ routes, (compile { sites := [namedSite] }).result = .ok routes ∧
        ShareHost [namedSite] routes (namedSite, homeBranch) (namedSite, wwwBranch) := by
  have hValid : Policy.isValid { sites := [namedSite] } = true := by decide
  obtain ⟨routes, hRoutes⟩ : ∃ routes,
      (compile { sites := [namedSite] }).result = .ok routes := ⟨_, rfl⟩
  refine ⟨hValid, routes, hRoutes, ?_⟩
  obtain ⟨domains, hDomains, hShare⟩ := branches_share_host_iff _ routes hValid hRoutes namedSite
    (List.mem_singleton_self _)
  have hNames : domains = namedSite.domains ++ [Domain.onPlatform "blog.sites.localhost"] :=
    (Except.ok.inj hDomains).symm
  refine (hShare homeBranch List.mem_cons_self wwwBranch
    (List.mem_cons_of_mem _ List.mem_cons_self) (by decide)).1.mpr ?_
  rw [hNames]
  decide

/-- Two sites share a host exactly when both have branches and their domains meet: two have one
name, or a domain of one site is named like the host of a branch of the other. -/
theorem sites_share_host_iff (policy : Policy) (routes : List Route)
    (hValid : policy.isValid = true) (hRoutes : policy.compile.result = .ok routes) :
    ∀ site ∈ policy.sites, ∀ other ∈ policy.sites, ∃ domains others,
      site.resolveDomains.resultWith policy.platform.lookups = .ok domains ∧
      other.resolveDomains.resultWith policy.platform.lookups = .ok others ∧
      ((∃ branch second, ShareHost policy.sites routes (site, branch) (other, second)) ↔
        site.branches ≠ [] ∧ other.branches ≠ [] ∧
          (ShareName domains others ∨
            (∃ second ∈ other.branches, NamesHostBelow domains second others) ∨
            ∃ branch ∈ site.branches, NamesHostBelow others branch domains)) := by
  have hWell := isValid_iff_wellFormed.mp hValid
  intro site hIn other hOtherIn
  have hSite := hWell.sites site hIn
  have hOther := hWell.sites other hOtherIn
  refine ⟨_, _, hSite.resolveDomains_resultWith policy.platform,
    hOther.resolveDomains_resultWith policy.platform, ?_⟩
  constructor
  · rintro ⟨branch, second, hShare⟩
    obtain ⟨hOwned, hOtherOwned, _⟩ := (Platform.shareHost_iff hRoutes).mp hShare
    have hBranch := (mem_ownedBranches.mp hOwned).2
    have hSecond := (mem_ownedBranches.mp hOtherOwned).2
    refine ⟨List.ne_nil_of_mem hBranch, List.ne_nil_of_mem hSecond, ?_⟩
    rcases (hWell.shareHost_iff hRoutes hIn hOtherIn hBranch hSecond).mp hShare with
      ⟨_, hNames⟩ | ⟨_, hNames⟩ | ⟨_, hNames⟩ | ⟨_, _, hNames⟩
    · exact Or.inl hNames.of_filter
    · exact Or.inr (Or.inl ⟨second, hSecond, hNames⟩)
    · exact Or.inr (Or.inr ⟨branch, hBranch, hNames⟩)
    · exact Or.inl hNames
  · rintro ⟨hSome, hOtherSome, hNames⟩
    -- A main branch is served under every domain of its site, whatever the domain exposes.
    obtain ⟨main, hMainIn, hMain⟩ := hSite.exists_isMainBranch hSome
    obtain ⟨otherMain, hOtherMainIn, hOtherMain⟩ := hOther.exists_isMainBranch hOtherSome
    rcases hNames with hNames | ⟨second, hSecond, hNames⟩ | ⟨branch, hBranch, hNames⟩
    · exact ⟨main, otherMain, (hWell.shareHost_iff hRoutes hIn hOtherIn hMainIn hOtherMainIn).mpr
        (Or.inr (Or.inr (Or.inr ⟨hMain, hOtherMain, hNames⟩)))⟩
    · exact ⟨main, second, (hWell.shareHost_iff hRoutes hIn hOtherIn hMainIn hSecond).mpr
        (Or.inr (Or.inl ⟨hMain, hNames⟩))⟩
    · exact ⟨branch, otherMain, (hWell.shareHost_iff hRoutes hIn hOtherIn hBranch hOtherMainIn).mpr
        (Or.inr (Or.inr (Or.inl ⟨hOtherMain, hNames⟩)))⟩

def blogSite : Site :=
  { id := "s1", name := "blog", mainBranch := "b1", branches := [homeBranch] }

/-- A second site with the same branch. -/
def secondSite (name : String) (domains : List Domain) : Site :=
  { id := "s2", name, mainBranch := "b1", domains, branches := [homeBranch] }

/-- A domain of the second site that spells out a host of the first. -/
def borrowingSite : Site :=
  secondSite "shop" [{ name := "Prod.blog.sites.localhost" }]

/-- The second site is served under the host that the branch of the first has on the platform. -/
theorem borrowingSite_shares_host :
    Policy.isValid { sites := [blogSite, borrowingSite] } = true ∧
      ∃ routes, (compile { sites := [blogSite, borrowingSite] }).result = .ok routes ∧
        ∃ branch second, ShareHost [blogSite, borrowingSite] routes (blogSite, branch)
          (borrowingSite, second) := by
  have hValid : Policy.isValid { sites := [blogSite, borrowingSite] } = true := by decide
  obtain ⟨routes, hRoutes⟩ : ∃ routes,
      (compile { sites := [blogSite, borrowingSite] }).result = .ok routes := ⟨_, rfl⟩
  refine ⟨hValid, routes, hRoutes, ?_⟩
  obtain ⟨domains, others, hDomains, hOthers, hShare⟩ := sites_share_host_iff _ routes hValid
    hRoutes blogSite List.mem_cons_self borrowingSite (List.mem_cons_of_mem _ List.mem_cons_self)
  have hNames : domains = [Domain.onPlatform "blog.sites.localhost"] :=
    (Except.ok.inj hDomains).symm
  have hOtherNames : others = borrowingSite.domains ++ [Domain.onPlatform "shop.sites.localhost"] :=
    (Except.ok.inj hOthers).symm
  rw [hShare, hNames, hOtherNames]
  decide

/-- Two sites of one name are accepted and compiled, with the same hosts. -/
theorem equalNames_share_host :
    Policy.isValid { sites := [blogSite, secondSite "blog" []] } = true ∧
      ∃ routes, (compile { sites := [blogSite, secondSite "blog" []] }).result = .ok routes ∧
        blogSite ≠ secondSite "blog" [] ∧
        ShareHost [blogSite, secondSite "blog" []] routes (blogSite, homeBranch)
          (secondSite "blog" [], homeBranch) := by
  have hValid : Policy.isValid { sites := [blogSite, secondSite "blog" []] } = true := by decide
  have hWell := isValid_iff_wellFormed.mp hValid
  obtain ⟨routes, hRoutes⟩ : ∃ routes,
      (compile { sites := [blogSite, secondSite "blog" []] }).result = .ok routes := ⟨_, rfl⟩
  refine ⟨hValid, routes, hRoutes, by decide, ?_⟩
  refine (hWell.shareHost_iff hRoutes List.mem_cons_self
    (List.mem_cons_of_mem _ List.mem_cons_self) List.mem_cons_self List.mem_cons_self).mpr ?_
  exact Or.inr (Or.inr (Or.inr (by decide)))

end Policy

end TenantRoutes
