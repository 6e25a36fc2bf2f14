import Mathlib.Data.String.Basic
import TenantRoutes.Proofs.Policy.SharedHosts

/-! Whether hosts are host names. Validation checks slugs, site names and domains one by one, and the
compiler joins them. What it joins is always made of labels, but the length of the whole is checked
nowhere. -/
namespace TenantRoutes

/-- Every route has a list of hosts, and all of these are host names. -/
def ServesHostnames (routes : List Route) : Prop :=
  ∀ route ∈ routes, ∃ hosts, route.hosts? = some hosts ∧ ∀ host ∈ hosts, isHostname host = true

/-- The domains of a site are those it declares and its name on the platform. -/
theorem Platform.mem_domainsFor {platform : Platform} {site : Site} {domain : Domain}
    (hDomain : domain ∈ platform.domainsFor site) :
    domain ∈ site.domains ∨
      domain = Domain.onPlatform (site.name ++ "." ++ platform.sitesDomain) := by
  rcases mem_of_mem_keepDistinct _ hDomain with hNone | hMem
  · simp at hNone
  · simpa using hMem

namespace Policy

variable {policy : Policy} {routes : List Route} {site : Site} {branch : Branch}

namespace WellFormed

theorem isLabelled_domain (hWell : policy.WellFormed) (hSite : site ∈ policy.sites)
    {domain : Domain} (hDomain : domain ∈ policy.platform.domainsFor site) :
    IsLabelled domain.name := by
  have hWellSite := hWell.sites site hSite
  rcases Platform.mem_domainsFor hDomain with hDeclared | rfl
  · exact isLabelled_of_isHostname (hWellSite.domains domain hDeclared)
  · exact (isLabelled_join_iff hWellSite.name).mpr (isLabelled_of_isHostname hWell.sitesDomain)

/-- Hosts are made of labels. -/
theorem isLabelled_host (hWell : policy.WellFormed) (hSite : site ∈ policy.sites)
    (hBranch : branch ∈ site.branches) {host : String}
    (hHost : host ∈ branchHosts (policy.platform.domainsFor site) branch site) :
    IsLabelled host := by
  rcases mem_branchHosts.mp hHost with ⟨domain, hDomain, _, rfl⟩ | ⟨_, domain, hDomain, rfl⟩
  · have hSlug := ((hWell.sites site hSite).branches branch hBranch).slug
    exact (isLabelled_join_iff hSlug).mpr (hWell.isLabelled_domain hSite hDomain)
  · exact hWell.isLabelled_domain hSite hDomain

/-- The hosts of a branch are host names when they are not too long below the domains that expose
branches. A domain by itself is not too long then either: a declared one was validated, and the name
on the platform exposes branches. -/
theorem hosts_areHostnames_iff (hWell : policy.WellFormed) (hSite : site ∈ policy.sites)
    (hBranch : branch ∈ site.branches) :
    (∀ host ∈ branchHosts (policy.platform.domainsFor site) branch site,
        isHostname host = true) ↔
      ∀ domain ∈ policy.platform.domainsFor site, domain.exposesBranches = true →
        branch.slug.utf8ByteSize + 1 + domain.name.utf8ByteSize ≤ 253 := by
  have hSize (domain : Domain) : (branch.hostBelow domain).utf8ByteSize =
      branch.slug.utf8ByteSize + 1 + domain.name.utf8ByteSize := utf8ByteSize_join _ _
  constructor
  · intro hHosts domain hDomain hExposed
    have hHost : branch.hostBelow domain ∈
        branchHosts (policy.platform.domainsFor site) branch site :=
      mem_branchHosts.mpr (Or.inl ⟨domain, hDomain, hExposed, rfl⟩)
    rw [← hSize]
    exact (hWell.isLabelled_host hSite hBranch hHost).isHostname_iff.mp (hHosts _ hHost)
  · intro hShort host hHost
    rw [(hWell.isLabelled_host hSite hBranch hHost).isHostname_iff]
    rcases mem_branchHosts.mp hHost with
      ⟨domain, hDomain, hExposed, rfl⟩ | ⟨_, domain, hDomain, rfl⟩
    · rw [hSize]
      exact hShort domain hDomain hExposed
    · rcases Platform.mem_domainsFor hDomain with hDeclared | hPlatform
      · exact (isHostname_iff.mp ((hWell.sites site hSite).domains domain hDeclared)).short
      · have hBelow := hShort domain hDomain (by rw [hPlatform]; rfl)
        omega

end WellFormed

/-- Hosts of accepted policies are made of labels, so they are host names unless they are too long.
That happens where a slug is put before a domain that is short enough by itself. -/
theorem servesHostnames_iff (policy : Policy) (routes : List Route)
    (hValid : policy.isValid = true) (hRoutes : policy.compile.result = .ok routes) :
    (∀ route ∈ routes, ∃ hosts, route.hosts? = some hosts ∧
      ∀ host ∈ hosts, (isHostname host = true ↔ host.utf8ByteSize ≤ 253)) ∧
    (ServesHostnames routes ↔
      ∀ site ∈ policy.sites, ∃ domains,
        site.resolveDomains.resultWith policy.platform.lookups = .ok domains ∧
        ∀ branch ∈ site.branches, ∀ domain ∈ domains, domain.exposesBranches = true →
          branch.slug.utf8ByteSize + 1 + domain.name.utf8ByteSize ≤ 253) := by
  have hWell := isValid_iff_wellFormed.mp hValid
  obtain ⟨_, rfl⟩ := (policy.platform.compileSites_eq_ok_iff).mp hRoutes
  constructor
  · rw [List.forall_mem_map]
    intro owned hOwned
    obtain ⟨hSite, hBranch⟩ := mem_ownedBranches.mp hOwned
    exact ⟨_, rfl, fun host hHost => (hWell.isLabelled_host hSite hBranch hHost).isHostname_iff⟩
  · rw [ServesHostnames, List.forall_mem_map]
    constructor
    · intro hServes site hSite
      refine ⟨_, (hWell.sites site hSite).resolveDomains_resultWith policy.platform, ?_⟩
      intro branch hBranch
      obtain ⟨hosts, hHosts, hNames⟩ :=
        hServes (site, branch) (mem_ownedBranches.mpr ⟨hSite, hBranch⟩)
      obtain rfl : branchHosts _ _ _ = hosts := Option.some.inj hHosts
      exact (hWell.hosts_areHostnames_iff hSite hBranch).mp hNames
    · rintro hShort ⟨site, branch⟩ hOwned
      obtain ⟨hSite, hBranch⟩ := mem_ownedBranches.mp hOwned
      obtain ⟨domains, hDomains, hFits⟩ := hShort site hSite
      rw [(hWell.sites site hSite).resolveDomains_resultWith policy.platform] at hDomains
      obtain rfl := Except.ok.inj hDomains
      exact ⟨_, rfl, (hWell.hosts_areHostnames_iff hSite hBranch).mpr (hFits branch hBranch)⟩

/-- A site with one domain, which exposes branches. -/
def exposingSite (name : String) : Site :=
  { blogSite with domains := [{ name, exposesBranches := true }] }

theorem exposingSite_servesHostnames :
    Policy.isValid { sites := [exposingSite "example.com"] } = true ∧
      ∃ routes, (compile { sites := [exposingSite "example.com"] }).result = .ok routes ∧
        ServesHostnames routes := by
  have hValid : Policy.isValid { sites := [exposingSite "example.com"] } = true := by decide
  obtain ⟨routes, hRoutes⟩ : ∃ routes,
      (compile { sites := [exposingSite "example.com"] }).result = .ok routes := ⟨_, rfl⟩
  refine ⟨hValid, routes, hRoutes, (servesHostnames_iff _ routes hValid hRoutes).2.mpr ?_⟩
  intro site hSite
  obtain rfl := List.mem_singleton.mp hSite
  exact ⟨_, rfl, by decide⟩

theorem exposingSite_wellFormed {name : String} (hName : isHostname name = true) :
    Policy.WellFormed { sites := [exposingSite name] } := by
  have hPolicy : Policy.WellFormed { sites := [blogSite] } :=
    isValid_iff_wellFormed.mp (by decide)
  have hSite : blogSite.WellFormed := hPolicy.sites blogSite List.mem_cons_self
  exact
    { hPolicy with
      sites := List.forall_mem_singleton.mpr
        { hSite with domains := List.forall_mem_singleton.mpr hName } }

/-- Where a domain leaves no room for the slug, the host of the branch is too long. -/
theorem exposingSite_not_servesHostnames {name : String} (hName : isHostname name = true)
    (hLong : 248 < name.utf8ByteSize) :
    ∃ routes, (compile { sites := [exposingSite name] }).result = .ok routes ∧
      ¬ ServesHostnames routes := by
  have hWell := exposingSite_wellFormed hName
  have hFault : blogSite.fault? homeBranch = none := by decide
  have hFaults : ∀ owned ∈ ownedBranches [exposingSite name], owned.1.fault? owned.2 = none :=
    List.forall_mem_singleton.mpr hFault
  refine ⟨_, (Platform.compileSites_eq_ok_iff {}).mpr ⟨hFaults, rfl⟩, fun hServes => ?_⟩
  obtain ⟨hosts, hHosts, hNames⟩ := hServes _ List.mem_cons_self
  obtain rfl : branchHosts _ _ _ = hosts := Option.some.inj hHosts
  have hDomain : { name, exposesBranches := true } ∈
      Platform.domainsFor {} (exposingSite name) :=
    head_mem_keepDistinct _ _ _
  have hFits := (hWell.hosts_areHostnames_iff List.mem_cons_self List.mem_cons_self).mp hNames _
    hDomain rfl
  have hSlug : homeBranch.slug.utf8ByteSize = 4 := by decide
  change homeBranch.slug.utf8ByteSize + 1 + name.utf8ByteSize ≤ 253 at hFits
  omega

def longLabels : List (List Char) :=
  [63, 63, 63, 61].map fun length => List.replicate length 'a'

/-- A host name that is as long as host names get. -/
def longName : String :=
  String.ofList (['.'].intercalate longLabels)

/-- Validation accepts a site that exposes its branch below this domain, and what the branch is
served under there is no host name. -/
theorem longName_not_servesHostnames :
    Policy.isValid { sites := [exposingSite longName] } = true ∧
      ∃ routes, (compile { sites := [exposingSite longName] }).result = .ok routes ∧
        ¬ ServesHostnames routes := by
  have hSize : longName.utf8ByteSize = 253 := by
    rw [longName, String.utf8ByteSize_ofList]
    decide +kernel
  have hLabels : ∀ label ∈ longLabels, IsLabel label := by
    simp only [← isLabel_iff]
    decide
  have hName : isHostname longName = true :=
    isHostname_iff.mpr ⟨hSize.le, longLabels, by decide, hLabels, String.toList_ofList⟩
  exact ⟨isValid_iff_wellFormed.mpr (exposingSite_wellFormed hName),
    exposingSite_not_servesHostnames hName (by omega)⟩

end Policy

end TenantRoutes
