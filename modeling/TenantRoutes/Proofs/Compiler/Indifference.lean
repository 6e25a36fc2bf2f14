import TenantRoutes.Proofs.Compiler.FirstDomains
import TenantRoutes.Proofs.Compiler.Isolation
import TenantRoutes.Route.Json

/-! What routes do not depend on. Certificates, the names of branches and the ids of redirects go
through the whole compilation unseen, and a domain that repeats the name of an earlier one is
dropped whatever it says. So sites that differ in nothing else have the same routes or fail alike.
The questions asked on the way may still differ, since they hold whole sites. -/
namespace TenantRoutes

/-- A redirect without its id. -/
def Redirect.unlabelled (redirect : Redirect) : Redirect :=
  { redirect with id := "" }

/-- A branch without its name and without the ids of its redirects. -/
def Branch.unlabelled (branch : Branch) : Branch :=
  { branch with name := "", redirects := branch.redirects.map Redirect.unlabelled }

/-- Domains that are equal, one by one, but for their certificates. A domain that repeats the name
of an earlier one, ignoring case, need only have the same name ignoring case. -/
inductive NamedAlike : List Domain → List Domain → Prop where
  | nil : NamedAlike [] []
  | same {front others : List Domain} {domain other : Domain} (prior : NamedAlike front others)
      (hName : domain.name = other.name)
      (hExposes : domain.exposesBranches = other.exposesBranches) :
      NamedAlike (front ++ [domain]) (others ++ [other])
  | repeated {front others : List Domain} {earlier domain other : Domain}
      (prior : NamedAlike front others) (hEarlier : earlier ∈ front)
      (hRepeats : Text.eqIgnoringCase earlier.name domain.name = true)
      (hName : Text.eqIgnoringCase domain.name other.name = true) :
      NamedAlike (front ++ [domain]) (others ++ [other])

/-- Sites that are equal but for certificates and labels, and for the spelling and the exposure of
domains that repeat an earlier one. -/
structure Site.RoutesLike (site other : Site) : Prop where
  settings_eq :
    { site with domains := [], branches := [] } = { other with domains := [], branches := [] }
  domains : NamedAlike site.domains other.domains
  branches_eq : site.branches.map Branch.unlabelled = other.branches.map Branch.unlabelled

/-- What hosts are made from. -/
def Domain.exposure (domain : Domain) : String × Bool :=
  (domain.name, domain.exposesBranches)

theorem branchHosts_eq_exposures (domains : List Domain) (branch : Branch) (site : Site) :
    branchHosts domains branch site =
      ((domains.map Domain.exposure).filter (·.2)).map (fun entry => branch.slug ++ "." ++ entry.1)
        ++ if site.isMainBranch branch then (domains.map Domain.exposure).map (·.1) else [] := by
  rw [branchHosts, List.filter_map, List.map_map, List.map_map]
  rfl

section Domains

variable {front others : List Domain} {earlier domain other : Domain}

/-- Names are all that comparing domains looks at. -/
theorem any_sameHost_eq_exposures (kept : List Domain) (domain : Domain) :
    kept.any (Domain.sameHost · domain) =
      (kept.map Domain.exposure).any (Text.eqIgnoringCase ·.1 domain.name) := by
  rw [List.any_map]
  rfl

theorem any_sameHost_congr (hKept : front.map Domain.exposure = others.map Domain.exposure)
    (hName : Text.eqIgnoringCase domain.name other.name = true) :
    front.any (Domain.sameHost · domain) = others.any (Domain.sameHost · other) := by
  rw [any_sameHost_eq_exposures, any_sameHost_eq_exposures, hKept]
  simp only [Text.eqIgnoringCase, Text.eqIgnoringCase_iff.mp hName]

/-- A domain that repeats an earlier one repeats one that was kept. -/
theorem any_sameHost_keepDistinct (hEarlier : earlier ∈ front)
    (hRepeats : Text.eqIgnoringCase earlier.name domain.name = true) :
    (keepDistinct Domain.sameHost [] front).any (Domain.sameHost · domain) = true := by
  obtain ⟨kept, hKept, hSame⟩ := exists_same_mem_keepDistinct Domain.sameHost_refl hEarlier
  exact List.any_eq_true.mpr ⟨kept, hKept, Domain.sameHost_trans _ _ _ hSame hRepeats⟩

/-- Of lists that are named alike the domains at the same places are kept, and these agree in all
that hosts are made from. -/
theorem NamedAlike.keepDistinct_exposures {domains others : List Domain}
    (hAlike : NamedAlike domains others) :
    (keepDistinct Domain.sameHost [] domains).map Domain.exposure =
      (keepDistinct Domain.sameHost [] others).map Domain.exposure := by
  induction hAlike with
  | nil => rfl
  | @same front others domain other prior hName hExposes ih =>
      have hExposure : domain.exposure = other.exposure := Prod.ext hName hExposes
      have hAny := any_sameHost_congr ih (Text.eqIgnoringCase_iff.mpr (congrArg _ hName))
      rw [keepDistinct_concat, keepDistinct_concat, hAny]
      split
      case isTrue hDropped => exact ih
      case isFalse hKept => rw [List.map_append, List.map_append, ih, List.map_singleton,
        List.map_singleton, hExposure]
  | @repeated front others earlier domain other prior hEarlier hRepeats hName ih =>
      -- What is repeated is dropped on both sides, so its spelling and exposure are lost.
      have hDropped := any_sameHost_keepDistinct hEarlier hRepeats
      have hAny := any_sameHost_congr ih hName
      rw [keepDistinct_concat, keepDistinct_concat, ← hAny, if_pos hDropped, if_pos hDropped]
      exact ih

end Domains

namespace Site.RoutesLike

variable {site other : Site}

/-- The other site is this one with its own domains and branches. -/
theorem eq_with (hLike : site.RoutesLike other) :
    other = { site with domains := other.domains, branches := other.branches } := by
  have hSettings := hLike.settings_eq
  simp only [Site.mk.injEq, true_and, and_true] at hSettings
  obtain ⟨hId, hName, hMain, hSinglePage, hPassword, hHeaders⟩ := hSettings
  rw [hId, hName, hMain, hSinglePage, hPassword, hHeaders]

theorem fault?_eq (hLike : site.RoutesLike other) : other.fault? = site.fault? := by
  rw [hLike.eq_with]
  rfl

/-- On a platform both sites end with the same name, so the resolved domains agree as well. -/
theorem domainsFor_exposures (hLike : site.RoutesLike other) (platform : Platform) :
    (platform.domainsFor other).map Domain.exposure =
      (platform.domainsFor site).map Domain.exposure := by
  have hName : other.name = site.name := by rw [hLike.eq_with]
  rw [Platform.domainsFor, Platform.domainsFor, hName]
  exact (NamedAlike.same hLike.domains rfl rfl).keepDistinct_exposures.symm

theorem routeFor_eq (hLike : site.RoutesLike other) (platform : Platform) :
    platform.routeFor other = platform.routeFor site := by
  funext branch
  have hHosts : branchHosts (platform.domainsFor other) branch other =
      branchHosts (platform.domainsFor site) branch site := by
    rw [branchHosts_eq_exposures, branchHosts_eq_exposures, hLike.domainsFor_exposures,
      hLike.eq_with]
    rfl
  rw [Platform.routeFor, hHosts, hLike.eq_with]
  rfl

end Site.RoutesLike

namespace Platform

variable (platform : Platform)

theorem routeFor_unlabelled (site : Site) (branch : Branch) :
    platform.routeFor site branch.unlabelled = platform.routeFor site branch := by
  have hRedirects : branch.unlabelled.redirects.map
        (platform.redirectRouteFor site branch.unlabelled) =
      branch.redirects.map (platform.redirectRouteFor site branch) := List.map_map
  rw [routeFor, innerRoutesFor, hRedirects]
  rfl

/-- The labels of branches are not needed for their routes. -/
theorem siteRoutes_resultWith_unlabelled (site : Site) :
    (siteRoutes site).resultWith platform.lookups =
      settle ((site.branches.map Branch.unlabelled).findSome? site.fault?)
        ((site.branches.map Branch.unlabelled).map (platform.routeFor site)) := by
  have hRoutes : platform.routeFor site ∘ Branch.unlabelled = platform.routeFor site :=
    funext (platform.routeFor_unlabelled site)
  rw [siteRoutes_resultWith, List.findSome?_map, List.map_map, hRoutes]
  rfl

theorem siteRoutes_eq_of_routesLike {site other : Site} (hLike : site.RoutesLike other) :
    (siteRoutes site).resultWith platform.lookups =
      (siteRoutes other).resultWith platform.lookups := by
  rw [siteRoutes_resultWith_unlabelled, siteRoutes_resultWith_unlabelled, hLike.fault?_eq,
    hLike.routeFor_eq, hLike.branches_eq]

/-- Lists of sites that differ in certificates, labels and repeated domains alone have the same
routes, in the same text, or fail with the same error. -/
theorem compileSites_eq_of_routesLike (platform : Platform) (sites others : List Site)
    (hLike : List.Forall₂ Site.RoutesLike sites others) :
    (compileSites sites).resultWith platform.lookups =
        (compileSites others).resultWith platform.lookups ∧
      ∀ layout, ((compileSites sites).resultWith platform.lookups).map (Route.render layout) =
        ((compileSites others).resultWith platform.lookups).map (Route.render layout) := by
  have hSites : (sites.mapM fun site => (siteRoutes site).resultWith platform.lookups) =
      others.mapM fun site => (siteRoutes site).resultWith platform.lookups := by
    induction hLike with
    | nil => rfl
    | cons hSite _ ih =>
        rw [List.mapM_cons, List.mapM_cons, ih, platform.siteRoutes_eq_of_routesLike hSite]
  have hResult : (compileSites sites).resultWith platform.lookups =
      (compileSites others).resultWith platform.lookups := by
    rw [compileSites_resultWith_eq_mapM, compileSites_resultWith_eq_mapM, hSites]
  exact ⟨hResult, fun layout => congrArg _ hResult⟩

/-- A site with one domain and another one that may repeat it. Its branch and its redirect bear a
label. -/
def labelledSite (label : String) (certificate : Certificate) (second : Domain) : Site :=
  { id := "s1", name := "blog", mainBranch := "b1"
    domains := [{ name := "a.com", exposesBranches := true, certificate }, second]
    branches :=
      [{ id := "b1", slug := "prod", name := label
         redirects := [{ id := label, path := "/old", target := .file "new.html" }] }] }

/-- The second domain repeats the first one in both sites, so it may be written and set up in any
way. -/
theorem labelledSite_routes :
    let site := labelledSite "home" .acme { name := "A.com" }
    let other := labelledSite "start" (.custom "cert.pem" "key.pem")
      { name := "a.COM", exposesBranches := true, certificate := .custom "cert.pem" "key.pem" }
    List.Forall₂ Site.RoutesLike [site] [other] ∧ site ≠ other ∧
      ∃ routes, (compileSites [site]).resultWith (lookups {}) = .ok routes ∧
        (compileSites [other]).resultWith (lookups {}) = .ok routes := by
  intro site other
  have hFirst : NamedAlike [{ name := "a.com", exposesBranches := true }]
      [{ name := "a.com", exposesBranches := true, certificate := .custom "cert.pem" "key.pem" }] :=
    NamedAlike.nil.same rfl rfl
  have hDomains : NamedAlike site.domains other.domains :=
    hFirst.repeated (List.mem_singleton_self _) (by decide) (by decide)
  have hLike : List.Forall₂ Site.RoutesLike [site] [other] := .cons ⟨rfl, hDomains, rfl⟩ .nil
  have hRoutes : (compileSites [site]).resultWith (lookups {}) = .ok _ :=
    (compileSites_eq_ok_iff {}).mpr ⟨by decide, rfl⟩
  have hSame := (compileSites_eq_of_routesLike {} [site] [other] hLike).1
  exact ⟨hLike, by decide, _, hRoutes, hSame ▸ hRoutes⟩

end Platform

end TenantRoutes
