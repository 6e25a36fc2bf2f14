import TenantRoutes.Proofs.Compiler.FirstDomains

/-! Sites whose domains are resolved already. Resolving them again keeps every domain, and for the
name on the platform there is by then an entry that it repeats: its own or that of the domain it was
left out for. This needs no more of a comparison than that every domain repeats itself. -/
namespace TenantRoutes

section Comparison

variable {same : Domain → Domain → Bool}

/-- Where no domain repeats an earlier one all are kept. -/
theorem keepDistinct_of_pairwise {domains : List Domain}
    (hDistinct : domains.Pairwise fun earlier later => same earlier later = false) :
    keepDistinct same [] domains = domains := by
  induction domains using List.reverseRecOn with
  | nil => rfl
  | append_singleton front domain ih =>
      rw [List.pairwise_append] at hDistinct
      obtain ⟨hFront, _, hLast⟩ := hDistinct
      have hNew : ¬ front.any (same · domain) = true := by
        simpa using fun earlier hEarlier => hLast earlier hEarlier domain List.mem_cons_self
      rw [keepDistinct_concat, ih hFront, if_neg hNew]

/-- What was kept is kept again, and the last domain is not added a second time. -/
theorem keepDistinct_keepDistinct_concat (hRefl : ∀ domain, same domain domain = true)
    (domains : List Domain) (last : Domain) :
    keepDistinct same [] (keepDistinct same [] (domains ++ [last]) ++ [last]) =
      keepDistinct same [] (domains ++ [last]) := by
  have hAgain := keepDistinct_of_pairwise (pairwise_keepDistinct same (domains ++ [last]))
  have hRepeated : (keepDistinct same [] (domains ++ [last])).any (same · last) = true :=
    List.any_eq_true.mpr
      (exists_same_mem_keepDistinct hRefl (List.mem_append_right _ (List.mem_singleton_self _)))
  rw [keepDistinct_concat, hAgain, if_pos hRepeated]

end Comparison

namespace Site

/-- Resolving a second time changes nothing, as long as the name on the platform stays the same. -/
theorem resolveDomains_of_resolved {lookups : Lookups} {site : Site} {domains : List Domain}
    (hMain : lookups.mainDomain { site with domains } = lookups.mainDomain site)
    (hRefl : ∀ domain, lookups.sameDomain domain domain = true)
    (hDomains : site.resolveDomains.resultWith lookups = .ok domains) :
    { site with domains }.resolveDomains.resultWith lookups = .ok domains := by
  cases hName : lookups.mainDomain site with
  | error error =>
      rw [resolveDomains_resultWith, hName] at hDomains
      cases hDomains
  | ok name =>
      rw [resolveDomains_of_mainDomain hName] at hDomains
      obtain rfl := Except.ok.inj hDomains
      rw [resolveDomains_of_mainDomain (hMain.trans hName)]
      exact congrArg Except.ok (keepDistinct_keepDistinct_concat hRefl _ _)

/-- A site with its resolved domains in place of its own. A site without a name on the platform has
none and stays as it is. -/
def resolved (lookups : Lookups) (site : Site) : Site :=
  { site with domains := (site.resolveDomains.resultWith lookups).toOption.getD site.domains }

end Site

namespace Platform

variable (platform : Platform)

theorem resolveDomains_of_resolved {site : Site} {domains : List Domain}
    (hDomains : site.resolveDomains.resultWith platform.lookups = .ok domains) :
    { site with domains }.resolveDomains.resultWith platform.lookups = .ok domains :=
  Site.resolveDomains_of_resolved rfl Domain.sameHost_refl hDomains

theorem domainsFor_resolved (site : Site) :
    platform.domainsFor (site.resolved platform.lookups) = platform.domainsFor site := by
  have hDomains := platform.resolveDomains_resultWith site
  cases hName : site.nameFault? with
  | some fault =>
      rw [hName] at hDomains
      rw [Site.resolved, hDomains]
      rfl
  | none =>
      rw [hName] at hDomains
      have hAgain := platform.resolveDomains_of_resolved hDomains
      have hName' : Site.nameFault? { site with domains := platform.domainsFor site } = none :=
        hName
      rw [platform.resolveDomains_resultWith, hName'] at hAgain
      rw [Site.resolved, hDomains]
      exact Except.ok.inj hAgain

theorem routeFor_resolved (site : Site) (branch : Branch) :
    platform.routeFor (site.resolved platform.lookups) branch = platform.routeFor site branch := by
  rw [routeFor, routeFor, domainsFor_resolved]
  rfl

/-- Of a site's domains the compiler needs no more than what they resolve to. -/
theorem compileSites_map_resolved (sites : List Site) :
    (compileSites (sites.map (Site.resolved platform.lookups))).resultWith platform.lookups =
      (compileSites sites).resultWith platform.lookups := by
  have hRoutes (site : Site) :
      platform.routeFor (site.resolved platform.lookups) = platform.routeFor site :=
    funext (platform.routeFor_resolved site)
  rw [compileSites_resultWith, compileSites_resultWith, findSome?_ownedBranches,
    findSome?_ownedBranches, map_ownedBranches, map_ownedBranches, List.findSome?_map,
    List.map_map]
  simp only [Function.comp_def, hRoutes]
  rfl

end Platform

/-- Resolution is idempotent for every comparison by which each domain repeats itself, as long as
the name on the platform does not depend on the domains, and so it is on every platform. Compiling
sites whose domains were resolved before gives the same routes or the same failure. -/
theorem resolveDomains_idempotent :
    (∀ lookups : Lookups,
      (∀ (site : Site) (domains : List Domain),
        lookups.mainDomain { site with domains } = lookups.mainDomain site) →
      (∀ domain, lookups.sameDomain domain domain = true) →
      ∀ (site : Site) (domains : List Domain),
        site.resolveDomains.resultWith lookups = .ok domains →
        { site with domains }.resolveDomains.resultWith lookups = .ok domains) ∧
    (∀ (platform : Platform) (site : Site) (domains : List Domain),
      site.resolveDomains.resultWith platform.lookups = .ok domains →
      { site with domains }.resolveDomains.resultWith platform.lookups = .ok domains) ∧
    (∀ (platform : Platform) (sites : List Site),
      (compileSites (sites.map (Site.resolved platform.lookups))).resultWith platform.lookups =
        (compileSites sites).resultWith platform.lookups) := by
  refine ⟨?_, ?_, ?_⟩
  · intro lookups hMain hRefl site domains hDomains
    exact Site.resolveDomains_of_resolved (hMain site domains) hRefl hDomains
  · intro platform site domains hDomains
    exact platform.resolveDomains_of_resolved hDomains
  · intro platform sites
    exact platform.compileSites_map_resolved sites

/-- Answers by which a domain also repeats those that are one character shorter. -/
def growingLookups : Lookups :=
  { Platform.lookups {} with
    sameDomain := fun seen domain =>
      seen.name.length == domain.name.length || seen.name.length + 1 == domain.name.length }

/-- The second domain repeats the first one, and the third one the second one only. -/
def growingSite : Site :=
  { id := "s1", name := "blog", mainBranch := "b1"
    domains := [{ name := "a.de" }, { name := "aa.de" }, { name := "aaa.de" }] }

theorem growingSite_resolves_twice :
    (let domains :=
        [{ name := "a.de" }, { name := "aaa.de" }, Domain.onPlatform "blog.sites.localhost"]
     growingSite.resolveDomains.resultWith growingLookups = .ok domains ∧
      { growingSite with domains }.resolveDomains.resultWith growingLookups = .ok domains) ∧
    (let domains := growingSite.domains ++ [Domain.onPlatform "blog.sites.localhost"]
     growingSite.resolveDomains.resultWith (Platform.lookups {}) = .ok domains ∧
      { growingSite with domains }.resolveDomains.resultWith (Platform.lookups {}) =
        .ok domains) := by
  constructor
  · intro domains
    have hDomains : growingSite.resolveDomains.resultWith growingLookups = .ok domains := rfl
    refine ⟨hDomains, resolveDomains_idempotent.1 growingLookups ?_ ?_ growingSite domains hDomains⟩
    · intro site domains
      rfl
    · intro domain
      simp [growingLookups]
  · intro domains
    have hDomains : growingSite.resolveDomains.resultWith (Platform.lookups {}) = .ok domains := rfl
    exact ⟨hDomains, resolveDomains_idempotent.2.1 {} growingSite domains hDomains⟩

end TenantRoutes
