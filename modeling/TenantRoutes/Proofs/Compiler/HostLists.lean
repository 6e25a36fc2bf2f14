import TenantRoutes.Proofs.Compiler.PlatformRoutes
import TenantRoutes.Proofs.Policy.Naming
import TenantRoutes.Proofs.Text.LetterCase

/-! The hosts in compiled routes. A host of a branch is its slug below a domain or, for the main
branch, a domain itself. As slugs have no dots, it is known how two of them can be the same. Hosts
are compared as texts that agree ignoring case; how requests are matched with them is the server's
affair. -/
namespace TenantRoutes

/-- A host in the list of a branch among compiled routes, which stand in the order of the
branches. -/
def IsHostOf (sites : List Site) (routes : List Route) (owned : Site × Branch) (host : String) :
    Prop :=
  ∃ route hosts, (owned, route) ∈ (ownedBranches sites).zip routes ∧
    route.hosts? = some hosts ∧ host ∈ hosts

/-- Two branches whose lists have a host in common, ignoring case. -/
def ShareHost (sites : List Site) (routes : List Route) (owned other : Site × Branch) : Prop :=
  ∃ host second, IsHostOf sites routes owned host ∧ IsHostOf sites routes other second ∧
    Text.eqIgnoringCase host second = true

/-- Two lists of domains with a name in common, ignoring case. -/
def ShareName (domains others : List Domain) : Prop :=
  ∃ domain ∈ domains, ∃ other ∈ others, Text.eqIgnoringCase domain.name other.name = true

instance (domains others : List Domain) : Decidable (ShareName domains others) :=
  inferInstanceAs (Decidable (∃ domain ∈ domains, ∃ other ∈ others, _))

/-- A domain of the first list that is named like the host of a branch below a domain of the second
list that exposes branches. -/
def NamesHostBelow (domains : List Domain) (branch : Branch) (others : List Domain) : Prop :=
  ∃ domain ∈ domains, ∃ other ∈ others, other.exposesBranches = true ∧
    Text.eqIgnoringCase domain.name (branch.hostBelow other) = true

instance (domains : List Domain) (branch : Branch) (others : List Domain) :
    Decidable (NamesHostBelow domains branch others) :=
  inferInstanceAs (Decidable (∃ domain ∈ domains, ∃ other ∈ others, _))

/-- Hosts are slugs below domains that expose branches and, for the main branch, domains. -/
theorem mem_branchHosts {domains : List Domain} {branch : Branch} {site : Site} {host : String} :
    host ∈ branchHosts domains branch site ↔
      (∃ domain ∈ domains, domain.exposesBranches = true ∧ branch.hostBelow domain = host) ∨
        (site.isMainBranch branch = true ∧ ∃ domain ∈ domains, domain.name = host) := by
  rw [branchHosts, List.mem_append]
  refine or_congr ?_ ?_
  · simp [and_assoc]
  · cases site.isMainBranch branch <;> simp

theorem hostBelow_eq_hostBelow_iff {branch second : Branch} {domain other : Domain}
    (hBranch : IsLabel branch.slug.toList) (hSecond : IsLabel second.slug.toList) :
    Text.eqIgnoringCase (branch.hostBelow domain) (second.hostBelow other) = true ↔
      Text.eqIgnoringCase branch.slug second.slug = true ∧
        Text.eqIgnoringCase domain.name other.name = true :=
  Text.eqIgnoringCase_join_iff hBranch.dot_not_mem hSecond.dot_not_mem

/-- How the hosts of two branches meet: slug and domain are both the same, or a main branch is
served under a domain that is named like a host of the other branch, or two main branches are served
under domains of one name. -/
theorem branchHosts_meet_iff {domains others : List Domain} {branch second : Branch}
    {site other : Site} (hBranch : IsLabel branch.slug.toList)
    (hSecond : IsLabel second.slug.toList) :
    (∃ host ∈ branchHosts domains branch site, ∃ name ∈ branchHosts others second other,
        Text.eqIgnoringCase host name = true) ↔
      (Text.eqIgnoringCase branch.slug second.slug = true ∧
        ShareName (domains.filter (·.exposesBranches)) (others.filter (·.exposesBranches))) ∨
      (site.isMainBranch branch = true ∧ NamesHostBelow domains second others) ∨
      (other.isMainBranch second = true ∧ NamesHostBelow others branch domains) ∨
      (site.isMainBranch branch = true ∧ other.isMainBranch second = true ∧
        ShareName domains others) := by
  constructor
  -- Both hosts are either below a domain or a domain itself, which makes the four cases.
  · rintro ⟨host, hHost, name, hName, hSame⟩
    rw [mem_branchHosts] at hHost hName
    rcases hHost with ⟨domain, hDomain, hExposed, rfl⟩ | ⟨hMain, domain, hDomain, rfl⟩
    · rcases hName with ⟨below, hBelow, hOpen, rfl⟩ | ⟨hSecondMain, below, hBelow, rfl⟩
      · rw [hostBelow_eq_hostBelow_iff hBranch hSecond] at hSame
        exact Or.inl ⟨hSame.1, domain, List.mem_filter.mpr ⟨hDomain, hExposed⟩, below,
          List.mem_filter.mpr ⟨hBelow, hOpen⟩, hSame.2⟩
      · rw [Text.eqIgnoringCase_comm] at hSame
        exact Or.inr (Or.inr (Or.inl
          ⟨hSecondMain, below, hBelow, domain, hDomain, hExposed, hSame⟩))
    · rcases hName with ⟨below, hBelow, hOpen, rfl⟩ | ⟨hSecondMain, below, hBelow, rfl⟩
      · exact Or.inr (Or.inl ⟨hMain, domain, hDomain, below, hBelow, hOpen, hSame⟩)
      · exact Or.inr (Or.inr (Or.inr
          ⟨hMain, hSecondMain, domain, hDomain, below, hBelow, hSame⟩))
  · simp only [mem_branchHosts]
    rintro (⟨hSlug, domain, hDomain, below, hBelow, hName⟩ |
      ⟨hMain, domain, hDomain, below, hBelow, hOpen, hSame⟩ |
      ⟨hSecondMain, below, hBelow, domain, hDomain, hExposed, hSame⟩ |
      ⟨hMain, hSecondMain, domain, hDomain, below, hBelow, hSame⟩)
    · rw [List.mem_filter] at hDomain hBelow
      exact ⟨_, Or.inl ⟨domain, hDomain.1, hDomain.2, rfl⟩, _,
        Or.inl ⟨below, hBelow.1, hBelow.2, rfl⟩,
        (hostBelow_eq_hostBelow_iff hBranch hSecond).mpr ⟨hSlug, hName⟩⟩
    · exact ⟨_, Or.inr ⟨hMain, domain, hDomain, rfl⟩, _, Or.inl ⟨below, hBelow, hOpen, rfl⟩, hSame⟩
    · rw [Text.eqIgnoringCase_comm] at hSame
      exact ⟨_, Or.inl ⟨domain, hDomain, hExposed, rfl⟩, _,
        Or.inr ⟨hSecondMain, below, hBelow, rfl⟩, hSame⟩
    · exact ⟨_, Or.inr ⟨hMain, domain, hDomain, rfl⟩, _, Or.inr ⟨hSecondMain, below, hBelow, rfl⟩,
        hSame⟩

namespace Platform

variable {platform : Platform} {sites : List Site} {routes : List Route}

/-- The hosts compiled for a branch are those of its slug and the domains of its site. -/
theorem isHostOf_iff (hRoutes : (compileSites sites).resultWith platform.lookups = .ok routes)
    {owned : Site × Branch} {host : String} :
    IsHostOf sites routes owned host ↔ owned ∈ ownedBranches sites ∧
      host ∈ branchHosts (platform.domainsFor owned.1) owned.2 owned.1 := by
  simp only [IsHostOf, platform.mem_zip_routes hRoutes]
  constructor
  · rintro ⟨_, hosts, ⟨hOwned, rfl⟩, hHosts, hHost⟩
    have hList : branchHosts _ _ _ = hosts := Option.some.inj hHosts
    exact ⟨hOwned, hList ▸ hHost⟩
  · rintro ⟨hOwned, hHost⟩
    exact ⟨_, _, ⟨hOwned, rfl⟩, rfl, hHost⟩

theorem shareHost_iff (hRoutes : (compileSites sites).resultWith platform.lookups = .ok routes)
    {owned other : Site × Branch} :
    ShareHost sites routes owned other ↔
      owned ∈ ownedBranches sites ∧ other ∈ ownedBranches sites ∧
        ∃ host ∈ branchHosts (platform.domainsFor owned.1) owned.2 owned.1,
          ∃ name ∈ branchHosts (platform.domainsFor other.1) other.2 other.1,
            Text.eqIgnoringCase host name = true := by
  simp only [ShareHost, isHostOf_iff hRoutes]
  constructor
  · rintro ⟨host, name, ⟨hOwned, hHost⟩, ⟨hOther, hName⟩, hSame⟩
    exact ⟨hOwned, hOther, host, hHost, name, hName, hSame⟩
  · rintro ⟨hOwned, hOther, host, hHost, name, hName, hSame⟩
    exact ⟨host, name, ⟨hOwned, hHost⟩, ⟨hOther, hName⟩, hSame⟩

end Platform

end TenantRoutes
