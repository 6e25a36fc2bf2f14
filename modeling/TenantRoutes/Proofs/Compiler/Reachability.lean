import TenantRoutes.Proofs.Compiler.EventLog
import TenantRoutes.Proofs.Compiler.FirstDomains
import TenantRoutes.Proofs.Route.ReadBack

/-! Branches without hosts. Only a branch that is not the main branch can have none, and it does
where no domain of its site exposes branches, which takes a domain of the site that stands in for
the name on the platform. Such a branch is warned about, and its route keeps its condition on hosts,
which then holds for no request. -/
namespace TenantRoutes

namespace Json

/-- The text of a field stands among those of the fields after the first. -/
theorem fieldText_infix_fieldsText (layout : Layout) (depth : Nat) {name : String} {value : Json}
    {fields : List (String × Json)} (hField : (name, value) ∈ fields) :
    stringText name ++ layout.colon ++ text layout depth value <:+:
      fieldsText layout depth fields := by
  induction fields with
  | nil => simp at hField
  | cons entry rest ih =>
      obtain ⟨key, first⟩ := entry
      rw [fieldsText]
      rcases List.mem_cons.mp hField with hFirst | hRest
      · obtain ⟨rfl, rfl⟩ := Prod.mk.inj hFirst
        exact ⟨',' :: layout.lineBreak depth, fieldsText layout depth rest, by simp⟩
      · exact (ih hRest).trans (List.suffix_append _ _).isInfix

/-- The text of a field stands in the text of its object. -/
theorem fieldText_infix (layout : Layout) (depth : Nat) {name : String} {value : Json}
    {fields : List (String × Json)} (hField : (name, value) ∈ fields) :
    stringText name ++ layout.colon ++ text layout (depth + 1) value <:+:
      text layout depth (.object fields) := by
  cases fields with
  | nil => simp at hField
  | cons entry rest =>
      obtain ⟨key, first⟩ := entry
      rw [text]
      rcases List.mem_cons.mp hField with hFirst | hRest
      · obtain ⟨rfl, rfl⟩ := Prod.mk.inj hFirst
        exact ⟨'\x7b' :: layout.lineBreak (depth + 1),
          fieldsText layout (depth + 1) rest ++ layout.lineBreak depth ++ ['\x7d'], by simp⟩
      · refine (fieldText_infix_fieldsText layout (depth + 1) hRest).trans ?_
        exact ⟨'\x7b' :: layout.lineBreak (depth + 1) ++ stringText key ++ layout.colon
          ++ text layout (depth + 1) first, layout.lineBreak depth ++ ['\x7d'], by simp⟩

end Json

namespace Site

/-- No domain that is left of a site's domains exposes branches, not even the name `name` on the
platform, since a domain of the site has it. -/
structure HidesBranches (site : Site) (name : String) : Prop where
  named : ∃ custom ∈ site.domains, Text.eqIgnoringCase custom.name name = true
  hidden : ∀ custom ∈ site.domains, custom.IsFirstOfName site.domains →
    custom.exposesBranches = false

theorem hidesBranches_iff {site : Site} {name : String} :
    site.HidesBranches name ↔
      ∀ domain ∈ keepDistinct Domain.sameHost [] (site.candidates name),
        domain.exposesBranches = false := by
  rw [candidates, keepDistinct_concat]
  split
  case isTrue hRepeated =>
    rw [List.any_eq_true] at hRepeated
    obtain ⟨kept, hKept, hSame⟩ := hRepeated
    constructor
    · intro hHides domain hDomain
      have hFirst := mem_keepDistinct_sameHost_iff.mp hDomain
      exact hHides.hidden domain (List.mem_of_find?_eq_some hFirst) hFirst
    · intro hHidden
      have hFirst := mem_keepDistinct_sameHost_iff.mp hKept
      exact
        { named := ⟨kept, List.mem_of_find?_eq_some hFirst, hSame⟩
          hidden := fun custom _ hCustom =>
            hHidden custom (mem_keepDistinct_sameHost_iff.mpr hCustom) }
  case isFalse hNew =>
    constructor
    · rintro ⟨⟨custom, hCustom, hName⟩, _⟩
      obtain ⟨kept, hKept, hSame⟩ := exists_same_mem_keepDistinct Domain.sameHost_refl hCustom
      refine absurd (List.any_eq_true.mpr ⟨kept, hKept, ?_⟩) hNew
      exact Domain.sameHost_trans kept custom _ hSame hName
    · intro hHidden
      have hPlatform : true = false :=
        hHidden (Domain.onPlatform name) (List.mem_append_right _ (List.mem_singleton_self _))
      cases hPlatform

end Site

/-- A main branch has a host for every domain, and any branch one for every domain that exposes
branches. -/
theorem branchHosts_eq_nil_iff {domains : List Domain} {branch : Branch} {site : Site}
    (hSome : domains ≠ []) :
    branchHosts domains branch site = [] ↔
      branch.id ≠ site.mainBranch ∧ ∀ domain ∈ domains, domain.exposesBranches = false := by
  rw [branchHosts, List.append_eq_nil_iff, List.map_eq_nil_iff, List.filter_eq_nil_iff,
    Site.isMainBranch]
  by_cases hMain : branch.id = site.mainBranch
  · simp [hMain, hSome]
  · simp [hMain]

/-- A warning that a branch is not reachable. -/
def Log.Event.warnsUnreachable (event : Log.Event) : Bool :=
  event.level == .warn && event.message == "Branch is not reachable on any host"

namespace Platform

variable {platform : Platform} {site : Site} {branch : Branch}

theorem hostsFor_eq_nil_iff :
    platform.hostsFor site branch = [] ↔
      branch.id ≠ site.mainBranch ∧
        site.HidesBranches (site.name ++ "." ++ platform.sitesDomain) := by
  rw [hostsFor, branchHosts_eq_nil_iff (platform.domainsFor_ne_nil site), Site.hidesBranches_iff]
  rfl

theorem branchEvents_warnings :
    (platform.branchEvents site branch).filter Log.Event.warnsUnreachable =
      if platform.hostsFor site branch = [] then [.unreachableBranch site.id branch.id]
      else [] := by
  rw [branchEvents]
  cases platform.hostsFor site branch with
  | nil => rfl
  | cons host rest => rfl

theorem routeFor_hosts? (platform : Platform) (site : Site) (branch : Branch) :
    (platform.routeFor site branch).hosts? = some (platform.hostsFor site branch) := rfl

/-- The one condition of the route of a branch is written with all of its hosts. -/
theorem routeFor_toJson (platform : Platform) (site : Site) (branch : Branch) : ∃ before after,
    (platform.routeFor site branch).toJson =
      .object (before ++ ("match", .array
        [.object [("host", .array ((platform.hostsFor site branch).map .string))]]) :: after) ∧
      Json.field? "match" after = none := by
  rw [routeFor, Route.toJson]
  refine ⟨[("@id", _), ("group", _)], [("handle", _), ("errors", _)], rfl, ?_⟩
  simp

/-- A compilation warns of the branches without hosts, in their order. -/
theorem compileSites_warnings {sites : List Site}
    (hFaults : ∀ owned ∈ ownedBranches sites, owned.1.fault? owned.2 = none) :
    ((compileSites sites).run platform.lookups).events.filter Log.Event.warnsUnreachable =
      ((ownedBranches sites).filter fun owned => platform.hostsFor owned.1 owned.2 = []).map
        fun owned => .unreachableBranch owned.1.id owned.2.id := by
  rw [platform.compileSites_events_filter hFaults (fun _ _ => rfl) (fun _ _ => rfl)]
  simp only [branchEvents_warnings]
  induction ownedBranches sites with
  | nil => rfl
  | cons owned rest ih =>
      rw [List.flatMap_cons, ih]
      by_cases hHosts : platform.hostsFor owned.1 owned.2 = [] <;> simp [hHosts]

end Platform

/-- On a platform a compiled branch is without hosts exactly when it is not the main branch and no
domain left of its site exposes branches. It is then warned about once, and never otherwise, and its
route is still written with a condition on hosts. A compilation of sites warns of the branches
without hosts and of no others. -/
theorem branches_without_hosts (platform : Platform) :
    (∀ (site : Site) (branch : Branch) (route : Route),
      (branchRoute site branch).resultWith platform.lookups = .ok route →
      ∃ name hosts, platform.mainDomain site = .ok name ∧ route.hosts? = some hosts ∧
        (hosts = [] ↔ branch.id ≠ site.mainBranch ∧ site.HidesBranches name) ∧
        ((branchRoute site branch).run platform.lookups).events.filter
            Log.Event.warnsUnreachable =
          (if hosts = [] then [.unreachableBranch site.id branch.id] else []) ∧
        route.toJson.get? "match" =
          some (.array [.object [("host", .array (hosts.map .string))]]) ∧
        (hosts = [] → ∃ before after, Json.render .compact route.toJson =
          before ++ "\"match\":[\x7b\"host\":[]\x7d]" ++ after)) ∧
    (∀ (sites : List Site) (routes : List Route),
      (compileSites sites).resultWith platform.lookups = .ok routes →
      ((compileSites sites).run platform.lookups).events.filter Log.Event.warnsUnreachable =
        (((ownedBranches sites).zip routes).filter fun compiled =>
          compiled.2.hosts? = some []).map fun compiled =>
            .unreachableBranch compiled.1.1.id compiled.1.2.id) := by
  constructor
  · intro site branch route hRoute
    obtain ⟨hFault, rfl⟩ := (platform.branchRoute_eq_ok_iff site branch).mp hRoute
    have hName : site.nameFault? = none := by
      rw [Site.fault?_eq, Option.or_eq_none_iff] at hFault
      exact hFault.1
    refine ⟨site.name ++ "." ++ platform.sitesDomain, platform.hostsFor site branch, ?_, rfl,
      platform.hostsFor_eq_nil_iff, ?_, ?_, ?_⟩
    · rw [Platform.mainDomain_eq, hName, settle_none]
    · rw [(platform.branchRoute_ends hFault).events_eq, Platform.branchEvents_warnings]
    · obtain ⟨before, after, hJson, hLast⟩ := platform.routeFor_toJson site branch
      rw [hJson]
      simp [Json.get?, hLast]
    · intro hHosts
      obtain ⟨before, after, hJson, _⟩ := platform.routeFor_toJson site branch
      rw [hJson, hHosts]
      obtain ⟨front, back, hText⟩ := Json.fieldText_infix .compact 0
        (List.mem_append_right before List.mem_cons_self)
      refine ⟨String.ofList front, String.ofList back, ?_⟩
      rw [Json.render, ← hText, String.ofList_append, String.ofList_append]
      rfl
  · intro sites routes hRoutes
    obtain ⟨hFaults, _⟩ := platform.compileSites_eq_ok_iff.mp hRoutes
    rw [Platform.compileSites_warnings hFaults, platform.ownedBranches_zip_routes hRoutes,
      List.filter_map, List.map_map]
    simp only [Function.comp_def, Platform.routeFor_hosts?, Option.some.injEq]

/-- A branch that only an entry without effect would expose. -/
def shadowedBranch : Branch :=
  { id := "b2", slug := "next" }

/-- A site that spells out its name on the platform. The entry that would expose branches comes
second. -/
def shadowingSite : Site :=
  { id := "s1", name := "blog", mainBranch := "b1"
    domains := [{ name := "Blog.sites.localhost" },
      { name := "blog.sites.localhost", exposesBranches := true }]
    branches := [{ id := "b1", slug := "prod" }, shadowedBranch] }

theorem shadowingSite_next_without_hosts :
    (∃ route,
      (branchRoute shadowingSite shadowedBranch).resultWith (Platform.lookups {}) = .ok route ∧
      route.hosts? = some [] ∧
      ((branchRoute shadowingSite shadowedBranch).run (Platform.lookups {})).events.filter
        Log.Event.warnsUnreachable = [.unreachableBranch "s1" "b2"]) ∧
    ∃ routes, (compileSites [shadowingSite]).resultWith (Platform.lookups {}) = .ok routes ∧
      ((compileSites [shadowingSite]).run (Platform.lookups {})).events.filter
        Log.Event.warnsUnreachable = [.unreachableBranch "s1" "b2"] := by
  obtain ⟨route, hRoute⟩ : ∃ route,
      (branchRoute shadowingSite shadowedBranch).resultWith (Platform.lookups {}) = .ok route :=
    ⟨_, rfl⟩
  obtain ⟨routes, hRoutes⟩ : ∃ routes,
      (compileSites [shadowingSite]).resultWith (Platform.lookups {}) = .ok routes := ⟨_, rfl⟩
  constructor
  · obtain ⟨name, hosts, hName, hHosts, hEmpty, hWarnings, _⟩ :=
      (branches_without_hosts {}).1 shadowingSite shadowedBranch route hRoute
    obtain rfl : "blog.sites.localhost" = name := Except.ok.inj hName
    have hNone : hosts = [] := hEmpty.mpr ⟨by decide, by decide, by decide⟩
    rw [hNone] at hHosts hWarnings
    exact ⟨route, hRoute, hHosts, hWarnings⟩
  · refine ⟨routes, hRoutes, ?_⟩
    rw [(branches_without_hosts {}).2 [shadowingSite] routes hRoutes]
    obtain rfl := Except.ok.inj hRoutes
    rfl

end TenantRoutes
