import TenantRoutes.Proofs.Compiler.PlatformRoutes

/-! What a compilation reports. Questions leave no trace in the log, so a run is described by the
events before its end and by the end itself, and both follow from those of its parts. Said here of
runs that succeed on a platform. -/
namespace TenantRoutes

namespace Plan

variable {α β ι : Type} {lookups : Lookups}

/-- What a run of a plan reports, and how it ends. -/
structure Ends (lookups : Lookups) (plan : Plan α) (events : List Log.Event)
    (result : Except CompileError α) : Prop where
  events_eq : (plan.run lookups).events = events
  result_eq : (plan.run lookups).result = result

theorem ends_done (value : α) : (done value).Ends lookups [] (.ok value) := ⟨rfl, rfl⟩

theorem ends_query {question : Query} {answer : question.Answer}
    (hAnswer : lookups.answer question = .ok answer) :
    (query question).Ends lookups [] (.ok answer) := by
  constructor
  · rw [query, run, hAnswer]
    rfl
  · rw [query, run, hAnswer]
    rfl

namespace Ends

variable {plan : Plan α} {next : α → Plan β} {events later : List Log.Event} {value : α}

theorem report {result : Except CompileError α} (event : Log.Event)
    (hPlan : plan.Ends lookups events result) :
    (report event plan).Ends lookups (event :: events) result :=
  ⟨congrArg (event :: ·) hPlan.events_eq, hPlan.result_eq⟩

/-- What follows a success reports after it. -/
theorem bind {result : Except CompileError β} (hPlan : plan.Ends lookups events (.ok value))
    (hNext : (next value).Ends lookups later result) :
    (plan.bind next).Ends lookups (events ++ later) result := by
  constructor
  · rw [run_bind, hPlan.result_eq]
    exact congrArg₂ _ hPlan.events_eq hNext.events_eq
  · rw [run_bind, hPlan.result_eq]
    exact hNext.result_eq

theorem mapM {f : ι → Plan β} {events : ι → List Log.Event} {value : ι → β} {items : List ι}
    (hItems : ∀ item ∈ items, (f item).Ends lookups (events item) (.ok (value item))) :
    (items.mapM f).Ends lookups (items.flatMap events) (.ok (items.map value)) := by
  induction items with
  | nil => exact ends_done []
  | cons item rest ih =>
      rw [List.forall_mem_cons] at hItems
      rw [List.mapM_cons, List.flatMap_cons, List.map_cons]
      refine hItems.1.bind ?_
      rw [← List.append_nil (rest.flatMap events)]
      exact (ih hItems.2).bind (ends_done _)

end Ends

end Plan

theorem isRepeated_ends (lookups : Lookups) (domain : Domain) (kept : List Domain) :
    (isRepeated domain kept).Ends lookups [] (.ok (kept.any (lookups.sameDomain · domain))) := by
  induction kept with
  | nil => exact Plan.ends_done false
  | cons seen rest ih =>
      rw [isRepeated, List.any_cons]
      have hAnswer : lookups.answer (.sameDomain seen domain) =
          .ok (lookups.sameDomain seen domain) := rfl
      refine (Plan.ends_query hAnswer).bind ?_
      cases lookups.sameDomain seen domain with
      | true => exact Plan.ends_done true
      | false => exact ih

theorem keepFirst_ends (lookups : Lookups) (kept domains : List Domain) :
    (keepFirst kept domains).Ends lookups []
      (.ok (keepDistinct lookups.sameDomain kept domains)) := by
  induction domains generalizing kept with
  | nil => exact Plan.ends_done kept
  | cons domain rest ih =>
      rw [keepFirst, keepDistinct]
      refine (isRepeated_ends lookups domain kept).bind ?_
      cases kept.any (lookups.sameDomain · domain) with
      | true => exact ih kept
      | false => exact ih (kept ++ [domain])

namespace Platform

variable (platform : Platform) {site : Site} {branch : Branch}

theorem resolveDomains_ends (hName : site.nameFault? = none) :
    site.resolveDomains.Ends platform.lookups
      [.resolvedDomains site.id (platform.domainsFor site).length]
      (.ok (platform.domainsFor site)) := by
  have hAnswer : platform.lookups.answer (.mainDomain site) =
      .ok (site.name ++ "." ++ platform.sitesDomain) := by
    change platform.mainDomain site = _
    rw [mainDomain_eq, hName]
    rfl
  refine (Plan.ends_query hAnswer).bind ?_
  refine (keepFirst_ends platform.lookups [] _).bind ?_
  exact (Plan.ends_done _).report _

theorem authRoutes_ends {password? : Option Password} (hFault : passwordFault? password? = none) :
    (authRoutes password?).Ends platform.lookups [] (.ok (platform.authRoutesFor password?)) := by
  cases password? with
  | none => exact Plan.ends_done []
  | some password =>
      have hAnswer : platform.lookups.answer (.authHandler password) =
          .ok (platform.challenge password) := by
        change platform.authHandler password = _
        rw [authHandler_eq, hFault]
        rfl
      exact (Plan.ends_query hAnswer).bind (Plan.ends_done _)

theorem redirects_ends {redirects : List Redirect}
    (hFaults : ∀ redirect ∈ redirects, redirectFault? site branch redirect = none) :
    (redirects.mapM fun redirect =>
      Plan.query (.redirectRoute site branch redirect)).Ends platform.lookups []
      (.ok (redirects.map (platform.redirectRouteFor site branch))) := by
  have hSilent : redirects.flatMap (fun _ => ([] : List Log.Event)) = [] := by simp
  rw [← hSilent]
  refine Plan.Ends.mapM fun redirect hRedirect => Plan.ends_query ?_
  change platform.redirectRoute site branch redirect = _
  rw [redirectRoute_eq, hFaults redirect hRedirect, settle_none]

theorem contentRoute_ends (hFault : site.rootFault? branch = none) :
    (contentRoute site branch).Ends platform.lookups
      [.builtContentRoute site.id branch.id site.singlePage
        (platform.contentRouteFor site branch).handlers.length]
      (.ok (platform.contentRouteFor site branch)) := by
  have hAnswer : platform.lookups.answer (.contentRoot site.id branch.id) =
      .ok (platform.directory site branch) := by
    change platform.contentRoot site.id branch.id = _
    rw [contentRoot_eq, hFault, settle_none]
  refine (Plan.ends_query hAnswer).bind ?_
  exact (Plan.ends_done _).report _

theorem notFoundRoute_ends (hFault : site.rootFault? branch = none) :
    (Plan.query (.notFoundRoute site branch)).Ends platform.lookups []
      (.ok (platform.notFoundRouteFor site branch)) := by
  refine Plan.ends_query ?_
  change platform.notFoundRoute site branch = _
  rw [notFoundRoute_eq, hFault, settle_none]

theorem warnUnreachable_ends (lookups : Lookups) (site : Site) (branch : Branch)
    (hosts : List String) :
    (warnUnreachable site branch hosts).Ends lookups
      (if hosts.isEmpty then [.unreachableBranch site.id branch.id] else []) (.ok ()) := by
  unfold warnUnreachable
  cases hosts.isEmpty with
  | true => exact (Plan.ends_done ()).report _
  | false => exact Plan.ends_done ()

/-- The hosts of a branch on the platform. -/
def hostsFor (platform : Platform) (site : Site) (branch : Branch) : List String :=
  branchHosts (platform.domainsFor site) branch site

/-- What is reported for a branch that compiles. -/
def branchEvents (platform : Platform) (site : Site) (branch : Branch) : List Log.Event :=
  [.resolvedDomains site.id (platform.domainsFor site).length,
    .builtContentRoute site.id branch.id site.singlePage
      (platform.contentRouteFor site branch).handlers.length,
    .compiledBranch site.id branch.id (platform.hostsFor site branch).length
      (platform.innerRoutesFor site branch).length]
    ++ if (platform.hostsFor site branch).isEmpty then [.unreachableBranch site.id branch.id]
      else []

theorem branchRoute_ends (hFault : site.fault? branch = none) :
    (branchRoute site branch).Ends platform.lookups (platform.branchEvents site branch)
      (.ok (platform.routeFor site branch)) := by
  obtain ⟨hName, hPassword, hRoot⟩ := Site.fault?_eq_none_iff.mp hFault
  refine (platform.resolveDomains_ends hName).bind ?_
  refine (platform.authRoutes_ends hPassword).bind ?_
  have hRedirects : ∀ redirect ∈ branch.redirects, redirectFault? site branch redirect = none := by
    intro redirect _
    rcases redirectFault?_cases site branch redirect with hNone | hSame
    · exact hNone
    · rw [hSame, hRoot]
  refine (platform.redirects_ends hRedirects).bind ?_
  refine (platform.contentRoute_ends hRoot).bind ?_
  refine (platform.notFoundRoute_ends hRoot).bind ?_
  refine Plan.Ends.report _ ?_
  rw [← List.append_nil (if (platform.hostsFor site branch).isEmpty then _ else _)]
  refine (warnUnreachable_ends platform.lookups site branch _).bind ?_
  exact (Plan.ends_query rfl).bind (Plan.ends_done _)

/-- What is reported for a site: its branches one after the other, and then the site. -/
def siteEvents (platform : Platform) (site : Site) : List Log.Event :=
  site.branches.flatMap (platform.branchEvents site)
    ++ [.compiledSite site.id site.branches.length]

theorem siteRoutes_ends (hFaults : ∀ branch ∈ site.branches, site.fault? branch = none) :
    (siteRoutes site).Ends platform.lookups (platform.siteEvents site)
      (.ok (site.branches.map (platform.routeFor site))) := by
  rw [siteEvents, ← List.length_map (platform.routeFor site)]
  refine (Plan.Ends.mapM fun branch hBranch =>
    platform.branchRoute_ends (hFaults branch hBranch)).bind ?_
  exact (Plan.ends_done _).report _

/-- A compilation that succeeds reports every branch and every site, and at the end itself. -/
theorem compileSites_ends {sites : List Site}
    (hFaults : ∀ owned ∈ ownedBranches sites, owned.1.fault? owned.2 = none) :
    (compileSites sites).Ends platform.lookups
      (sites.flatMap platform.siteEvents
        ++ [.compiledSites sites.length (ownedBranches sites).length])
      (.ok ((ownedBranches sites).map fun owned => platform.routeFor owned.1 owned.2)) := by
  rw [← List.length_map fun owned : Site × Branch => platform.routeFor owned.1 owned.2,
    map_ownedBranches]
  refine (Plan.Ends.mapM fun site hSite => platform.siteRoutes_ends fun branch hBranch =>
    hFaults (site, branch) (mem_ownedBranches.mpr ⟨hSite, hBranch⟩)).bind ?_
  exact (Plan.ends_done _).report _

/-- What a successful compilation reports on its branches, seen apart from its reports on sites. -/
theorem compileSites_events_filter {sites : List Site} {chosen : Log.Event → Bool}
    (hFaults : ∀ owned ∈ ownedBranches sites, owned.1.fault? owned.2 = none)
    (hSite : ∀ site routes, chosen (.compiledSite site routes) = false)
    (hSites : ∀ sites routes, chosen (.compiledSites sites routes) = false) :
    ((compileSites sites).run platform.lookups).events.filter chosen =
      (ownedBranches sites).flatMap fun owned =>
        (platform.branchEvents owned.1 owned.2).filter chosen := by
  have hSiteEvents (site : Site) : (platform.siteEvents site).filter chosen =
      site.branches.flatMap fun branch => (platform.branchEvents site branch).filter chosen := by
    rw [siteEvents, List.filter_append, List.filter_flatMap,
      List.filter_cons_of_neg (by simp [hSite]), List.filter_nil, List.append_nil]
  rw [(platform.compileSites_ends hFaults).events_eq, List.filter_append, List.filter_flatMap,
    List.filter_cons_of_neg (by simp [hSites]), List.filter_nil, List.append_nil, ownedBranches,
    List.flatMap_assoc]
  simp only [hSiteEvents, List.flatMap_map]

end Platform

end TenantRoutes
