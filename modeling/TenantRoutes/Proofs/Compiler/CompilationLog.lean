import Mathlib.Algebra.GroupWithZero.Nat
import TenantRoutes.Proofs.Compiler.EventLog
import TenantRoutes.Proofs.Compiler.FirstFault

/-! The log as an account of a compilation, also of one that fails. The log of a compilation is put
together from the logs of its branches. A failure ends it: what was reported before stays, and the
branch that fails adds at most the report on the domains of its site. What is said here of events is
also said of what a line shows of them. -/
namespace TenantRoutes

namespace Log

/-- What a line of the log shows of an event: how severe it is, where it belongs, how it is worded
and its data by name. -/
structure Entry where
  level : Level
  target : String
  message : String
  fields : List (String × Value)

def Event.entry (event : Event) : Entry :=
  { level := event.level, target := event.target, message := event.message, fields := event.fields }

namespace Entry

/-! What is shown of the steps of a compilation. Only a branch without hosts calls for a warning. -/

def ofDomains (site : Site) (domains : List Domain) : Entry :=
  { level := .debug, target := "site_routes::routing::domains"
    message := "Resolved site domains"
    fields := [("site", .text site.id), ("domains", .count domains.length)] }

def ofContent (site : Site) (branch : Branch) (content : Route) : Entry :=
  { level := .debug, target := "site_routes::routing::content"
    message := "Built content route"
    fields :=
      [("site", .text site.id), ("branch", .text branch.id), ("spa", .flag site.singlePage),
        ("handlers", .count content.handlers.length)] }

def ofBranch (site : Site) (branch : Branch) (hosts : List String) (subroutes : List Route) :
    Entry :=
  { level := .debug, target := "site_routes::routing::branch"
    message := "Compiled branch route"
    fields :=
      [("site", .text site.id), ("branch", .text branch.id), ("hosts", .count hosts.length),
        ("subroutes", .count subroutes.length)] }

def ofUnreachable (site : Site) (branch : Branch) : Entry :=
  { level := .warn, target := "site_routes::routing::branch"
    message := "Branch is not reachable on any host"
    fields := [("site", .text site.id), ("branch", .text branch.id)] }

def ofSite (site : Site) : Entry :=
  { level := .debug, target := "site_routes::routing::sites"
    message := "Compiled site"
    fields := [("site", .text site.id), ("routes", .count site.branches.length)] }

def ofSites (sites : List Site) (routes : List Route) : Entry :=
  { level := .debug, target := "site_routes::routing::sites"
    message := "Compiled site routes"
    fields := [("sites", .count sites.length), ("routes", .count routes.length)] }

end Entry

end Log

namespace Plan

variable {α β ι : Type} {lookups : Lookups}

theorem ends_query_error {question : Query} {error : CompileError}
    (hAnswer : lookups.answer question = .error error) :
    (query question).Ends lookups [] (.error error) := by
  constructor
  · rw [query, run, hAnswer]
  · rw [query, run, hAnswer]

namespace Ends

/-- Nothing follows a failure. -/
theorem bind_error {plan : Plan α} {next : α → Plan β} {events : List Log.Event}
    {error : CompileError} (hPlan : plan.Ends lookups events (.error error)) :
    (plan.bind next).Ends lookups events (.error error) := by
  constructor
  · rw [run_bind, hPlan.result_eq]
    exact hPlan.events_eq
  · rw [run_bind, hPlan.result_eq]

/-- A list of plans ends with the first one that fails. -/
theorem mapM_error {f : ι → Plan β} {before after : List ι} {item : ι} {values : List β}
    {events last : List Log.Event} {error : CompileError}
    (hBefore : (before.mapM f).Ends lookups events (.ok values))
    (hItem : (f item).Ends lookups last (.error error)) :
    ((before ++ item :: after).mapM f).Ends lookups (events ++ last) (.error error) := by
  rw [List.mapM_append, List.mapM_cons]
  exact hBefore.bind hItem.bind_error.bind_error

end Ends

end Plan

namespace Platform

variable (platform : Platform) {site : Site} {branch : Branch} {error : CompileError}

theorem resolveDomains_ends_error (hName : site.nameFault? = some error) :
    site.resolveDomains.Ends platform.lookups [] (.error error) := by
  have hAnswer : platform.lookups.answer (.mainDomain site) = .error error := by
    change platform.mainDomain site = _
    rw [mainDomain_eq, hName, settle_some]
  exact (Plan.ends_query_error hAnswer).bind_error

theorem authRoutes_ends_error {password? : Option Password}
    (hFault : passwordFault? password? = some error) :
    (authRoutes password?).Ends platform.lookups [] (.error error) := by
  cases password? with
  | none => simp [passwordFault?] at hFault
  | some password =>
      have hAnswer : platform.lookups.answer (.authHandler password) = .error error := by
        change platform.authHandler password = _
        rw [authHandler_eq, hFault, settle_some]
      exact (Plan.ends_query_error hAnswer).bind_error

theorem contentRoute_ends_error (hRoot : site.rootFault? branch = some error) :
    (contentRoute site branch).Ends platform.lookups [] (.error error) := by
  have hAnswer : platform.lookups.answer (.contentRoot site.id branch.id) = .error error := by
    change platform.contentRoot site.id branch.id = _
    rw [contentRoot_eq, hRoot, settle_some]
  exact (Plan.ends_query_error hAnswer).bind_error

/-- The directory of a branch is needed by its first redirect to a file, and by its content if there
is none. Neither reports anything before. -/
theorem redirects_content_ends_error {next : List Route → Route → Plan Route}
    (hRoot : site.rootFault? branch = some error) :
    ((branch.redirects.mapM fun redirect =>
      Plan.query (.redirectRoute site branch redirect)).bind fun redirects =>
        (contentRoute site branch).bind (next redirects)).Ends platform.lookups []
      (.error error) := by
  cases hFound : branch.redirects.findSome? (redirectFault? site branch) with
  | none =>
      refine (platform.redirects_ends (List.findSome?_eq_none_iff.mp hFound)).bind ?_
      exact (platform.contentRoute_ends_error hRoot).bind_error
  | some fault =>
      obtain ⟨before, redirect, after, hSplit, hFault, hBefore⟩ :=
        List.findSome?_eq_some_iff.mp hFound
      have hError : fault = error := by
        rcases redirectFault?_cases site branch redirect with hNone | hSame
        · rw [hNone] at hFault
          cases hFault
        · rw [hSame, hRoot] at hFault
          exact (Option.some.inj hFault).symm
      have hAnswer : platform.lookups.answer (.redirectRoute site branch redirect) =
          .error error := by
        change platform.redirectRoute site branch redirect = _
        rw [redirectRoute_eq, hFault, hError, settle_some]
      rw [hSplit]
      exact ((platform.redirects_ends hBefore).mapM_error
        (Plan.ends_query_error hAnswer)).bind_error

/-- A branch without faults before its directory reports the domains of its site and no more. -/
theorem branchRoute_ends_error (hName : site.nameFault? = none)
    (hFault : site.fault? branch = some error) :
    (branchRoute site branch).Ends platform.lookups
      [.resolvedDomains site.id (platform.domainsFor site).length] (.error error) := by
  rw [Site.fault?_eq, hName, Option.none_or] at hFault
  refine (platform.resolveDomains_ends hName).bind ?_
  cases hPassword : passwordFault? (site.effectivePassword branch) with
  | some fault =>
      rw [hPassword, Option.some_or] at hFault
      obtain rfl := Option.some.inj hFault
      exact (platform.authRoutes_ends_error hPassword).bind_error
  | none =>
      rw [hPassword, Option.none_or] at hFault
      refine (platform.authRoutes_ends hPassword).bind ?_
      exact platform.redirects_content_ends_error hFault

theorem siteRoutes_ends_error {before after : List Branch} {last : List Log.Event}
    (hSplit : site.branches = before ++ branch :: after)
    (hBefore : ∀ earlier ∈ before, site.fault? earlier = none)
    (hBranch : (branchRoute site branch).Ends platform.lookups last (.error error)) :
    (siteRoutes site).Ends platform.lookups (before.flatMap (platform.branchEvents site) ++ last)
      (.error error) := by
  rw [siteRoutes, hSplit]
  have hRoutes := Plan.Ends.mapM fun earlier hEarlier =>
    platform.branchRoute_ends (hBefore earlier hEarlier)
  exact (hRoutes.mapM_error hBranch).bind_error

theorem compileSites_ends_error {ahead : List Site} (behind : List Site) {last : List Log.Event}
    (hAhead : ∀ earlier ∈ ahead, ∀ branch ∈ earlier.branches, earlier.fault? branch = none)
    (hSite : (siteRoutes site).Ends platform.lookups last (.error error)) :
    (compileSites (ahead ++ site :: behind)).Ends platform.lookups
      (ahead.flatMap platform.siteEvents ++ last) (.error error) := by
  have hRoutes := Plan.Ends.mapM fun earlier hEarlier =>
    platform.siteRoutes_ends (hAhead earlier hEarlier)
  exact (hRoutes.mapM_error hSite).bind_error

/-- What is reported when a branch is compiled by itself. -/
def branchLog (platform : Platform) (site : Site) (branch : Branch) : List Log.Event :=
  ((branchRoute site branch).run platform.lookups).events

/-- The logs of the branches of a site, and after them the report on the site. -/
def siteLog (platform : Platform) (site : Site) : List Log.Event :=
  site.branches.flatMap (platform.branchLog site)
    ++ [.compiledSite site.id site.branches.length]

/-- The log of a branch that is compiled to `route`, whose last inner route serves the content. -/
def IsFullLog (platform : Platform) (site : Site) (branch : Branch) (route : Route)
    (log : List Log.Event) : Prop :=
  ∃ domains content hosts subroutes,
    site.resolveDomains.resultWith platform.lookups = .ok domains ∧
    (contentRoute site branch).resultWith platform.lookups = .ok content ∧
    route.hosts? = some hosts ∧
    route.subroutes? = some subroutes ∧
    subroutes.getLast? = some content ∧
    log =
      [.resolvedDomains site.id domains.length,
        .builtContentRoute site.id branch.id site.singlePage content.handlers.length,
        .compiledBranch site.id branch.id hosts.length subroutes.length]
        ++ (if hosts = [] then [.unreachableBranch site.id branch.id] else []) ∧
    log.map Log.Event.entry =
      [.ofDomains site domains, .ofContent site branch content,
        .ofBranch site branch hosts subroutes]
        ++ if hosts = [] then [.ofUnreachable site branch] else []

/-- The log of a branch that fails: there are no domains to be reported without a name. -/
def IsCutLog (platform : Platform) (site : Site) (error : CompileError) (log : List Log.Event) :
    Prop :=
  match error with
  | .missingSiteName _ => log = []
  | .invalidPathSegment _ | .emptyPassword => ∃ domains,
    site.resolveDomains.resultWith platform.lookups = .ok domains ∧
    log = [.resolvedDomains site.id domains.length] ∧
    log.map Log.Event.entry = [.ofDomains site domains]

theorem branchLog_eq (hFault : site.fault? branch = none) :
    platform.branchLog site branch = platform.branchEvents site branch :=
  (platform.branchRoute_ends hFault).events_eq

theorem siteLog_eq (hFaults : ∀ branch ∈ site.branches, site.fault? branch = none) :
    platform.siteLog site = platform.siteEvents site := by
  rw [siteLog, siteEvents, List.flatMap_congr fun branch hBranch =>
    platform.branchLog_eq (hFaults branch hBranch)]

theorem branchEvents_isFullLog (hFault : site.fault? branch = none) :
    platform.IsFullLog site branch (platform.routeFor site branch)
      (platform.branchEvents site branch) := by
  obtain ⟨hName, _, hRoot⟩ := Site.fault?_eq_none_iff.mp hFault
  refine ⟨platform.domainsFor site, platform.contentRouteFor site branch,
    platform.hostsFor site branch, platform.innerRoutesFor site branch, ?_, ?_, rfl, rfl, ?_, ?_,
    ?_⟩
  · rw [resolveDomains_resultWith, hName, settle_none]
  · rw [contentRoute_resultWith, hRoot, settle_none]
  · rw [innerRoutesFor, List.getLast?_concat]
  · simp only [branchEvents, List.isEmpty_iff]
  · rw [branchEvents]
    cases platform.hostsFor site branch <;> rfl

theorem branchLog_isCutLog (hFault : site.fault? branch = some error) :
    platform.IsCutLog site error (platform.branchLog site branch) := by
  by_cases hName : site.name = ""
  · have hNameFault : site.nameFault? = some (.missingSiteName site.id) := if_pos hName
    obtain rfl : .missingSiteName site.id = error := by
      rw [Site.fault?_eq, hNameFault, Option.some_or] at hFault
      exact Option.some.inj hFault
    exact (platform.resolveDomains_ends_error hNameFault).bind_error.events_eq
  · have hNone : site.nameFault? = none := if_neg hName
    have hDomains : site.resolveDomains.resultWith platform.lookups =
        .ok (platform.domainsFor site) := by
      rw [resolveDomains_resultWith, hNone, settle_none]
    have hLog : platform.branchLog site branch =
        [.resolvedDomains site.id (platform.domainsFor site).length] :=
      (platform.branchRoute_ends_error hNone hFault).events_eq
    -- As the name is there, the first fault is not that it is missing.
    cases error with
    | missingSiteName id =>
        unfold Site.fault? at hFault
        split_ifs at hFault <;> cases hFault
    | invalidPathSegment _ | emptyPassword => exact ⟨_, hDomains, hLog, hLog ▸ rfl⟩

end Platform

/-- A report that a branch has been compiled. -/
def Log.Event.compilesBranch (event : Log.Event) : Bool :=
  event.message == "Compiled branch route"

namespace Platform

variable (platform : Platform) {sites : List Site} {error : CompileError}

theorem compileSites_events_compilesBranch
    (hFaults : ∀ owned ∈ ownedBranches sites, owned.1.fault? owned.2 = none) :
    ((compileSites sites).run platform.lookups).events.filter Log.Event.compilesBranch =
      (ownedBranches sites).map fun owned => .compiledBranch owned.1.id owned.2.id
        (platform.hostsFor owned.1 owned.2).length
        (platform.innerRoutesFor owned.1 owned.2).length := by
  have hBranch (site : Site) (branch : Branch) :
      (platform.branchEvents site branch).filter Log.Event.compilesBranch =
        [.compiledBranch site.id branch.id (platform.hostsFor site branch).length
          (platform.innerRoutesFor site branch).length] := by
    rw [branchEvents]
    cases platform.hostsFor site branch with
    | nil => rfl
    | cons host rest => rfl
  rw [platform.compileSites_events_filter hFaults (fun _ _ => rfl) (fun _ _ => rfl)]
  simp only [hBranch, List.map_eq_flatMap]

theorem compileSites_log_ok {routes : List Route}
    (hRoutes : (compileSites sites).resultWith platform.lookups = .ok routes) :
    ((compileSites sites).run platform.lookups).events =
      sites.flatMap platform.siteLog ++ [.compiledSites sites.length routes.length] := by
  obtain ⟨hFaults, rfl⟩ := (platform.compileSites_eq_ok_iff).mp hRoutes
  rw [(platform.compileSites_ends hFaults).events_eq, List.length_map,
    List.flatMap_congr fun site hSite => platform.siteLog_eq fun branch hBranch =>
      hFaults (site, branch) (mem_ownedBranches.mpr ⟨hSite, hBranch⟩)]

theorem compileSites_log_error
    (hError : (compileSites sites).resultWith platform.lookups = .error error) :
    ∃ ahead site behind before branch after,
      sites = ahead ++ site :: behind ∧ site.branches = before ++ branch :: after ∧
      (∀ earlier ∈ ahead, ∀ branch ∈ earlier.branches, earlier.fault? branch = none) ∧
      (∀ earlier ∈ before, site.fault? earlier = none) ∧ site.fault? branch = some error ∧
      ((compileSites sites).run platform.lookups).events =
        ahead.flatMap platform.siteLog ++ before.flatMap (platform.branchLog site) ++
          platform.branchLog site branch := by
  rw [compileSites_eq_error_iff, findSome?_ownedBranches] at hError
  obtain ⟨ahead, site, behind, rfl, hSite, hAhead⟩ := List.findSome?_eq_some_iff.mp hError
  obtain ⟨before, branch, after, hSplit, hFault, hBefore⟩ := List.findSome?_eq_some_iff.mp hSite
  simp only [List.findSome?_eq_none_iff] at hAhead
  refine ⟨ahead, site, behind, before, branch, after, rfl, hSplit, hAhead, hBefore, hFault, ?_⟩
  have hBranch : (branchRoute site branch).Ends platform.lookups (platform.branchLog site branch)
      (.error error) :=
    ⟨rfl, by rw [← settle_some]; exact hFault ▸ platform.branchRoute_resultWith site branch⟩
  have hEnds := platform.compileSites_ends_error behind hAhead
    (platform.siteRoutes_ends_error hSplit hBefore hBranch)
  rw [hEnds.events_eq, List.append_assoc,
    List.flatMap_congr fun earlier hEarlier => platform.siteLog_eq (hAhead earlier hEarlier),
    List.flatMap_congr fun earlier hEarlier => platform.branchLog_eq (hBefore earlier hEarlier)]

/-- The log of a compilation is that of its branches, one after the other, with a report on each
site after its branches and one on all sites at the end. So its counts are those of the returned
routes, and are shown by the names of what they count. Where the compilation fails, the log is that
of the sites and branches before the one that fails, followed by what this one reports by itself. -/
theorem compileSites_log (platform : Platform) :
    (∀ site branch route, (branchRoute site branch).resultWith platform.lookups = .ok route →
      platform.IsFullLog site branch route (platform.branchLog site branch)) ∧
    (∀ site branch error, (branchRoute site branch).resultWith platform.lookups = .error error →
      platform.IsCutLog site error (platform.branchLog site branch)) ∧
    (∀ site, (platform.siteLog site).getLast?.map Log.Event.entry = some (.ofSite site)) ∧
    (∀ sites routes, (compileSites sites).resultWith platform.lookups = .ok routes →
      ((compileSites sites).run platform.lookups).events =
        sites.flatMap platform.siteLog ++ [.compiledSites sites.length routes.length] ∧
      ((compileSites sites).run platform.lookups).events.getLast?.map Log.Event.entry =
        some (.ofSites sites routes) ∧
      (sites.map (·.branches.length)).sum = routes.length ∧
      List.Forall₂ (fun owned route =>
          (branchRoute owned.1 owned.2).resultWith platform.lookups = .ok route)
        (ownedBranches sites) routes ∧
      List.Forall₂ (fun event route => ∃ site branch hosts subroutes,
          event = .compiledBranch site branch hosts.length subroutes.length ∧
          route.hosts? = some hosts ∧ route.subroutes? = some subroutes)
        (((compileSites sites).run platform.lookups).events.filter Log.Event.compilesBranch)
        routes) ∧
    ∀ sites error, (compileSites sites).resultWith platform.lookups = .error error →
      ∃ ahead site behind before branch after,
        sites = ahead ++ site :: behind ∧ site.branches = before ++ branch :: after ∧
        (∀ earlier ∈ ahead, ∃ routes,
          (siteRoutes earlier).resultWith platform.lookups = .ok routes) ∧
        (∀ earlier ∈ before, ∃ route,
          (branchRoute site earlier).resultWith platform.lookups = .ok route) ∧
        (branchRoute site branch).resultWith platform.lookups = .error error ∧
        ((compileSites sites).run platform.lookups).events =
          ahead.flatMap platform.siteLog ++ before.flatMap (platform.branchLog site) ++
            platform.branchLog site branch := by
  refine ⟨?_, ?_, ?_, ?_, ?_⟩
  · intro site branch route hRoute
    obtain ⟨hFault, rfl⟩ := (platform.branchRoute_eq_ok_iff site branch).mp hRoute
    rw [platform.branchLog_eq hFault]
    exact platform.branchEvents_isFullLog hFault
  · intro site branch error hError
    rw [branchRoute_resultWith, settle_eq_error_iff] at hError
    exact platform.branchLog_isCutLog hError
  · intro site
    rw [siteLog, List.getLast?_concat]
    rfl
  · intro sites routes hRoutes
    have hEach := compileSites_forall₂ hRoutes
    have hEvents := platform.compileSites_log_ok hRoutes
    obtain ⟨hFaults, rfl⟩ := (platform.compileSites_eq_ok_iff).mp hRoutes
    refine ⟨hEvents, ?_, ?_, hEach, ?_⟩
    · rw [hEvents, List.getLast?_concat]
      rfl
    · simp [ownedBranches, List.length_flatMap]
    · rw [platform.compileSites_events_compilesBranch hFaults, List.forall₂_map_left_iff,
        List.forall₂_map_right_iff, List.forall₂_same]
      exact fun owned _ => ⟨_, _, _, _, rfl, rfl, rfl⟩
  · intro sites error hError
    obtain ⟨ahead, site, behind, before, branch, after, hSites, hSplit, hAhead, hBefore, hFault,
      hEvents⟩ := platform.compileSites_log_error hError
    refine ⟨ahead, site, behind, before, branch, after, hSites, hSplit, ?_, ?_, ?_, hEvents⟩
    · intro earlier hEarlier
      exact ⟨_, (platform.siteRoutes_ends (hAhead earlier hEarlier)).result_eq⟩
    · intro earlier hEarlier
      exact ⟨_, (platform.branchRoute_ends (hBefore earlier hEarlier)).result_eq⟩
    · rw [branchRoute_resultWith, hFault, settle_some]

end Platform

end TenantRoutes
