import TenantRoutes.Proofs.Compiler.PlatformTrees

/-! The shape of the route of a branch, whoever answers the questions of the compiler. Of a route
that an answer gives nothing is known, so only the answers of a platform are known to hold no
identifier, group or error routes that could compete with those of the branch. -/
namespace TenantRoutes

/-- The routes that ask for a password: none without a password, and otherwise one that consists of
the handler for it. -/
def AreAuthRoutes (lookups : Lookups) (password? : Option Password) (routes : List Route) : Prop :=
  match password? with
  | none => routes = []
  | some password =>
    ∃ handler, lookups.authHandler password = .ok handler ∧ routes = [{ handlers := [handler] }]

/-- The route of the content below a root. A site with a single page also has the file looked for
below that root. -/
def IsContentBelow (site : Site) (branch : Branch) (root : String) (route : Route) : Prop :=
  if site.singlePage then
    route =
      { matchers :=
          [{ file := some { root, tryFiles := ["\x7bhttp.request.uri.path\x7d", "/index.html"] } }]
        handlers :=
          [.rewrite "\x7bhttp.matchers.file.relative\x7d", .headers (branchHeaders site branch),
            .encode true, .fileServer root] }
  else
    route =
      { handlers := [.headers (branchHeaders site branch), .encode true, .fileServer root] }

/-- The error route for a refused password. It answers with the status of the error itself and with
a fixed text. -/
def IsUnauthenticatedResponder (route : Route) : Prop :=
  route =
    { matchers := [{ expression := some "\x7bhttp.error.status_code\x7d == 401" }]
      handlers :=
        [.staticResponse (some (.placeholder "\x7bhttp.error.status_code\x7d")) HeaderMap.empty
          (some "not authenticated")] }

/-- The error route for a path without a file. It serves a page from below a root. -/
def IsNotFoundResponder (page root : String) (route : Route) : Prop :=
  route =
    { matchers := [{ expression := some "\x7bhttp.error.status_code\x7d == 404" }]
      handlers := [.rewrite page, .fileServer root] }

/-- What the route of a branch is composed of. -/
structure Route.IsCompiledFrom (route : Route) (lookups : Lookups) (site : Site) (branch : Branch) :
    Prop where
  id : ∃ id, lookups.routeId site branch = .ok id ∧ route.id = some id
  group : route.group = some site.id
  /-- The one condition is on hosts, also where there are none. -/
  hosts : ∃ domains, site.resolveDomains.resultWith lookups = .ok domains ∧
    route.matchers = [{ host := some (branchHosts domains branch site) }]
  /-- Password, redirects and content, in this order. -/
  inner : ∃ auth redirects root content,
    AreAuthRoutes lookups (site.effectivePassword branch) auth ∧
    List.Forall₂ (fun redirect answer => lookups.redirectRoute site branch redirect = .ok answer)
      branch.redirects redirects ∧
    lookups.contentRoot site.id branch.id = .ok root ∧
    IsContentBelow site branch root content ∧
    route.handlers = [.subroute (auth ++ redirects ++ [content])]
  errors : ∃ unauthenticated notFound,
    IsUnauthenticatedResponder unauthenticated ∧
    lookups.notFoundRoute site branch = .ok notFound ∧
    route.errors = some [unauthenticated, notFound]

variable {lookups : Lookups} {site : Site} {branch : Branch}

theorem authRoutes_eq_ok_iff {password? : Option Password} {routes : List Route} :
    (authRoutes password?).resultWith lookups = .ok routes ↔
      AreAuthRoutes lookups password? routes := by
  cases password? with
  | none => simp [authRoutes, AreAuthRoutes, eq_comm]
  | some password =>
      simp only [authRoutes, AreAuthRoutes, Plan.query, Plan.bind_eq, Plan.ask_bind, Plan.done_bind,
        Plan.pure_eq_done, Plan.resultWith_ask, Plan.resultWith_done, Lookups.answer,
        bind_eq_ok_iff, Except.ok.injEq]
      exact exists_congr fun handler => and_congr_right fun _ => eq_comm

theorem redirectRoutes_eq_ok_iff {routes : List Route} :
    (branch.redirects.mapM fun redirect =>
      Plan.query (.redirectRoute site branch redirect)).resultWith lookups = .ok routes ↔
      List.Forall₂ (fun redirect answer => lookups.redirectRoute site branch redirect = .ok answer)
        branch.redirects routes := by
  have hAnswer (redirect : Redirect) :
      (Plan.query (.redirectRoute site branch redirect)).resultWith lookups =
        lookups.redirectRoute site branch redirect := by
    rw [Plan.query, Plan.resultWith_ask]
    exact bind_pure _
  simp only [Plan.resultWith_mapM, mapM_eq_ok_iff_forall₂, hAnswer]

theorem isContentBelow_iff {root : String} {route : Route} :
    IsContentBelow site branch root route ↔
      route =
        { matchers := if site.singlePage then [MatcherSet.onFile root] else []
          handlers := contentHandlers site branch root } := by
  unfold IsContentBelow contentHandlers
  cases site.singlePage <;> rfl

theorem contentRoute_eq_ok_iff {route : Route} :
    (contentRoute site branch).resultWith lookups = .ok route ↔
      ∃ root, lookups.contentRoot site.id branch.id = .ok root ∧
        IsContentBelow site branch root route := by
  simp only [contentRoute, Plan.query, Plan.emit, Plan.bind_eq, Plan.ask_bind, Plan.done_bind,
    Plan.report_bind, Plan.pure_eq_done, Plan.resultWith_ask, Plan.resultWith_report,
    Plan.resultWith_done, Lookups.answer, bind_eq_ok_iff, Except.ok.injEq, isContentBelow_iff]
  exact exists_congr fun root => and_congr_right fun _ => eq_comm

theorem unauthenticatedRoute_isResponder : IsUnauthenticatedResponder unauthenticatedRoute := rfl

/-- The compiler returns a route exactly when every question that the route is composed from is
answered. -/
theorem branchRoute_eq_ok_iff_isCompiledFrom {route : Route} :
    (branchRoute site branch).resultWith lookups = .ok route ↔
      route.IsCompiledFrom lookups site branch := by
  simp only [branchRoute, Plan.bind_eq, Plan.resultWith_bind, bind_eq_ok_iff,
    authRoutes_eq_ok_iff, redirectRoutes_eq_ok_iff, contentRoute_eq_ok_iff]
  simp only [Plan.query, Plan.emit, Plan.resultWith_ask, Plan.resultWith_report,
    Plan.resultWith_done, Plan.pure_eq_done, Platform.warnUnreachable_resultWith, Lookups.answer,
    bind_eq_ok_iff, Except.ok.injEq, exists_eq_right, true_and, exists_const]
  constructor
  · rintro ⟨domains, hDomains, auth, hAuth, redirects, hRedirects, content, ⟨root, hRoot, hContent⟩,
      notFound, hNotFound, id, hId, rfl⟩
    exact
      { id := ⟨id, hId, rfl⟩
        group := rfl
        hosts := ⟨domains, hDomains, rfl⟩
        inner := ⟨auth, redirects, root, content, hAuth, hRedirects, hRoot, hContent, rfl⟩
        errors := ⟨_, notFound, unauthenticatedRoute_isResponder, hNotFound, rfl⟩ }
  · obtain ⟨id?, group?, matchers, handlers, errors?⟩ := route
    rintro ⟨⟨id, hId, rfl⟩, rfl, ⟨domains, hDomains, rfl⟩,
      ⟨auth, redirects, root, content, hAuth, hRedirects, hRoot, hContent, rfl⟩,
      ⟨_, notFound, rfl, hNotFound, rfl⟩⟩
    exact ⟨domains, hDomains, auth, hAuth, redirects, hRedirects, content, ⟨root, hRoot, hContent⟩,
      notFound, hNotFound, id, hId, rfl⟩

/-- A route that claims nothing for itself: no identifier, no group and no error routes. -/
structure Route.IsUnmarked (route : Route) : Prop where
  id : route.id = none
  group : route.group = none
  errors : route.errors = none

namespace Platform

variable (platform : Platform) (site : Site) (branch : Branch)

theorem innerRoutesFor_isUnmarked :
    ∀ inner ∈ platform.innerRoutesFor site branch, inner.IsUnmarked := by
  intro inner hInner
  rw [innerRoutesFor, List.mem_append, List.mem_append, List.mem_map, List.mem_singleton] at hInner
  rcases hInner with (hAuth | ⟨redirect, _, rfl⟩) | rfl
  · cases hPassword : site.effectivePassword branch with
    | none => simp [hPassword, authRoutesFor] at hAuth
    | some password =>
        rw [hPassword, authRoutesFor, List.mem_singleton] at hAuth
        rw [hAuth]
        exact ⟨rfl, rfl, rfl⟩
  · exact ⟨rfl, rfl, rfl⟩
  · exact ⟨rfl, rfl, rfl⟩

/-- Below the route of a branch, at any depth, no route is marked. -/
theorem routeFor_inside_isUnmarked :
    ∀ inner ∈ (platform.routeFor site branch).tree.tail, inner.IsUnmarked := by
  intro inner hInner
  rw [routeFor_tree, List.tail_cons, List.mem_append, List.mem_pair] at hInner
  rcases hInner with hInner | rfl | rfl
  · exact platform.innerRoutesFor_isUnmarked site branch inner hInner
  · exact ⟨rfl, rfl, rfl⟩
  · exact ⟨rfl, rfl, rfl⟩

/-- The second error route of a platform serves its page from below the root of the branch. -/
theorem routeFor_errors (hFault : site.fault? branch = none) :
    ∃ root unauthenticated notFound,
      platform.contentRoot site.id branch.id = .ok root ∧
      IsUnauthenticatedResponder unauthenticated ∧
      IsNotFoundResponder platform.notFoundPage root notFound ∧
      (platform.routeFor site branch).errors = some [unauthenticated, notFound] := by
  have hRoot : platform.contentRoot site.id branch.id = .ok (platform.directory site branch) := by
    rw [contentRoot_eq, (Site.fault?_eq_none_iff.mp hFault).2.2, settle_none]
  exact ⟨_, _, _, hRoot, unauthenticatedRoute_isResponder, rfl, rfl⟩

end Platform

/-- The compiler returns exactly the routes composed of the answers in the prescribed order, and
returns one whenever there is an answer to every question. On a platform the second error route
serves the platform's page from below the root of the branch, and the identifier, the group and the
error routes of the outer route are the only ones in the tree. -/
theorem branchRoute_shape :
    (∀ (lookups : Lookups) (site : Site) (branch : Branch) (route : Route),
      (branchRoute site branch).resultWith lookups = .ok route ↔
        route.IsCompiledFrom lookups site branch) ∧
    (∀ (platform : Platform) (site : Site) (branch : Branch) (route : Route),
      (branchRoute site branch).resultWith platform.lookups = .ok route →
        (∃ root unauthenticated notFound,
          platform.contentRoot site.id branch.id = .ok root ∧
          IsUnauthenticatedResponder unauthenticated ∧
          IsNotFoundResponder platform.notFoundPage root notFound ∧
          route.errors = some [unauthenticated, notFound]) ∧
        ∀ inner ∈ route.tree.tail,
          inner.id = none ∧ inner.group = none ∧ inner.errors = none) := by
  refine ⟨fun _ _ _ _ => branchRoute_eq_ok_iff_isCompiledFrom, ?_⟩
  intro platform site branch route hRoute
  obtain ⟨hFault, rfl⟩ := (platform.branchRoute_eq_ok_iff site branch).mp hRoute
  refine ⟨platform.routeFor_errors site branch hFault, fun inner hInner => ?_⟩
  have hUnmarked := platform.routeFor_inside_isUnmarked site branch inner hInner
  exact ⟨hUnmarked.id, hUnmarked.group, hUnmarked.errors⟩

end TenantRoutes
