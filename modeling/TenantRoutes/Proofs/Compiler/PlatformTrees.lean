import TenantRoutes.Proofs.Compiler.PlatformRoutes
import TenantRoutes.Proofs.Route.Tree

/-! The trees of compiled routes. On a platform they have two levels: the route of a branch, and the
routes tried below it together with its error routes, which hold no further routes. -/
namespace TenantRoutes

theorem unauthenticatedRoute_isFlat : unauthenticatedRoute.IsFlat :=
  ⟨by simp [unauthenticatedRoute, Handler.subroutes?], rfl⟩

namespace Platform

variable (platform : Platform) (site : Site) (branch : Branch)

theorem notFoundRouteFor_isFlat : (platform.notFoundRouteFor site branch).IsFlat :=
  ⟨by simp [notFoundRouteFor, fileResponse, Handler.subroutes?], rfl⟩

theorem redirectRouteFor_isFlat (redirect : Redirect) :
    (platform.redirectRouteFor site branch redirect).IsFlat := by
  refine ⟨?_, rfl⟩
  unfold redirectRouteFor
  cases redirect.target with
  | url location permanent => simp [redirectResponse, Handler.subroutes?]
  | file name => simp [redirectResponse, fileResponse, Handler.subroutes?]

theorem contentRouteFor_isFlat : (platform.contentRouteFor site branch).IsFlat := by
  refine ⟨?_, rfl⟩
  unfold contentRouteFor contentHandlers headersHandler
  cases site.singlePage <;> simp [Handler.subroutes?]

theorem authRoutesFor_isFlat (password? : Option Password) :
    ∀ route ∈ platform.authRoutesFor password?, route.IsFlat := by
  cases password? with
  | none => simp [authRoutesFor]
  | some password =>
      intro route hRoute
      rw [authRoutesFor, List.mem_singleton] at hRoute
      rw [hRoute]
      exact ⟨by simp [challenge, Handler.subroutes?], rfl⟩

theorem innerRoutesFor_isFlat : ∀ route ∈ platform.innerRoutesFor site branch, route.IsFlat := by
  intro route hRoute
  rw [innerRoutesFor, List.mem_append, List.mem_append, List.mem_map, List.mem_singleton] at hRoute
  rcases hRoute with (hAuth | ⟨redirect, _, rfl⟩) | rfl
  · exact platform.authRoutesFor_isFlat _ route hAuth
  · exact platform.redirectRouteFor_isFlat site branch redirect
  · exact platform.contentRouteFor_isFlat site branch

theorem routeFor_tree :
    (platform.routeFor site branch).tree = platform.routeFor site branch ::
      (platform.innerRoutesFor site branch ++
        [unauthenticatedRoute, platform.notFoundRouteFor site branch]) := by
  have hErrors : ∀ route ∈ [unauthenticatedRoute, platform.notFoundRouteFor site branch],
      route.IsFlat := by
    rw [List.forall_mem_cons, List.forall_mem_singleton]
    exact ⟨unauthenticatedRoute_isFlat, platform.notFoundRouteFor_isFlat site branch⟩
  rw [Route.tree_eq]
  simp only [routeFor, List.flatMap_singleton, Handler.trees_subroute, Option.getD_some,
    Route.flatMap_tree_of_isFlat (platform.innerRoutesFor_isFlat site branch),
    Route.flatMap_tree_of_isFlat hErrors]

end Platform

end TenantRoutes
