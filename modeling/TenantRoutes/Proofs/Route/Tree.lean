import TenantRoutes.Route.Basic

/-! The routes inside a route. Subroutes and error routes are routes again, so what holds anywhere
in a route is said of all routes of its tree. The order is that of the text of the route: a route
stands before the routes of its handlers, and these before its error routes. -/
namespace TenantRoutes

mutual

/-- The routes of a tree, the outermost first. -/
def Route.tree : Route → List Route
  | .mk id group matchers handlers errors =>
    .mk id group matchers handlers errors :: (handlersTrees handlers ++ errorsTrees errors)

def Handler.trees : Handler → List Route
  | .subroute routes => routesTrees routes
  | .rewrite _ | .headers _ | .encode _ | .fileServer _ | .staticResponse _ _ _
  | .authentication _ => []

def routesTrees : List Route → List Route
  | [] => []
  | route :: rest => route.tree ++ routesTrees rest

def handlersTrees : List Handler → List Route
  | [] => []
  | handler :: rest => handler.trees ++ handlersTrees rest

def errorsTrees : Option (List Route) → List Route
  | none => []
  | some routes => routesTrees routes

end

theorem routesTrees_eq (routes : List Route) : routesTrees routes = routes.flatMap Route.tree := by
  induction routes with
  | nil => rfl
  | cons route rest ih => rw [routesTrees, ih, List.flatMap_cons]

theorem handlersTrees_eq (handlers : List Handler) :
    handlersTrees handlers = handlers.flatMap Handler.trees := by
  induction handlers with
  | nil => rfl
  | cons handler rest ih => rw [handlersTrees, ih, List.flatMap_cons]

theorem Handler.trees_subroute (routes : List Route) :
    (Handler.subroute routes).trees = routes.flatMap Route.tree := by
  rw [trees, routesTrees_eq]

/-- Only subroute handlers hold routes. -/
theorem Handler.trees_eq_nil {handler : Handler} (hNone : handler.subroutes? = none) :
    handler.trees = [] := by
  cases handler with
  | subroute routes => simp [subroutes?] at hNone
  | _ => rfl

namespace Route

theorem tree_eq (route : Route) :
    route.tree = route :: (route.handlers.flatMap Handler.trees ++
      (route.errors.getD []).flatMap Route.tree) := by
  obtain ⟨id, group, matchers, handlers, errors⟩ := route
  rw [tree, handlersTrees_eq]
  cases errors with
  | none => rfl
  | some routes => rw [errorsTrees, routesTrees_eq, Option.getD_some]

/-- A route that holds no other routes. -/
structure IsFlat (route : Route) : Prop where
  handlers : ∀ handler ∈ route.handlers, handler.subroutes? = none
  errors : route.errors = none

theorem IsFlat.tree_eq_self {route : Route} (hFlat : route.IsFlat) : route.tree = [route] := by
  have hTrees : route.handlers.flatMap Handler.trees = [] := by
    rw [List.flatMap_eq_nil_iff]
    exact fun handler hMem => Handler.trees_eq_nil (hFlat.handlers handler hMem)
  rw [tree_eq, hTrees, hFlat.errors]
  rfl

theorem flatMap_tree_of_isFlat {routes : List Route} (hFlat : ∀ route ∈ routes, route.IsFlat) :
    routes.flatMap tree = routes := by
  induction routes with
  | nil => rfl
  | cons route rest ih =>
      rw [List.forall_mem_cons] at hFlat
      rw [List.flatMap_cons, hFlat.1.tree_eq_self, ih hFlat.2, List.singleton_append]

/-- All handlers of a route, at any depth. -/
def allHandlers (route : Route) : List Handler :=
  route.tree.flatMap (·.handlers)

end Route

end TenantRoutes
