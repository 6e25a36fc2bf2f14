import TenantRoutes.Proofs.Compiler.FirstFault

/-! How branches keep apart. A branch is compiled with its whole site at hand, and yet on a platform
its route depends on no other branch. Lists of sites are compiled piece by piece. Nothing is said
about the routes of two branches meeting on a host. -/
namespace TenantRoutes

/-- Compiling sites is compiling each of them and putting the routes together. -/
theorem compileSites_resultWith_eq_mapM (lookups : Lookups) (sites : List Site) :
    (compileSites sites).resultWith lookups =
      (sites.mapM fun site => (siteRoutes site).resultWith lookups) >>= fun routes =>
        pure routes.flatten := by
  simp only [compileSites, Plan.emit, Plan.bind_eq, Plan.report_bind, Plan.done_bind,
    Plan.resultWith_bind, Plan.resultWith_report, Plan.pure_eq_done, Plan.resultWith_done,
    Plan.resultWith_mapM]
  rfl

/-- Two lists of sites are compiled one after the other, whoever answers. -/
theorem compileSites_append (lookups : Lookups) (xs ys : List Site) :
    (compileSites (xs ++ ys)).resultWith lookups =
      (compileSites xs).resultWith lookups >>= fun front =>
        (compileSites ys).resultWith lookups >>= fun back => pure (front ++ back) := by
  simp only [compileSites_resultWith_eq_mapM, List.mapM_append, bind_assoc, pure_bind,
    List.flatten_append]

/-- A place for a branch among the branches of some sites. -/
structure BranchPlace where
  before : List Site
  /-- The site that the place belongs to. Its branches are those around the place. -/
  site : Site
  ahead : List Branch
  behind : List Branch
  after : List Site

namespace BranchPlace

variable (place : BranchPlace) (branch? : Option Branch)

/-- The sites with a branch at the place or, if none is given, with nothing there. -/
def fill : List Site :=
  place.before
    ++ { place.site with branches := place.ahead ++ branch?.toList ++ place.behind } :: place.after

/-- The branches that are compiled before the one at the place. -/
def ownedAhead : List (Site × Branch) :=
  ownedBranches place.before ++ place.ahead.map fun branch => (place.site, branch)

/-- The branches that are compiled after the one at the place. -/
def ownedBehind : List (Site × Branch) :=
  (place.behind.map fun branch => (place.site, branch)) ++ ownedBranches place.after

/-- What is read off the branches alone and not off those around them is the same whatever stands
at the place. -/
theorem map_ownedBranches_fill {α : Type} (f : Site → Branch → α)
    (hApart : ∀ (branches : List Branch) (branch : Branch),
      f { place.site with branches } branch = f place.site branch) :
    ((ownedBranches (place.fill branch?)).map fun owned => f owned.1 owned.2) =
      (place.ownedAhead.map fun owned => f owned.1 owned.2)
        ++ branch?.toList.map (f place.site)
        ++ place.ownedBehind.map fun owned => f owned.1 owned.2 := by
  simp only [fill, ownedAhead, ownedBehind, ownedBranches, List.flatMap_append, List.flatMap_cons,
    List.map_append, List.map_map, Function.comp_def, hApart, List.append_assoc]

end BranchPlace

/-- The routes that a platform gives to branches, each by itself. -/
def Platform.RoutesOf (platform : Platform) (owned : List (Site × Branch)) (routes : List Route) :
    Prop :=
  List.Forall₂ (fun pair route =>
    (branchRoute pair.1 pair.2).resultWith platform.lookups = .ok route) owned routes

namespace Platform

variable {platform : Platform}

theorem routesOf_map {owned : List (Site × Branch)}
    (hFaults : ∀ pair ∈ owned, pair.1.fault? pair.2 = none) :
    platform.RoutesOf owned (owned.map fun pair => platform.routeFor pair.1 pair.2) := by
  rw [RoutesOf, List.forall₂_map_right_iff, List.forall₂_same]
  intro pair hPair
  exact (platform.branchRoute_eq_ok_iff pair.1 pair.2).mpr ⟨hFaults pair hPair, rfl⟩

/-- The routes around a place are those that the branches there have by themselves. -/
theorem compileSites_fill {place : BranchPlace} {branch? : Option Branch} {routes : List Route}
    (hRoutes : (compileSites (place.fill branch?)).resultWith platform.lookups = .ok routes) :
    platform.RoutesOf place.ownedAhead
        (place.ownedAhead.map fun pair => platform.routeFor pair.1 pair.2) ∧
      platform.RoutesOf place.ownedBehind
        (place.ownedBehind.map fun pair => platform.routeFor pair.1 pair.2) ∧
      routes =
        (place.ownedAhead.map fun pair => platform.routeFor pair.1 pair.2)
          ++ branch?.toList.map (platform.routeFor place.site)
          ++ place.ownedBehind.map fun pair => platform.routeFor pair.1 pair.2 := by
  obtain ⟨hFaults, rfl⟩ := (platform.compileSites_eq_ok_iff).mp hRoutes
  have hNone : ∀ fault ∈ (ownedBranches (place.fill branch?)).map fun pair =>
      pair.1.fault? pair.2, fault = none := by
    rw [List.forall_mem_map]
    exact hFaults
  rw [place.map_ownedBranches_fill branch? Site.fault? fun _ _ => rfl] at hNone
  simp only [List.forall_mem_append, List.forall_mem_map] at hNone
  obtain ⟨⟨hAhead, _⟩, hBehind⟩ := hNone
  exact ⟨routesOf_map hAhead, routesOf_map hBehind,
    place.map_ownedBranches_fill branch? platform.routeFor fun _ _ => rfl⟩

/-- Changing, adding or removing one branch leaves the routes of all others as they are and in their
order, as long as the sites compile before and after: they are the routes of these branches by
themselves. Sites that are compiled together give the routes of the first ones, then those of the
others, and fail like the first ones or, if these do not fail, like the others. -/
theorem compileSites_isolated (platform : Platform) :
    (∀ (place : BranchPlace) (first second : Option Branch) (routes others : List Route),
      (compileSites (place.fill first)).resultWith platform.lookups = .ok routes →
      (compileSites (place.fill second)).resultWith platform.lookups = .ok others →
      ∃ front mine theirs back,
        routes = front ++ mine ++ back ∧ others = front ++ theirs ++ back ∧
        platform.RoutesOf place.ownedAhead front ∧ platform.RoutesOf place.ownedBehind back ∧
        mine.length = first.toList.length ∧ theirs.length = second.toList.length) ∧
    (∀ xs ys : List Site,
      (∀ routes, (compileSites (xs ++ ys)).resultWith platform.lookups = .ok routes ↔
        ∃ front back, (compileSites xs).resultWith platform.lookups = .ok front ∧
          (compileSites ys).resultWith platform.lookups = .ok back ∧ routes = front ++ back) ∧
      (∀ error, (compileSites (xs ++ ys)).resultWith platform.lookups = .error error ↔
        (compileSites xs).resultWith platform.lookups = .error error ∨
          ((∃ front, (compileSites xs).resultWith platform.lookups = .ok front) ∧
            (compileSites ys).resultWith platform.lookups = .error error))) := by
  constructor
  · intro place first second routes others hRoutes hOthers
    obtain ⟨hAhead, hBehind, hSplit⟩ := compileSites_fill hRoutes
    obtain ⟨_, _, hSecond⟩ := compileSites_fill hOthers
    exact ⟨_, _, _, _, hSplit, hSecond, hAhead, hBehind, List.length_map _,
      List.length_map _⟩
  · intro xs ys
    rw [compileSites_append]
    cases (compileSites xs).resultWith platform.lookups with
    | error failure => simp [bind, Except.bind]
    | ok front =>
        cases (compileSites ys).resultWith platform.lookups with
        | error failure => simp [bind, Except.bind]
        | ok back => simp [bind, Except.bind, pure, Except.pure, eq_comm]

end Platform

end TenantRoutes
