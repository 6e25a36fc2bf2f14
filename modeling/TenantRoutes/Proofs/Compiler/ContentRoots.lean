import Mathlib.Data.List.Forall2
import TenantRoutes.Proofs.Compiler.PlatformTrees
import TenantRoutes.Proofs.Files.Location

/-! Where compiled routes look for files. All file servers and all conditions on files of a route
use the one directory of its branch, and the directories of different branches do not contain one
another. Whether these directories exist, and what links lie in them, is not known here. -/
namespace TenantRoutes

/-- The directory of a file server. -/
def Handler.fileRoot? : Handler → Option String
  | .fileServer root => some root
  | _ => none

/-- The directory below which a condition looks for files. -/
def MatcherSet.fileRoot? (matcher : MatcherSet) : Option String :=
  matcher.file.map (·.root)

namespace Route

/-- The directories that a route names itself. -/
def ownFileRoots (route : Route) : List String :=
  route.matchers.filterMap MatcherSet.fileRoot? ++ route.handlers.filterMap Handler.fileRoot?

/-- The directories named anywhere in a route. -/
def fileRoots (route : Route) : List String :=
  route.tree.flatMap ownFileRoots

/-- A route that looks for files in one directory and nowhere else. -/
structure ReadsOnly (route : Route) (root : String) : Prop where
  reads : root ∈ route.fileRoots
  only : ∀ other ∈ route.fileRoots, other = root

end Route

/-- What is cut from a text are slashes, and all of those that end it. -/
theorem trimTrailingSlashes_spec (s : String) :
    (∃ count, s = trimTrailingSlashes s ++ String.ofList (List.replicate count '/')) ∧
      (trimTrailingSlashes s).toList.getLast? ≠ some '/' := by
  have hCut : ∀ c ∈ s.toList.reverse.takeWhile (· == '/'), c = '/' := by
    intro c hc
    exact beq_iff_eq.mp (List.all_eq_true.mp List.all_takeWhile c hc)
  have hSlashes := List.eq_replicate_of_mem hCut
  constructor
  · refine ⟨(s.toList.reverse.takeWhile (· == '/')).length, ?_⟩
    rw [← String.toList_inj, String.toList_append, trimTrailingSlashes, String.toList_ofList,
      String.toList_ofList]
    calc s.toList
        = (s.toList.reverse.takeWhile (· == '/') ++
            s.toList.reverse.dropWhile (· == '/')).reverse := by
          rw [List.takeWhile_append_dropWhile, List.reverse_reverse]
      _ = (s.toList.reverse.dropWhile (· == '/')).reverse ++
            (s.toList.reverse.takeWhile (· == '/')).reverse := List.reverse_append
      _ = (s.toList.reverse.dropWhile (· == '/')).reverse ++
            List.replicate (s.toList.reverse.takeWhile (· == '/')).length '/' := by
          rw [← List.reverse_replicate, ← hSlashes]
  · rw [trimTrailingSlashes, String.toList_ofList, List.getLast?_reverse]
    intro hSlash
    have hNot := List.head?_dropWhile_not (· == '/') s.toList.reverse
    simp [hSlash] at hNot

theorem slash_not_mem_of_usable {id : String} (hUsable : ¬ IsUnusableSegment id) :
    '/' ∉ id.toList :=
  fun hSlash => hUsable (Or.inr (Or.inr (Or.inr (Or.inl hSlash))))

theorem Location.enter_of_usable {directory : Location} {id : String}
    (hUsable : ¬ IsUnusableSegment id) : directory.enter id = directory ++ [id] := by
  have hStay : ¬ (id = "" ∨ id = ".") := by
    rintro (rfl | rfl)
    · exact hUsable (Or.inl rfl)
    · exact hUsable (Or.inr (Or.inl rfl))
  have hUp : id ≠ ".." := fun hParent => hUsable (Or.inr (Or.inr (Or.inl hParent)))
  rw [enter, if_neg hStay, if_neg hUp]

theorem Site.rootFault?_eq_none_iff {site : Site} {branch : Branch} :
    site.rootFault? branch = none ↔
      ¬ IsUnusableSegment site.id ∧ ¬ IsUnusableSegment branch.id := by
  unfold rootFault? segmentFault?
  by_cases hSite : IsUnusableSegment site.id <;> by_cases hBranch : IsUnusableSegment branch.id <;>
    simp [hSite, hBranch]

namespace Platform

variable (platform : Platform) (site : Site) (branch : Branch)

theorem fileResponse_fileRoots (uri : String) :
    (platform.fileResponse site branch uri).filterMap Handler.fileRoot? =
      [platform.directory site branch] := rfl

theorem redirectRouteFor_fileRoots (redirect : Redirect) :
    ∀ root ∈ (platform.redirectRouteFor site branch redirect).ownFileRoots,
      root = platform.directory site branch := by
  unfold redirectRouteFor
  cases redirect.target with
  | url location permanent =>
      simp [Route.ownFileRoots, redirectResponse, MatcherSet.onPath, MatcherSet.fileRoot?,
        Handler.fileRoot?]
  | file name =>
      simp [Route.ownFileRoots, redirectResponse, fileResponse_fileRoots, MatcherSet.onPath,
        MatcherSet.fileRoot?]

/-- A condition on files has the directory of the file server behind it. -/
theorem contentRouteFor_fileRoots :
    ∀ root ∈ (platform.contentRouteFor site branch).ownFileRoots,
      root = platform.directory site branch := by
  unfold contentRouteFor contentHandlers headersHandler
  cases site.singlePage <;>
    simp [Route.ownFileRoots, MatcherSet.onFile, MatcherSet.fileRoot?, Handler.fileRoot?]

theorem authRoutesFor_fileRoots (password? : Option Password) :
    (platform.authRoutesFor password?).flatMap Route.ownFileRoots = [] := by
  cases password? <;> rfl

theorem unauthenticatedRoute_fileRoots : unauthenticatedRoute.ownFileRoots = [] := rfl

theorem notFoundRouteFor_fileRoots :
    (platform.notFoundRouteFor site branch).ownFileRoots = [platform.directory site branch] := rfl

theorem routeFor_readsOnly :
    (platform.routeFor site branch).ReadsOnly (platform.directory site branch) := by
  have hTree : (platform.routeFor site branch).fileRoots =
      (branch.redirects.map (platform.redirectRouteFor site branch)).flatMap Route.ownFileRoots ++
        (platform.contentRouteFor site branch).ownFileRoots ++
        [platform.directory site branch] := by
    have hOuter : (platform.routeFor site branch).ownFileRoots = [] := rfl
    rw [Route.fileRoots, routeFor_tree, innerRoutesFor]
    simp only [List.flatMap_cons, List.flatMap_append, List.flatMap_nil, hOuter,
      authRoutesFor_fileRoots, unauthenticatedRoute_fileRoots, notFoundRouteFor_fileRoots,
      List.nil_append, List.append_nil]
  constructor
  · rw [hTree]
    exact List.mem_append_right _ (List.mem_singleton_self _)
  · intro root hRoot
    rw [hTree, List.mem_append, List.mem_append, List.mem_singleton, List.mem_flatMap] at hRoot
    rcases hRoot with (⟨route, hRoute, hRoot⟩ | hContent) | hNotFound
    · obtain ⟨redirect, _, rfl⟩ := List.mem_map.mp hRoute
      exact platform.redirectRouteFor_fileRoots site branch redirect root hRoot
    · exact platform.contentRouteFor_fileRoots site branch root hContent
    · exact hNotFound

theorem directory_location (workingDirectory : Location) (hRoot : site.rootFault? branch = none) :
    Location.ofPath workingDirectory (platform.directory site branch) =
      Location.ofPath workingDirectory (trimTrailingSlashes platform.sitesDir ++ "/") ++
        [site.id, branch.id] := by
  obtain ⟨hSite, hBranch⟩ := Site.rootFault?_eq_none_iff.mp hRoot
  rw [directory, Location.ofPath_join _ _ (slash_not_mem_of_usable hSite)
    (slash_not_mem_of_usable hBranch), Location.enter_of_usable hSite,
    Location.enter_of_usable hBranch, List.append_assoc, List.singleton_append]

theorem directory_apart {site other : Site} {branch second : Branch}
    (hRoot : site.rootFault? branch = none) (hSecond : other.rootFault? second = none)
    (hDiffer : (site.id, branch.id) ≠ (other.id, second.id)) (workingDirectory : Location) :
    Location.AreApart (Location.ofPath workingDirectory (platform.directory site branch))
      (Location.ofPath workingDirectory (platform.directory other second)) := by
  rw [directory_location _ _ _ _ hRoot, directory_location _ _ _ _ hSecond]
  refine Location.areApart_of_length_eq (by simp) ?_
  intro hSame
  have hEnds := List.append_cancel_left hSame
  rw [List.cons.injEq, List.cons.injEq] at hEnds
  exact hDiffer (Prod.ext hEnds.1 hEnds.2.1)

/-- Every compiled route looks for files in the directory of its branch only, two levels below the
directory of all sites, and no branch with other ids has a directory above, below or at the same
place. -/
theorem compileSites_confined (platform : Platform) (sites : List Site) (routes : List Route)
    (hRoutes : (compileSites sites).resultWith platform.lookups = .ok routes) :
    (∃ base count,
      platform.sitesDir = base ++ String.ofList (List.replicate count '/') ∧
      base.toList.getLast? ≠ some '/' ∧
      List.Forall₂ (fun owned route =>
          let root := base ++ "/" ++ owned.1.id ++ "/" ++ owned.2.id
          platform.contentRoot owned.1.id owned.2.id = .ok root ∧
          route.ReadsOnly root ∧
          ¬ IsUnusableSegment owned.1.id ∧ ¬ IsUnusableSegment owned.2.id ∧
          ∀ workingDirectory, Location.ofPath workingDirectory root =
            Location.ofPath workingDirectory (base ++ "/") ++ [owned.1.id, owned.2.id])
        (ownedBranches sites) routes) ∧
    ∀ owned ∈ ownedBranches sites, ∀ other ∈ ownedBranches sites,
      (owned.1.id, owned.2.id) ≠ (other.1.id, other.2.id) →
      ∃ root second,
        platform.contentRoot owned.1.id owned.2.id = .ok root ∧
        platform.contentRoot other.1.id other.2.id = .ok second ∧
        root ≠ second ∧
        ∀ workingDirectory, Location.AreApart (Location.ofPath workingDirectory root)
          (Location.ofPath workingDirectory second) := by
  obtain ⟨hFaults, rfl⟩ := (platform.compileSites_eq_ok_iff).mp hRoutes
  have hRoots : ∀ owned ∈ ownedBranches sites, owned.1.rootFault? owned.2 = none :=
    fun owned hOwned => (Site.fault?_eq_none_iff.mp (hFaults owned hOwned)).2.2
  have hContentRoots : ∀ owned ∈ ownedBranches sites,
      platform.contentRoot owned.1.id owned.2.id = .ok (platform.directory owned.1 owned.2) := by
    intro owned hOwned
    rw [contentRoot_eq, hRoots owned hOwned, settle_none]
  constructor
  · obtain ⟨⟨count, hCut⟩, hLast⟩ := trimTrailingSlashes_spec platform.sitesDir
    refine ⟨trimTrailingSlashes platform.sitesDir, count, hCut, hLast, ?_⟩
    rw [List.forall₂_map_right_iff, List.forall₂_same]
    intro owned hOwned
    obtain ⟨hSite, hBranch⟩ := Site.rootFault?_eq_none_iff.mp (hRoots owned hOwned)
    exact ⟨hContentRoots owned hOwned, platform.routeFor_readsOnly owned.1 owned.2, hSite, hBranch,
      fun workingDirectory => platform.directory_location owned.1 owned.2 workingDirectory
        (hRoots owned hOwned)⟩
  · intro owned hOwned other hOther hDiffer
    have hApart := platform.directory_apart (hRoots owned hOwned) (hRoots other hOther) hDiffer
    exact ⟨_, _, hContentRoots owned hOwned, hContentRoots other hOther,
      Location.path_ne_of_areApart (hApart []), hApart⟩

/-- A branch whose id begins that of another one, with a file of its own behind a path. -/
def shorterIdBranch : Branch :=
  { id := "b", slug := "prod", redirects := [{ path := "/feed", target := .file "rss.xml" }] }

def longerIdBranch : Branch :=
  { id := "bc", slug := "next" }

def similarSite : Site :=
  { id := "a", name := "one", mainBranch := "b", singlePage := true
    branches := [shorterIdBranch, longerIdBranch] }

/-- A platform whose directory is given with slashes at its end. -/
def slashedPlatform : Platform :=
  { sitesDir := "/srv//" }

/-- The path `/srv/a/b` begins the path `/srv/a/bc`, yet it is no directory above it. -/
theorem similarSite_apart :
    (∃ routes, (compileSites [similarSite]).resultWith slashedPlatform.lookups = .ok routes) ∧
      ∃ root second, slashedPlatform.contentRoot "a" "b" = .ok root ∧
        slashedPlatform.contentRoot "a" "bc" = .ok second ∧ root ≠ second ∧
        ∀ workingDirectory, Location.AreApart (Location.ofPath workingDirectory root)
          (Location.ofPath workingDirectory second) := by
  obtain ⟨routes, hRoutes⟩ : ∃ routes,
      (compileSites [similarSite]).resultWith slashedPlatform.lookups = .ok routes := ⟨_, rfl⟩
  have hShorter : (similarSite, shorterIdBranch) ∈ ownedBranches [similarSite] :=
    mem_ownedBranches.mpr ⟨List.mem_singleton_self _, List.mem_cons_self⟩
  have hLonger : (similarSite, longerIdBranch) ∈ ownedBranches [similarSite] :=
    mem_ownedBranches.mpr ⟨List.mem_singleton_self _, List.mem_cons_of_mem _ List.mem_cons_self⟩
  refine ⟨⟨routes, hRoutes⟩, ?_⟩
  exact (compileSites_confined slashedPlatform [similarSite] routes hRoutes).2
    (similarSite, shorterIdBranch) hShorter (similarSite, longerIdBranch) hLonger (by decide)

end Platform

end TenantRoutes
