import TenantRoutes.Proofs.Compiler.ContentRoots
import TenantRoutes.Proofs.Policy.Compilable

/-! Where requests are rewritten to. A rewrite is meant to lead to a file of the branch, that is to
a path with one slash in front and no step upwards. The file of a redirect is given its slash, and
the page for paths without a file is taken as it stands; validation looks at neither. So the
rewrites of a policy are of this form exactly when these names are. -/
namespace TenantRoutes

/-- The parts of a path between its slashes. -/
def pathSegments (path : String) : List String :=
  (Text.pieces '/' path.toList).map String.ofList

/-- A path from the top of a directory to a place in it. -/
structure IsInnerPath (path : String) : Prop where
  absolute : path.toList.head? = some '/'
  oneSlash : path.toList.tail.head? ≠ some '/'
  noParent : ".." ∉ pathSegments path

theorem isInnerPath_iff {path : String} :
    IsInnerPath path ↔ path.toList.head? = some '/' ∧ path.toList.tail.head? ≠ some '/' ∧
      ".." ∉ pathSegments path :=
  ⟨fun hPath => ⟨hPath.absolute, hPath.oneSlash, hPath.noParent⟩,
    fun ⟨hAbsolute, hOneSlash, hNoParent⟩ => ⟨hAbsolute, hOneSlash, hNoParent⟩⟩

instance (path : String) : Decidable (IsInnerPath path) :=
  decidable_of_iff _ isInnerPath_iff.symm

theorem pathSegments_slash (path : String) :
    pathSegments ("/" ++ path) = "" :: pathSegments path := by
  have hChars : ("/" ++ path).toList = '/' :: path.toList := by simp
  rw [pathSegments, hChars, Text.pieces, if_pos rfl]
  rfl

/-- Slashes in front only make empty segments. -/
theorem parent_mem_trimLeadingSlashes_iff {path : String} :
    ".." ∈ pathSegments (trimLeadingSlashes path) ↔ ".." ∈ pathSegments path := by
  have hMem (chars : List Char) : ".." ∈ (Text.pieces '/' chars).map String.ofList ↔
      ['.', '.'] ∈ Text.pieces '/' chars :=
    List.mem_map_of_injective (fun _ _ hSame => String.ofList_inj.mp hSame)
  rw [pathSegments, pathSegments, hMem, hMem, trimLeadingSlashes, String.toList_ofList]
  exact Text.mem_pieces_dropWhile_iff (by simp)

namespace Location

theorem prefix_foldl_enter {names : List String} (hNames : ".." ∉ names) (directory : Location) :
    directory <+: names.foldl enter directory := by
  induction names generalizing directory with
  | nil => exact List.prefix_rfl
  | cons name rest ih =>
      rw [List.mem_cons, not_or] at hNames
      refine List.IsPrefix.trans ?_ (ih hNames.2 (directory.enter name))
      unfold enter
      split_ifs with hStay hUp
      · exact List.prefix_rfl
      · exact absurd hUp.symm hNames.1
      · exact List.prefix_append directory [name]

end Location

/-- An inner path leads to a place in the directory that it is followed from. -/
theorem IsInnerPath.prefix_ofPath {path root : String} (hPath : IsInnerPath path)
    (hRoot : root ≠ "") (workingDirectory : Location) :
    Location.ofPath workingDirectory root <+:
      Location.ofPath workingDirectory (root ++ path) := by
  obtain ⟨rest, hRest⟩ := List.head?_eq_some_iff.mp hPath.absolute
  have hNames : ".." ∉ (Text.pieces '/' rest).map String.ofList := by
    have hNone := hPath.noParent
    rw [pathSegments, hRest, Text.pieces, if_pos rfl, List.map_cons, List.mem_cons, not_or] at hNone
    exact hNone.2
  have hStart : (root.toList ++ '/' :: rest).head? = root.toList.head? :=
    List.head?_append_of_ne_nil _ (fun hEmpty => hRoot (String.toList_eq_nil_iff.mp hEmpty))
  rw [Location.ofPath, Location.ofPath, String.toList_append, hRest, Text.pieces_append_cons,
    List.map_append, List.foldl_append, hStart]
  exact Location.prefix_foldl_enter hNames _

/-- The target of a rewrite. -/
def Handler.rewriteTarget? : Handler → Option String
  | .rewrite uri => some uri
  | _ => none

namespace Route

/-- The targets that a route itself rewrites requests to. Where the route waits for a file to be
found, the placeholder for that file is left out. -/
def ownRewriteTargets (route : Route) : List String :=
  (route.handlers.filterMap Handler.rewriteTarget?).filter fun uri =>
    !(route.matchers.any (·.file.isSome) && uri == matchedFile)

/-- The targets of all rewrites of a route, at any depth. -/
def rewriteTargets (route : Route) : List String :=
  route.tree.flatMap ownRewriteTargets

end Route

/-- Where a redirect to a file rewrites requests to. -/
def Redirect.fileUri? (redirect : Redirect) : Option String :=
  match redirect.target with
  | .url _ _ => none
  | .file name => some ("/" ++ trimLeadingSlashes name)

theorem Redirect.fileUri?_eq_some_iff {redirect : Redirect} {uri : String} :
    redirect.fileUri? = some uri ↔
      ∃ name, redirect.target = .file name ∧ "/" ++ trimLeadingSlashes name = uri := by
  unfold fileUri?
  cases redirect.target <;> simp

/-- The file of a redirect is given exactly one slash. -/
theorem slash_trimLeadingSlashes (name : String) :
    ("/" ++ trimLeadingSlashes name).toList.head? = some '/' ∧
      ("/" ++ trimLeadingSlashes name).toList.tail.head? ≠ some '/' := by
  have hChars : ("/" ++ trimLeadingSlashes name).toList =
      '/' :: name.toList.dropWhile (· == '/') := by
    simp [trimLeadingSlashes]
  rw [hChars]
  refine ⟨rfl, fun hSlash => ?_⟩
  have hNot := List.head?_dropWhile_not (· == '/') name.toList
  rw [List.tail_cons] at hSlash
  simp [hSlash] at hNot

theorem isInnerPath_slash_trim_iff {name : String} :
    IsInnerPath ("/" ++ trimLeadingSlashes name) ↔ ".." ∉ pathSegments name := by
  obtain ⟨hAbsolute, hOneSlash⟩ := slash_trimLeadingSlashes name
  rw [isInnerPath_iff, and_iff_right hAbsolute, and_iff_right hOneSlash, pathSegments_slash,
    List.mem_cons, parent_mem_trimLeadingSlashes_iff, or_iff_right (by decide)]

namespace Platform

variable (platform : Platform) (site : Site) (branch : Branch)

theorem redirectRouteFor_rewriteTargets (redirect : Redirect) :
    (platform.redirectRouteFor site branch redirect).ownRewriteTargets =
      redirect.fileUri?.toList := by
  unfold redirectRouteFor Redirect.fileUri?
  cases redirect.target with
  | url location permanent => rfl
  | file name => rfl

/-- The content itself is only rewritten to the file that was found. -/
theorem contentRouteFor_rewriteTargets :
    (platform.contentRouteFor site branch).ownRewriteTargets = [] := by
  unfold contentRouteFor contentHandlers headersHandler
  cases site.singlePage <;> rfl

theorem authRoutesFor_rewriteTargets (password? : Option Password) :
    (platform.authRoutesFor password?).flatMap Route.ownRewriteTargets = [] := by
  cases password? <;> rfl

theorem routeFor_rewriteTargets :
    (platform.routeFor site branch).rewriteTargets =
      branch.redirects.filterMap Redirect.fileUri? ++ [platform.notFoundPage] := by
  have hOuter : (platform.routeFor site branch).ownRewriteTargets = [] := rfl
  have hErrors : [unauthenticatedRoute, platform.notFoundRouteFor site branch].flatMap
      Route.ownRewriteTargets = [platform.notFoundPage] := rfl
  have hRedirects : (branch.redirects.map (platform.redirectRouteFor site branch)).flatMap
      Route.ownRewriteTargets = branch.redirects.filterMap Redirect.fileUri? := by
    rw [List.flatMap_map, List.filterMap_eq_flatMap_toList]
    simp only [redirectRouteFor_rewriteTargets]
  rw [Route.rewriteTargets, routeFor_tree, List.flatMap_cons, List.flatMap_append, hOuter, hErrors,
    innerRoutesFor, List.flatMap_append, List.flatMap_append, authRoutesFor_rewriteTargets,
    hRedirects, List.flatMap_singleton, contentRouteFor_rewriteTargets, List.nil_append,
    List.nil_append, List.append_nil]

theorem mem_routeFor_rewriteTargets {uri : String} :
    uri ∈ (platform.routeFor site branch).rewriteTargets ↔
      (∃ redirect ∈ branch.redirects, ∃ name, redirect.target = .file name ∧
        "/" ++ trimLeadingSlashes name = uri) ∨ uri = platform.notFoundPage := by
  simp only [routeFor_rewriteTargets, List.mem_append, List.mem_filterMap,
    Redirect.fileUri?_eq_some_iff, List.mem_singleton]

theorem routeFor_rewritesInside_iff :
    (∀ uri ∈ (platform.routeFor site branch).rewriteTargets, IsInnerPath uri) ↔
      IsInnerPath platform.notFoundPage ∧
        ∀ redirect ∈ branch.redirects, ∀ name, redirect.target = .file name →
          ".." ∉ pathSegments name := by
  simp only [mem_routeFor_rewriteTargets]
  constructor
  · intro hInside
    refine ⟨hInside _ (Or.inr rfl), fun redirect hRedirect name hName => ?_⟩
    exact isInnerPath_slash_trim_iff.mp (hInside _ (Or.inl ⟨redirect, hRedirect, name, hName, rfl⟩))
  · rintro ⟨hPage, hFiles⟩ uri (⟨redirect, hRedirect, name, hName, rfl⟩ | rfl)
    · exact isInnerPath_slash_trim_iff.mpr (hFiles redirect hRedirect name hName)
    · exact hPage

theorem directory_ne_empty : platform.directory site branch ≠ "" := by
  intro hEmpty
  have hLength := congrArg String.length hEmpty
  simp [directory] at hLength

end Platform

namespace Policy

/-- The rewrites of compiled routes are inner paths exactly when the page for paths without a file
is one and no file of a redirect has a step upwards in it. Every other target than this page has
exactly one slash in front in any case. A target that is an inner path names a place in the
directory that its route serves files from. -/
theorem rewrites_inside_iff (policy : Policy) (routes : List Route)
    (hRoutes : policy.compile.result = .ok routes) :
    ((∀ route ∈ routes, ∀ uri ∈ route.rewriteTargets, IsInnerPath uri) ↔
      ((∃ site ∈ policy.sites, site.branches ≠ []) →
        IsInnerPath policy.platform.notFoundPage) ∧
      ∀ site ∈ policy.sites, ∀ branch ∈ site.branches, ∀ redirect ∈ branch.redirects, ∀ name,
        redirect.target = .file name → ".." ∉ pathSegments name) ∧
    (∀ route ∈ routes, ∀ uri ∈ route.rewriteTargets, uri ≠ policy.platform.notFoundPage →
      uri.toList.head? = some '/' ∧ uri.toList.tail.head? ≠ some '/') ∧
    ∀ route ∈ routes, ∀ uri ∈ route.rewriteTargets, IsInnerPath uri →
      ∀ root ∈ route.fileRoots, ∀ workingDirectory,
        Location.ofPath workingDirectory root <+:
          Location.ofPath workingDirectory (root ++ uri) := by
  obtain ⟨_, rfl⟩ := (policy.platform.compileSites_eq_ok_iff).mp hRoutes
  simp only [List.forall_mem_map, Prod.forall, mem_ownedBranches, and_imp]
  refine ⟨?_, ?_, ?_⟩
  · simp only [Platform.routeFor_rewritesInside_iff]
    constructor
    · intro hInside
      refine ⟨?_, fun site hSite branch hBranch => (hInside site branch hSite hBranch).2⟩
      rintro ⟨site, hSite, hSome⟩
      obtain ⟨branch, hBranch⟩ := List.exists_mem_of_ne_nil _ hSome
      exact (hInside site branch hSite hBranch).1
    · rintro ⟨hPage, hFiles⟩ site branch hSite hBranch
      exact ⟨hPage ⟨site, hSite, List.ne_nil_of_mem hBranch⟩, hFiles site hSite branch hBranch⟩
  · intro site branch _ _ uri hUri hOther
    rcases (Platform.mem_routeFor_rewriteTargets _ site branch).mp hUri with
      ⟨_, _, name, _, rfl⟩ | hPage
    · exact slash_trimLeadingSlashes name
    · exact absurd hPage hOther
  · intro site branch _ _ uri _ hInner root hRoot workingDirectory
    rw [(policy.platform.routeFor_readsOnly site branch).only root hRoot]
    exact hInner.prefix_ofPath (policy.platform.directory_ne_empty site branch) workingDirectory

/-- A branch with a file behind a path of its own. -/
def fileRedirectBranch (file : String) : Branch :=
  { id := "b1", slug := "prod", redirects := [{ path := "/feed", target := .file file }] }

def fileRedirectSite (file : String) : Site :=
  { id := "s1", name := "blog", mainBranch := "b1", singlePage := true
    branches := [fileRedirectBranch file] }

def withFiles (page file : String) : Policy :=
  { platform := { notFoundPage := page }, sites := [fileRedirectSite file] }

theorem withFiles_rewrites_inside :
    ∃ routes, (withFiles "/errors/404.html" "//feeds/..all.xml").compile.result = .ok routes ∧
      ∀ route ∈ routes, ∀ uri ∈ route.rewriteTargets, IsInnerPath uri := by
  obtain ⟨routes, hRoutes⟩ : ∃ routes,
      (withFiles "/errors/404.html" "//feeds/..all.xml").compile.result = .ok routes := ⟨_, rfl⟩
  refine ⟨routes, hRoutes, (rewrites_inside_iff _ routes hRoutes).1.mpr ⟨fun _ => by decide, ?_⟩⟩
  simp only [withFiles, fileRedirectSite, fileRedirectBranch, List.forall_mem_singleton,
    Redirect.Target.file.injEq, forall_eq']
  decide

/-- Validation accepts a page without a slash in front, and a file that is reached over the
directory above, and neither target is an inner path. -/
theorem withFiles_rewrites_outside :
    (withFiles "404.html" "../b2/feed.xml").isValid = true ∧
      ∃ routes, (withFiles "404.html" "../b2/feed.xml").compile.result = .ok routes ∧
        ∃ route ∈ routes,
          ("404.html" ∈ route.rewriteTargets ∧ ¬ IsInnerPath "404.html") ∧
          "/../b2/feed.xml" ∈ route.rewriteTargets ∧ ¬ IsInnerPath "/../b2/feed.xml" := by
  have hFault : (fileRedirectSite "../b2/feed.xml").fault?
      (fileRedirectBranch "../b2/feed.xml") = none := by
    decide
  have hTarget := @Platform.mem_routeFor_rewriteTargets
    { notFoundPage := "404.html" } (fileRedirectSite "../b2/feed.xml")
    (fileRedirectBranch "../b2/feed.xml")
  refine ⟨by decide, _, (Platform.compileSites_eq_ok_iff _).mpr
    ⟨List.forall_mem_singleton.mpr hFault, rfl⟩, _, List.mem_cons_self, ⟨?_, by decide⟩, ?_,
    by decide⟩
  · exact hTarget.mpr (Or.inr rfl)
  · exact hTarget.mpr (Or.inl ⟨_, List.mem_cons_self, _, rfl, by decide⟩)

end Policy

end TenantRoutes
