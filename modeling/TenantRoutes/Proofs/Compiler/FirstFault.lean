import Mathlib.Data.List.Forall2
import TenantRoutes.Proofs.Compiler.PlatformRoutes

/-! When compilation on a platform fails, and with what. The failure is the fault of the first
faulty branch in the order of sites and branches, although the compiler meets it in different
answers: a redirect to a file needs the directory of the branch before its content does. -/
namespace TenantRoutes

/-- All that the fault of a branch is read off. The redirects are not part of it, nor are domains,
headers and slugs. -/
def faultSource (owned : Site × Branch) : String × String × Option Password × String :=
  (owned.1.id, owned.1.name, owned.1.effectivePassword owned.2, owned.2.id)

theorem fault?_eq_of_faultSource {owned other : Site × Branch}
    (hSource : faultSource owned = faultSource other) :
    owned.1.fault? owned.2 = other.1.fault? other.2 := by
  simp only [faultSource, Prod.mk.injEq] at hSource
  obtain ⟨hSite, hName, hPassword, hBranch⟩ := hSource
  simp only [Site.fault?, hSite, hName, hPassword, hBranch]

theorem firstFault_eq_of_faultSources {owned others : List (Site × Branch)}
    (hSources : owned.map faultSource = others.map faultSource) :
    owned.findSome? (fun pair => pair.1.fault? pair.2) =
      others.findSome? (fun pair => pair.1.fault? pair.2) := by
  induction owned generalizing others with
  | nil =>
      have hEmpty : others = [] := by simpa using hSources.symm
      rw [hEmpty]
  | cons pair rest ih =>
      cases others with
      | nil => simp at hSources
      | cons other others =>
          rw [List.map_cons, List.map_cons, List.cons.injEq] at hSources
          rw [List.findSome?_cons, List.findSome?_cons,
            fault?_eq_of_faultSource hSources.1, ih hSources.2]

namespace Platform

/-- A successful compilation has one route for each branch, in order, and each of them is what the
branch compiles to by itself. -/
theorem compileSites_forall₂ {platform : Platform} {sites : List Site} {routes : List Route}
    (hRoutes : (compileSites sites).resultWith platform.lookups = .ok routes) :
    List.Forall₂ (fun owned route =>
        (branchRoute owned.1 owned.2).resultWith platform.lookups = .ok route)
      (ownedBranches sites) routes := by
  obtain ⟨hFaults, rfl⟩ := (platform.compileSites_eq_ok_iff).mp hRoutes
  rw [List.forall₂_map_right_iff, List.forall₂_same]
  intro owned hOwned
  exact (platform.branchRoute_eq_ok_iff owned.1 owned.2).mpr ⟨hFaults owned hOwned, rfl⟩

/-- Compilation on a platform fails exactly with the fault of the first faulty branch. Otherwise it
returns one route for each branch. Sites without branches have no part in the failure, and neither
do redirects: two lists of sites whose branches agree in what faults are read off fail alike. -/
theorem compileSites_fails_with_first_fault (platform : Platform) (sites : List Site) :
    (∀ error, (compileSites sites).resultWith platform.lookups = .error error ↔
      ∃ before site branch after, ownedBranches sites = before ++ (site, branch) :: after ∧
        site.fault? branch = some error ∧
        ∀ earlier ∈ before, earlier.1.fault? earlier.2 = none) ∧
    ((∃ routes, (compileSites sites).resultWith platform.lookups = .ok routes) ↔
      ∀ site ∈ sites, ∀ branch ∈ site.branches, site.fault? branch = none) ∧
    (∀ routes, (compileSites sites).resultWith platform.lookups = .ok routes →
      List.Forall₂ (fun owned route =>
          (branchRoute owned.1 owned.2).resultWith platform.lookups = .ok route)
        (ownedBranches sites) routes) ∧
    (∀ others error,
      (ownedBranches others).map faultSource = (ownedBranches sites).map faultSource →
      ((compileSites others).resultWith platform.lookups = .error error ↔
        (compileSites sites).resultWith platform.lookups = .error error)) := by
  refine ⟨?_, ?_, fun _ => compileSites_forall₂, ?_⟩
  · intro error
    rw [compileSites_eq_error_iff, List.findSome?_eq_some_iff]
    constructor
    · rintro ⟨before, ⟨site, branch⟩, after, hSplit, hFault, hBefore⟩
      exact ⟨before, site, branch, after, hSplit, hFault, hBefore⟩
    · rintro ⟨before, site, branch, after, hSplit, hFault, hBefore⟩
      exact ⟨before, (site, branch), after, hSplit, hFault, hBefore⟩
  · simp only [compileSites_eq_ok_iff, mem_ownedBranches, and_imp, Prod.forall]
    constructor
    · rintro ⟨_, hFaults, _⟩ site hSite branch hBranch
      exact hFaults site branch hSite hBranch
    · intro hFaults
      exact ⟨_, fun site branch hSite hBranch => hFaults site hSite branch hBranch, rfl⟩
  · intro others error hSources
    rw [compileSites_eq_error_iff, compileSites_eq_error_iff,
      firstFault_eq_of_faultSources hSources]

/-- A missing name comes before an empty hash, and that before unusable ids. -/
example : Site.fault? { id := "..", name := "", mainBranch := "" }
    { id := "", slug := "", password := some { hash := "" } } = some (.missingSiteName "..") := by
  decide

end Platform

end TenantRoutes
