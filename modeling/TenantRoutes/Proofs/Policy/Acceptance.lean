import TenantRoutes.Policy.Load
import TenantRoutes.Proofs.Policy.WellFormed

/-! What validation accepts, in terms of texts and lists alone. Names are described by what they are
composed of and not by the checks that recognise them, and distinctness is a property of a whole
list, whatever other problems its members have. -/
namespace TenantRoutes

theorem hasUnnamedHeader_eq_false_iff {headers : List Header} :
    hasUnnamedHeader headers = false ↔
      ∀ header ∈ headers, ∃ c ∈ header.name.toList, Text.isBlank c = false := by
  simp [hasUnnamedHeader, Text.isBlankText]

theorem head?_eq_slash_iff {path : String} :
    path.toList.head? = some '/' ↔ ∃ rest, path = "/" ++ rest := by
  constructor
  · intro hHead
    obtain ⟨rest, hPath⟩ := List.head?_eq_some_iff.mp hHead
    refine ⟨String.ofList rest, ?_⟩
    rw [← String.toList_inj, hPath]
    simp
  · rintro ⟨rest, rfl⟩
    simp

theorem foldedSlugs_nodup_iff {branches : List Branch} :
    (branches.map fun branch => Text.foldCase branch.slug).Nodup ↔
      branches.Pairwise fun branch later =>
        Text.eqIgnoringCase branch.slug later.slug = false := by
  rw [List.Nodup, List.pairwise_map]
  simp [Text.eqIgnoringCase]

namespace Policy

theorem validate_eq_ok_iff {policy accepted : Policy} :
    policy.validate = .ok accepted ↔ policy.isValid = true ∧ policy = accepted := by
  rw [validate, isValid]
  cases policy.problems <;> simp

/-- Validation accepts exactly the policies whose names are usable and tell sites, branches and
slugs apart. -/
theorem validate_ok_iff (policy : Policy) :
    (∃ accepted, policy.validate = .ok accepted) ↔
      IsHostname policy.platform.sitesDomain ∧
      (policy.sites.map (·.id)).Nodup ∧
      ∀ site ∈ policy.sites,
        IsDirectoryName site.id ∧
        IsLabel site.name.toList ∧
        (site.branches = [] ∨ ∃ branch ∈ site.branches, branch.id = site.mainBranch) ∧
        (∀ domain ∈ site.domains, IsHostname domain.name) ∧
        (∀ branch ∈ site.branches, IsDirectoryName branch.id) ∧
        (site.branches.map (·.id)).Nodup ∧
        (∀ branch ∈ site.branches, IsLabel branch.slug.toList) ∧
        (site.branches.Pairwise fun branch later =>
          Text.eqIgnoringCase branch.slug later.slug = false) ∧
        (∀ header ∈ site.headers, ∃ c ∈ header.name.toList, Text.isBlank c = false) ∧
        ∀ branch ∈ site.branches,
          (∀ header ∈ branch.headers, ∃ c ∈ header.name.toList, Text.isBlank c = false) ∧
          ∀ redirect ∈ branch.redirects, ∃ rest, redirect.path = "/" ++ rest := by
  simp only [validate_eq_ok_iff, exists_eq_right', isValid_iff_wellFormed,
    ← isHostname_iff, ← isDirectoryName_iff, ← isLabel_iff, ← foldedSlugs_nodup_iff,
    ← hasUnnamedHeader_eq_false_iff, ← head?_eq_slash_iff, or_iff_not_imp_left]
  constructor
  · intro hWell
    refine ⟨hWell.sitesDomain, hWell.siteIds, fun site hSite => ?_⟩
    have hSite := hWell.sites site hSite
    exact ⟨hSite.id, hSite.name, hSite.mainBranch, hSite.domains,
      fun branch hBranch => (hSite.branches branch hBranch).id, hSite.branchIds,
      fun branch hBranch => (hSite.branches branch hBranch).slug, hSite.slugs, hSite.headers,
      fun branch hBranch =>
        ⟨(hSite.branches branch hBranch).headers, (hSite.branches branch hBranch).redirects⟩⟩
  · rintro ⟨hDomain, hIds, hSites⟩
    refine ⟨hDomain, hIds, fun site hSite => ?_⟩
    obtain ⟨hId, hName, hMain, hDomains, hBranchIds, hDistinct, hLabels, hSlugs, hHeaders,
      hContents⟩ := hSites site hSite
    refine ⟨hId, hName, hMain, hDomains, fun branch hBranch => ?_, hDistinct, hSlugs, hHeaders⟩
    exact ⟨hBranchIds branch hBranch, hLabels branch hBranch, (hContents branch hBranch).1,
      (hContents branch hBranch).2⟩

end Policy

end TenantRoutes
