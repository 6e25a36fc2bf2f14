import Mathlib.Data.List.Nodup
import TenantRoutes.Policy.Validation
import TenantRoutes.Proofs.Policy.Naming

/-! What a policy without problems is. Validation walks through sites and branches with the ids and
slugs it has met; the conditions below do not mention such a walk. An unusable id or slug is never
compared with later ones, yet this loses nothing, as it is a problem by itself. -/
namespace TenantRoutes

theorem reportIf_eq_nil {condition : Bool} {problem : Problem} :
    reportIf condition problem = [] ↔ condition = false := by
  cases condition <;> simp [reportIf]

/-- What an arm of a check reports is its problem or comes from the arms behind it. -/
theorem mem_arm {condition : Bool} {problem other : Problem} {rest : List Problem}
    (hMem : other ∈ if condition then [problem] else rest) : other = problem ∨ other ∈ rest := by
  cases condition with
  | false => exact .inr hMem
  | true => exact .inl (List.mem_singleton.mp hMem)

theorem mem_reportIf {condition : Bool} {problem other : Problem}
    (hMem : other ∈ reportIf condition problem) : other = problem :=
  (mem_arm hMem).resolve_right List.not_mem_nil

/-- A check that refuses the empty text loses nothing where emptiness is reported by itself. -/
theorem checkedText_eq_nil_iff {text : String} {isGood : String → Bool} {empty bad : Problem}
    (hEmpty : isGood "" = false) :
    (if text.isEmpty then [empty] else reportIf (!isGood text) bad) = [] ↔ isGood text = true := by
  by_cases hText : text = ""
  · simp [hText, hEmpty]
  · simp [String.isEmpty_iff, hText, reportIf_eq_nil]

/-- What is asked of a branch by itself. -/
structure Branch.WellFormed (branch : Branch) : Prop where
  id : isDirectoryName branch.id = true
  slug : isLabelText branch.slug = true
  headers : hasUnnamedHeader branch.headers = false
  redirects : ∀ redirect ∈ branch.redirects, redirect.path.toList.head? = some '/'

/-- What is asked of a site by itself. -/
structure Site.WellFormed (site : Site) : Prop where
  id : isDirectoryName site.id = true
  name : isLabelText site.name = true
  mainBranch : site.branches ≠ [] → ∃ branch ∈ site.branches, branch.id = site.mainBranch
  domains : ∀ domain ∈ site.domains, isHostname domain.name = true
  branches : ∀ branch ∈ site.branches, branch.WellFormed
  branchIds : (site.branches.map (·.id)).Nodup
  slugs : (site.branches.map fun branch => Text.foldCase branch.slug).Nodup
  headers : hasUnnamedHeader site.headers = false

structure Policy.WellFormed (policy : Policy) : Prop where
  sitesDomain : isHostname policy.platform.sitesDomain = true
  siteIds : (policy.sites.map (·.id)).Nodup
  sites : ∀ site ∈ policy.sites, site.WellFormed

/-- A blank domain is reported as empty, but it is no host name either. -/
theorem Platform.problems_eq_nil_iff {platform : Platform} :
    platform.problems = [] ↔ isHostname platform.sitesDomain = true := by
  unfold problems
  cases hBlank : Text.isBlankText platform.sitesDomain with
  | false => simp [reportIf_eq_nil]
  | true =>
      have hNoHost : isHostname platform.sitesDomain ≠ true := by
        intro hHost
        simp [isBlankText_eq_false_of_isHostname hHost] at hBlank
      simp [hNoHost]

namespace Branch

theorem idProblems_eq_nil_iff {site : String} {earlier : List String} {branch : Branch} :
    branch.idProblems site earlier = [] ↔
      isDirectoryName branch.id = true ∧ branch.id ∉ earlier := by
  unfold idProblems
  by_cases hEmpty : branch.id = ""
  · have hName : isDirectoryName branch.id = false :=
      eq_false_of_ne_true fun h => ne_empty_of_isDirectoryName h hEmpty
    simp [hEmpty ▸ hName, hEmpty]
  · cases hName : isDirectoryName branch.id <;> simp [hEmpty, reportIf_eq_nil]

theorem slugProblems_eq_nil_iff {site : String} {earlier : List (List Char)} {branch : Branch} :
    branch.slugProblems site earlier = [] ↔
      isLabelText branch.slug = true ∧ Text.foldCase branch.slug ∉ earlier := by
  unfold slugProblems
  cases hSlug : isLabelText branch.slug <;> simp [reportIf_eq_nil]

theorem contentProblems_eq_nil_iff {site : String} {branch : Branch} :
    branch.contentProblems site = [] ↔ hasUnnamedHeader branch.headers = false ∧
      ∀ redirect ∈ branch.redirects, redirect.path.toList.head? = some '/' := by
  simp [contentProblems, reportIf_eq_nil]

end Branch

/-- One step of a walk that keeps the keys it has met. -/
theorem distinct_cons_iff {α κ : Type} (key : α → κ) (seen : List κ) (x : α) (rest : List α) :
    (((x :: rest).map key).Nodup ∧ ∀ y ∈ x :: rest, key y ∉ seen) ↔
      key x ∉ seen ∧ (rest.map key).Nodup ∧ ∀ y ∈ rest, key y ∉ key x :: seen := by
  rw [List.map_cons, List.nodup_cons, List.forall_mem_cons]
  constructor
  · rintro ⟨⟨hNotIn, hNodup⟩, hx, hRest⟩
    refine ⟨hx, hNodup, fun y hy => ?_⟩
    rw [List.mem_cons, not_or]
    exact ⟨fun hSame => hNotIn (List.mem_map.mpr ⟨y, hy, hSame⟩), hRest y hy⟩
  · rintro ⟨hx, hNodup, hRest⟩
    refine ⟨⟨fun hMem => ?_, hNodup⟩, hx, fun y hy hSeen => ?_⟩
    · obtain ⟨y, hy, hSame⟩ := List.mem_map.mp hMem
      exact hRest y hy (List.mem_cons.mpr (Or.inl hSame))
    · exact hRest y hy (List.mem_cons_of_mem _ hSeen)

/-- The walk over the branches keeps the usable ids and slugs met so far. Where it reports nothing,
these are all ids and slugs met so far, so every branch is compared with each one before it. -/
theorem branchProblems_eq_nil_iff {site : String} {ids : List String} {slugs : List (List Char)}
    {branches : List Branch} :
    branchProblems site ids slugs branches = [] ↔
      (∀ branch ∈ branches, branch.WellFormed) ∧
      ((branches.map (·.id)).Nodup ∧ ∀ branch ∈ branches, branch.id ∉ ids) ∧
      ((branches.map fun branch => Text.foldCase branch.slug).Nodup ∧
        ∀ branch ∈ branches, Text.foldCase branch.slug ∉ slugs) := by
  induction branches generalizing ids slugs with
  | nil => simp [branchProblems]
  | cons branch rest ih =>
      rw [branchProblems, List.append_eq_nil_iff, List.append_eq_nil_iff, List.append_eq_nil_iff,
        Branch.idProblems_eq_nil_iff, Branch.slugProblems_eq_nil_iff,
        Branch.contentProblems_eq_nil_iff, distinct_cons_iff, distinct_cons_iff,
        List.forall_mem_cons]
      constructor
      · rintro ⟨⟨⟨⟨hId, hNewId⟩, hSlug, hNewSlug⟩, hHeaders, hRedirects⟩, hRest⟩
        rw [if_pos hId, if_pos hSlug, ih] at hRest
        obtain ⟨hBranches, hIds, hSlugs⟩ := hRest
        exact ⟨⟨⟨hId, hSlug, hHeaders, hRedirects⟩, hBranches⟩, ⟨hNewId, hIds⟩, hNewSlug, hSlugs⟩
      · rintro ⟨⟨hBranch, hBranches⟩, ⟨hNewId, hIds⟩, hNewSlug, hSlugs⟩
        refine ⟨⟨⟨⟨hBranch.id, hNewId⟩, hBranch.slug, hNewSlug⟩, hBranch.headers,
          hBranch.redirects⟩, ?_⟩
        rw [if_pos hBranch.id, if_pos hBranch.slug, ih]
        exact ⟨hBranches, hIds, hSlugs⟩

namespace Site

theorem namingProblems_eq_nil_iff {site : Site} :
    site.namingProblems = [] ↔
      isDirectoryName site.id = true ∧ isLabelText site.name = true := by
  rw [namingProblems, List.append_eq_nil_iff, checkedText_eq_nil_iff (by decide),
    checkedText_eq_nil_iff (by decide)]

theorem mainBranchProblems_eq_nil_iff {site : Site} :
    site.mainBranchProblems = [] ↔
      (site.branches ≠ [] → ∃ branch ∈ site.branches, branch.id = site.mainBranch) := by
  rw [mainBranchProblems, reportIf_eq_nil, branch?]
  cases hBranches : site.branches with
  | nil => simp
  | cons first rest => simp

theorem domainProblems_eq_nil_iff {site : Site} :
    site.domainProblems = [] ↔ ∀ domain ∈ site.domains, isHostname domain.name = true := by
  simp [domainProblems, reportIf_eq_nil]

theorem problems_eq_nil_iff {site : Site} : site.problems = [] ↔ site.WellFormed := by
  rw [problems, List.append_eq_nil_iff, List.append_eq_nil_iff, List.append_eq_nil_iff,
    List.append_eq_nil_iff, namingProblems_eq_nil_iff, mainBranchProblems_eq_nil_iff,
    domainProblems_eq_nil_iff, branchProblems_eq_nil_iff, reportIf_eq_nil]
  constructor
  · rintro ⟨⟨⟨⟨⟨hId, hName⟩, hMain⟩, hDomains⟩, hBranches, ⟨hIds, _⟩, hSlugs, _⟩, hHeaders⟩
    exact ⟨hId, hName, hMain, hDomains, hBranches, hIds, hSlugs, hHeaders⟩
  · rintro ⟨hId, hName, hMain, hDomains, hBranches, hIds, hSlugs, hHeaders⟩
    exact ⟨⟨⟨⟨⟨hId, hName⟩, hMain⟩, hDomains⟩, hBranches, ⟨hIds, by simp⟩, hSlugs, by simp⟩,
      hHeaders⟩

end Site

theorem siteProblems_eq_nil_iff {earlier : List String} {sites : List Site} :
    siteProblems earlier sites = [] ↔
      (∀ site ∈ sites, site.WellFormed) ∧
      ((sites.map (·.id)).Nodup ∧ ∀ site ∈ sites, site.id ∉ earlier) := by
  induction sites generalizing earlier with
  | nil => simp [siteProblems]
  | cons site rest ih =>
      rw [siteProblems, List.append_eq_nil_iff, List.append_eq_nil_iff, reportIf_eq_nil,
        Site.problems_eq_nil_iff, ih, distinct_cons_iff, List.forall_mem_cons]
      constructor
      · rintro ⟨⟨hNew, hSite⟩, hSites, hIds⟩
        exact ⟨⟨hSite, hSites⟩, by simpa using hNew, hIds⟩
      · rintro ⟨⟨hSite, hSites⟩, hNew, hIds⟩
        exact ⟨⟨by simpa using hNew, hSite⟩, hSites, hIds⟩

/-- Validation accepts a policy exactly when it is well formed. -/
theorem Policy.isValid_iff_wellFormed {policy : Policy} :
    policy.isValid = true ↔ policy.WellFormed := by
  rw [isValid, List.isEmpty_iff, problems, List.append_eq_nil_iff, Platform.problems_eq_nil_iff,
    siteProblems_eq_nil_iff]
  constructor
  · rintro ⟨hDomain, hSites, hIds, _⟩
    exact ⟨hDomain, hIds, hSites⟩
  · rintro ⟨hDomain, hIds, hSites⟩
    exact ⟨hDomain, hSites, hIds, by simp⟩

end TenantRoutes
