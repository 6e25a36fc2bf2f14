import Mathlib.Data.List.Forall2
import TenantRoutes.Proofs.Policy.Duplicates

/-! Validation and the order in which a policy declares things. Which bearer of a repeated key is
blamed depends on this order, but how many are blamed does not, and bearers of one id are named
alike. Only a slug may be reported in the spelling of another branch. -/
namespace TenantRoutes

/-- Two lists with related elements, where those of the second list stand in any order. -/
def Rearranged {α : Type} (related : α → α → Prop) (before after : List α) : Prop :=
  ∃ middle, before.Perm middle ∧ List.Forall₂ related middle after

namespace Rearranged

variable {α β : Type} {related : α → α → Prop} {before after : List α}

theorem of_perm (hRefl : ∀ x, related x x) (hPerm : before.Perm after) :
    Rearranged related before after :=
  ⟨after, hPerm, List.forall₂_same.mpr fun x _ => hRefl x⟩

theorem flatMap_perm (hList : Rearranged related before after) {f : α → List β}
    (hEach : ∀ x y, related x y → (f x).Perm (f y)) :
    (before.flatMap f).Perm (after.flatMap f) := by
  obtain ⟨middle, hPerm, hAll⟩ := hList
  refine (hPerm.flatMap_right f).trans ?_
  -- The elements stand in line now, so the second half is an induction along both lists.
  clear hPerm
  induction hAll with
  | nil => exact .refl _
  | cons hHead _ ih =>
      rw [List.flatMap_cons, List.flatMap_cons]
      exact (hEach _ _ hHead).append ih

theorem map_perm (hList : Rearranged related before after) {f : α → β}
    (hEach : ∀ x y, related x y → f x = f y) : (before.map f).Perm (after.map f) := by
  rw [List.map_eq_flatMap, List.map_eq_flatMap]
  exact hList.flatMap_perm fun x y hRelated => .of_eq (by rw [hEach x y hRelated])

end Rearranged

/-- The branch with its redirects and headers in any order. -/
inductive Branch.Reordered (branch : Branch) : Branch → Prop where
  | intro (redirects : List Redirect) (headers : List Header)
      (hRedirects : branch.redirects.Perm redirects) (hHeaders : branch.headers.Perm headers) :
      Reordered branch { branch with redirects := redirects, headers := headers }

/-- The site with its domains, headers and branches in any order, and so within each branch. -/
inductive Site.Reordered (site : Site) : Site → Prop where
  | intro (domains : List Domain) (headers : List Header) (branches : List Branch)
      (hDomains : site.domains.Perm domains) (hHeaders : site.headers.Perm headers)
      (hBranches : Rearranged Branch.Reordered site.branches branches) :
      Reordered site { site with domains := domains, headers := headers, branches := branches }

/-- The policy with its sites in any order, and so within each site. -/
inductive Policy.Reordered (policy : Policy) : Policy → Prop where
  | intro (sites : List Site) (hSites : Rearranged Site.Reordered policy.sites sites) :
      Reordered policy { policy with sites := sites }

/-- The problem with a repeated slug in lower case, as the slugs are compared. -/
def Problem.foldSlug : Problem → Problem
  | duplicateSlug site slug => duplicateSlug site (Text.lower slug)
  | problem => problem

/-- Which keys are repeated, and how often, does not depend on the order. -/
theorem map_repeats_perm {α κ : Type} [BEq κ] [LawfulBEq κ] {key : α → κ} {xs ys : List α}
    (hKeys : (xs.map key).Perm (ys.map key)) :
    ((repeats key [] xs).map key).Perm ((repeats key [] ys).map key) := by
  rw [List.perm_iff_count]
  intro k
  rw [count_map_repeats, count_map_repeats, hKeys.count_eq]

theorem repeats_names_perm {names others : List String} (hNames : names.Perm others) :
    (repeats (fun name => name) [] names).Perm (repeats (fun name => name) [] others) := by
  have hRepeats := map_repeats_perm (hNames.map fun name => name)
  rwa [List.map_id', List.map_id'] at hRepeats

theorem hasUnnamedHeader_perm {headers others : List Header} (hHeaders : headers.Perm others) :
    hasUnnamedHeader headers = hasUnnamedHeader others :=
  hHeaders.any_eq

namespace Branch.Reordered

variable {branch other : Branch}

theorem refl (branch : Branch) : branch.Reordered branch :=
  .intro branch.redirects branch.headers (.refl _) (.refl _)

theorem id_eq (hBranch : branch.Reordered other) : branch.id = other.id := by
  cases hBranch
  rfl

theorem slug_eq (hBranch : branch.Reordered other) : branch.slug = other.slug := by
  cases hBranch
  rfl

theorem ownProblems_perm (site : String) (hBranch : branch.Reordered other) :
    (branch.ownProblems site).Perm (other.ownProblems site) := by
  cases hBranch with
  | intro redirects headers hRedirects hHeaders =>
      refine List.Perm.append_left _ ?_
      rw [contentProblems, contentProblems, hasUnnamedHeader_perm hHeaders]
      exact (hRedirects.flatMap_right _).append_left _

end Branch.Reordered

namespace Site

/-- Whether the main branch is missing is a question to the ids of the branches. -/
theorem mainBranchProblems_eq (site : Site) :
    site.mainBranchProblems =
      reportIf (!(site.branches.map (·.id)).isEmpty &&
          !(site.branches.map (·.id)).contains site.mainBranch)
        (.unknownMainBranch site.id site.mainBranch) := by
  have hMissing : (site.branch? site.mainBranch).isNone =
      !(site.branches.map (·.id)).contains site.mainBranch := by
    rw [Bool.eq_iff_iff]
    simp [branch?]
  rw [mainBranchProblems, hMissing, List.isEmpty_map]

namespace Reordered

variable {site other : Site}

theorem refl (site : Site) : site.Reordered site :=
  .intro site.domains site.headers site.branches (.refl _) (.refl _)
    (.of_perm Branch.Reordered.refl (.refl _))

theorem id_eq (hSite : site.Reordered other) : site.id = other.id := by
  cases hSite
  rfl

theorem branchIds_perm (hSite : site.Reordered other) :
    (site.branches.map (·.id)).Perm (other.branches.map (·.id)) := by
  cases hSite with
  | intro _ _ _ _ _ hBranches => exact hBranches.map_perm fun _ _ hBranch => hBranch.id_eq

theorem slugs_perm (hSite : site.Reordered other) :
    (site.branches.map (·.slug)).Perm (other.branches.map (·.slug)) := by
  cases hSite with
  | intro _ _ _ _ _ hBranches => exact hBranches.map_perm fun _ _ hBranch => hBranch.slug_eq

theorem mainBranchProblems_eq (hSite : site.Reordered other) :
    site.mainBranchProblems = other.mainBranchProblems := by
  have hIds := hSite.branchIds_perm
  rw [Site.mainBranchProblems_eq, Site.mainBranchProblems_eq, hIds.isEmpty_eq, hIds.contains_eq]
  cases hSite
  rfl

theorem plainProblems_perm (hSite : site.Reordered other) :
    site.plainProblems.Perm other.plainProblems := by
  rw [plainProblems, plainProblems, hSite.mainBranchProblems_eq]
  cases hSite with
  | intro domains headers branches hDomains hHeaders hBranches =>
      rw [hasUnnamedHeader_perm hHeaders]
      have hDomainProblems : site.domainProblems.Perm
          { site with domains, headers, branches }.domainProblems := hDomains.flatMap_right _
      have hOwn := hBranches.flatMap_perm fun _ _ hBranch => hBranch.ownProblems_perm site.id
      exact ((hDomainProblems.append_left _).append hOwn).append_right _

/-- An unusable id or slug is so wherever its branch stands, so the same ones are compared. -/
theorem repeatedIds_perm (hSite : site.Reordered other) :
    site.repeatedIds.Perm other.repeatedIds :=
  repeats_names_perm (hSite.branchIds_perm.filter _)

theorem foldedRepeatedSlugs_perm (hSite : site.Reordered other) :
    (site.repeatedSlugs.map Text.foldCase).Perm (other.repeatedSlugs.map Text.foldCase) :=
  map_repeats_perm ((hSite.slugs_perm.filter _).map _)

/-- The problems of a reordered site are the same up to the spelling of repeated slugs. -/
theorem problems_perm (hSite : site.Reordered other) :
    (site.problems.map (·.foldSlug)).Perm (other.problems.map (·.foldSlug)) := by
  have hIds := hSite.repeatedIds_perm.map (Problem.duplicateBranch site.id)
  -- Folding the reported slug leaves its key, and the keys repeat alike on both sides.
  have hSlugs : ((site.repeatedSlugs.map (Problem.duplicateSlug site.id)).map (·.foldSlug)).Perm
      ((other.repeatedSlugs.map (Problem.duplicateSlug site.id)).map (·.foldSlug)) := by
    have hFolded := hSite.foldedRepeatedSlugs_perm.map fun folded =>
      Problem.duplicateSlug site.id (String.ofList folded)
    rw [List.map_map, List.map_map] at hFolded ⊢
    exact hFolded
  refine (site.problems_perm.map _).trans (.trans ?_ (other.problems_perm.map _).symm)
  rw [← hSite.id_eq]
  simp only [List.map_append]
  exact ((hSite.plainProblems_perm.map _).append (hIds.map _)).append hSlugs

end Reordered

end Site

namespace Policy

/-- Sites in another order are found to have the very same problems. -/
theorem siteProblems_perm_of_perm {sites others : List Site} (hSites : sites.Perm others) :
    (siteProblems [] sites).Perm (siteProblems [] others) := by
  refine (siteProblems_perm [] sites).trans (.trans ?_ (siteProblems_perm [] others).symm)
  exact (hSites.flatMap_right _).append ((repeats_names_perm (hSites.map _)).map _)

/-- Sites reordered within are found to have the same problems up to the spelling of repeated
slugs. -/
theorem siteProblems_perm_of_rearranged {sites others : List Site}
    (hSites : Rearranged Site.Reordered sites others) :
    ((siteProblems [] sites).map (·.foldSlug)).Perm
      ((siteProblems [] others).map (·.foldSlug)) := by
  have hIds : (sites.map (·.id)).Perm (others.map (·.id)) :=
    hSites.map_perm fun _ _ hSite => hSite.id_eq
  refine ((siteProblems_perm [] sites).map _).trans
    (.trans ?_ ((siteProblems_perm [] others).map _).symm)
  rw [List.map_append, List.map_append, List.map_flatMap, List.map_flatMap]
  exact (hSites.flatMap_perm fun _ _ hSite => hSite.problems_perm).append
    (((repeats_names_perm hIds).map _).map _)

/-- Validation does not depend on the order of declarations. Moving whole sites leaves every problem
as it is; moving things within sites may change in which spelling a repeated slug is reported, but
never which problems there are or whether there are any. -/
theorem problems_reordered (policy : Policy) :
    (∀ sites, policy.sites.Perm sites →
      policy.problems.Perm { policy with sites := sites }.problems) ∧
    ∀ other, policy.Reordered other →
      (policy.problems.map (·.foldSlug)).Perm (other.problems.map (·.foldSlug)) ∧
      policy.isValid = other.isValid := by
  refine ⟨fun sites hSites => (siteProblems_perm_of_perm hSites).append_left _, ?_⟩
  intro other hOther
  have hProblems : (policy.problems.map (·.foldSlug)).Perm (other.problems.map (·.foldSlug)) := by
    cases hOther with
    | intro sites hSites =>
        rw [problems, problems, List.map_append, List.map_append]
        exact (siteProblems_perm_of_rearranged hSites).append_left _
  refine ⟨hProblems, ?_⟩
  rw [isValid, isValid, ← List.isEmpty_map, hProblems.isEmpty_eq, List.isEmpty_map]

/-- A policy with two sites of one id, the first of them with the given branches. -/
def ofTwinSites (branches : List Branch) : Policy :=
  let site : Site := { id := "s1", name := "blog", mainBranch := "b1", branches }
  { sites := [site, { site with branches := [] }] }

/-- Two branches whose slugs differ in case alone. -/
def twinBranches : List Branch :=
  [{ id := "b1", slug := "prod" }, { id := "b2", slug := "PROD" }]

/-- With the branches the other way round it is the other spelling that repeats a slug. -/
theorem twinBranches_reordered :
    (ofTwinSites twinBranches).Reordered (ofTwinSites twinBranches.reverse) ∧
    (ofTwinSites twinBranches).problems = [.duplicateSlug "s1" "PROD", .duplicateSite "s1"] ∧
    (ofTwinSites twinBranches.reverse).problems =
      [.duplicateSlug "s1" "prod", .duplicateSite "s1"] ∧
    ((ofTwinSites twinBranches).problems.map (·.foldSlug)).Perm
      ((ofTwinSites twinBranches.reverse).problems.map (·.foldSlug)) ∧
    (ofTwinSites twinBranches).isValid = (ofTwinSites twinBranches.reverse).isValid ∧
    (ofTwinSites twinBranches).problems.Perm
      (problems { sites := (ofTwinSites twinBranches).sites.reverse }) := by
  have hReordered : (ofTwinSites twinBranches).Reordered (ofTwinSites twinBranches.reverse) := by
    have hBranches := (List.reverse_perm twinBranches).symm
    refine .intro _ ⟨_, .refl _, .cons ?_ (.cons (.refl _) .nil)⟩
    exact .intro _ _ _ (.refl _) (.refl _) (.of_perm Branch.Reordered.refl hBranches)
  obtain ⟨hProblems, hValid⟩ := (problems_reordered (ofTwinSites twinBranches)).2 _ hReordered
  refine ⟨hReordered, by decide, by decide, hProblems, hValid, ?_⟩
  exact (problems_reordered (ofTwinSites twinBranches)).1 _ (List.reverse_perm _).symm

end Policy

end TenantRoutes
