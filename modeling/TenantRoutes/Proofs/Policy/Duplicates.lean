import Mathlib.Data.List.Count
import Mathlib.Data.List.Dedup
import Mathlib.Data.List.Perm.Basic
import TenantRoutes.Proofs.Policy.WellFormed

/-! Which duplicates validation reports. Its walks through sites and branches keep the keys they
have met and blame a later bearer of a key, so of the bearers of one key all but the first are
reported. Apart from the order within a site, the problems are those that every branch has by itself
followed by these repetitions. -/
namespace TenantRoutes

theorem flatMap_zipIdx_cons {α β : Type} (f : α × Nat → List β) (x : α) (rest : List α) :
    (x :: rest).zipIdx.flatMap f =
      f (x, 0) ++ rest.zipIdx.flatMap fun entry => f (entry.1, entry.2 + 1) := by
  rw [List.zipIdx_cons, List.flatMap_cons, List.zipIdx_succ, List.flatMap_map]

section Repetition

variable {α κ : Type} [BEq κ] (key : α → κ)

/-- The elements with a key that is given or belongs to an element before them. -/
def repeats (seen : List κ) : List α → List α
  | [] => []
  | x :: rest => (if seen.contains (key x) then [x] else []) ++ repeats (key x :: seen) rest

/-- The repetitions by their places. -/
theorem repeats_eq_flatMap (seen : List κ) (xs : List α) :
    repeats key seen xs = xs.zipIdx.flatMap fun entry =>
      if seen.contains (key entry.1) || ((xs.take entry.2).map key).contains (key entry.1)
      then [entry.1] else [] := by
  induction xs generalizing seen with
  | nil => rfl
  | cons x rest ih =>
      rw [repeats, ih, flatMap_zipIdx_cons]
      simp only [List.take_zero, List.take_succ_cons, List.map_nil, List.map_cons,
        List.contains_nil, List.contains_cons, Bool.or_false, Bool.or_left_comm, Bool.or_assoc]

variable [LawfulBEq κ]

/-- Of the elements with one key all repeat it but the first, and that one too if the key is
given. -/
theorem count_map_repeats (seen : List κ) (xs : List α) (k : κ) :
    ((repeats key seen xs).map key).count k =
      if k ∈ seen then (xs.map key).count k else (xs.map key).count k - 1 := by
  -- Behind an element its own key is given, so the walk changes from the second case to the first
  -- exactly where it meets the key.
  induction xs generalizing seen with
  | nil => simp [repeats]
  | cons x rest ih =>
      rw [repeats, List.map_append, List.count_append, ih, List.map_cons, List.count_cons]
      by_cases hSame : key x = k
      · subst hSame
        by_cases hSeen : key x ∈ seen
        · simp [hSeen, Nat.add_comm]
        · simp [hSeen]
      · have hOther : k ≠ key x := Ne.symm hSame
        have hHead : ((if seen.contains (key x) then [x] else []).map key).count k = 0 := by
          split <;> simp [hSame]
        rw [hHead]
        simp [hSame, hOther]

/-- Walking through the elements that are kept, only those enter the keys met so far. -/
theorem repeats_filter_cons (keep : α → Bool) (seen : List κ) (x : α) (rest : List α) :
    repeats key seen ((x :: rest).filter keep) =
      (if keep x && seen.contains (key x) then [x] else []) ++
        repeats key (if keep x then key x :: seen else seen) (rest.filter keep) := by
  cases hKeep : keep x <;> simp [hKeep, repeats]

/-- The keys are those that are met for the first time and those that are repeated. -/
theorem map_perm_dedup_append_repeats [DecidableEq κ] (xs : List α) :
    (xs.map key).Perm ((xs.map key).dedup ++ (repeats key [] xs).map key) := by
  -- Removing duplicates decides equality, whereas the walk only compares.
  obtain rfl : ‹BEq κ› = instBEqOfDecidableEq := lawful_beq_subsingleton _ _
  rw [List.perm_iff_count]
  intro k
  rw [List.count_append, List.count_dedup, count_map_repeats, if_neg List.not_mem_nil]
  split
  case isTrue hMem =>
    have hPos : 0 < (xs.map key).count k := List.count_pos_iff.mpr hMem
    omega
  case isFalse hNotMem => rw [List.count_eq_zero.mpr hNotMem]

/-- A name that stands in a list some times is repeated one time less. -/
theorem count_repeats_names (names : List String) (name : String) :
    (repeats (fun name => name) [] names).count name = names.count name - 1 := by
  have hCount := count_map_repeats (fun name => name) [] names name
  rwa [List.map_id', List.map_id', if_neg List.not_mem_nil] at hCount

end Repetition

/-- The reports of a walk about the repetitions in it. -/
theorem map_repeats_report {α : Type} {condition : Bool} {x : α} {report : α → Problem} :
    (if condition then [x] else []).map report = reportIf condition (report x) := by
  cases condition <;> rfl

namespace Problem

/-- The problems that come of comparing an id or a slug with those before it. -/
def isDuplicate : Problem → Bool
  | duplicateSite _ | duplicateBranch _ _ | duplicateSlug _ _ => true
  | _ => false

def isDuplicateSlug : Problem → Bool
  | duplicateSlug _ _ => true
  | _ => false

theorem isDuplicate_of_isDuplicateSlug {problem : Problem}
    (hSlug : problem.isDuplicateSlug = true) : problem.isDuplicate = true := by
  cases problem with
  | duplicateSlug _ _ => rfl
  | _ => exact Bool.noConfusion hSlug

end Problem

namespace Branch

/-- An unusable id is a problem by itself and no repetition. -/
theorem idProblems_eq (site : String) (earlier : List String) (branch : Branch) :
    branch.idProblems site earlier = branch.idProblems site [] ++
      reportIf (isDirectoryName branch.id && earlier.contains branch.id)
        (.duplicateBranch site branch.id) := by
  unfold idProblems
  by_cases hEmpty : branch.id = ""
  · have hName : isDirectoryName "" = false := by decide
    simp [hEmpty, hName, reportIf]
  · cases hName : isDirectoryName branch.id <;> simp [hEmpty, reportIf]

theorem slugProblems_eq (site : String) (earlier : List (List Char)) (branch : Branch) :
    branch.slugProblems site earlier = branch.slugProblems site [] ++
      reportIf (isLabelText branch.slug && earlier.contains (Text.foldCase branch.slug))
        (.duplicateSlug site branch.slug) := by
  unfold slugProblems
  cases hSlug : isLabelText branch.slug <;> simp [reportIf]

/-- The problems of a branch whatever the branches before it. -/
def ownProblems (site : String) (branch : Branch) : List Problem :=
  branch.idProblems site [] ++ branch.slugProblems site [] ++ branch.contentProblems site

/-- What a branch has by itself is no repetition. -/
theorem isDuplicate_of_mem_ownProblems {site : String} {branch : Branch} {problem : Problem}
    (hMem : problem ∈ branch.ownProblems site) : problem.isDuplicate = false := by
  rw [ownProblems, List.mem_append, List.mem_append] at hMem
  rcases hMem with (hId | hSlug) | hContent
  · rcases mem_arm hId with rfl | hRest
    · rfl
    · rcases mem_arm hRest with rfl | hNever
      · rfl
      · exact absurd hNever List.not_mem_nil
  · rcases mem_arm hSlug with rfl | hNever
    · rfl
    · exact absurd hNever List.not_mem_nil
  · rw [contentProblems, List.mem_append, List.mem_flatMap] at hContent
    rcases hContent with hHeaders | ⟨redirect, _, hRedirect⟩
    · rw [mem_reportIf hHeaders]
      rfl
    · rw [mem_reportIf hRedirect]
      rfl

end Branch

/-- The order of the problems apart, the walk over the branches finds what each branch has by
itself, the repeated ones of the usable ids and the repeated ones of the usable slugs. -/
theorem branchProblems_perm (site : String) (ids : List String) (slugs : List (List Char))
    (branches : List Branch) :
    (branchProblems site ids slugs branches).Perm
      (branches.flatMap (·.ownProblems site)
        ++ (repeats (fun name => name) ids ((branches.map (·.id)).filter isDirectoryName)).map
          (.duplicateBranch site)
        ++ (repeats Text.foldCase slugs ((branches.map (·.slug)).filter isLabelText)).map
          (.duplicateSlug site)) := by
  induction branches generalizing ids slugs with
  | nil => exact .refl _
  | cons branch rest ih =>
      rw [branchProblems, Branch.idProblems_eq, Branch.slugProblems_eq, List.flatMap_cons,
        Branch.ownProblems, List.map_cons, List.map_cons, repeats_filter_cons, repeats_filter_cons,
        List.map_append, List.map_append, map_repeats_report, map_repeats_report]
      -- Both sides are appended from the same lists; counting forgets where each of them stands.
      rw [List.perm_iff_count]
      intro problem
      have hRest := (ih (if isDirectoryName branch.id then branch.id :: ids else ids)
        (if isLabelText branch.slug then Text.foldCase branch.slug :: slugs else slugs)).count_eq
          problem
      simp only [List.count_append] at hRest ⊢
      omega

namespace Site

/-- The ids of the branches that can be directory names. -/
def usableIds (site : Site) : List String :=
  (site.branches.map (·.id)).filter isDirectoryName

/-- The slugs of the branches that are DNS labels. -/
def usableSlugs (site : Site) : List String :=
  (site.branches.map (·.slug)).filter isLabelText

/-- The usable ids that equal one before them. -/
def repeatedIds (site : Site) : List String :=
  repeats (fun name => name) [] site.usableIds

/-- The usable slugs that agree with one before them ignoring case. -/
def repeatedSlugs (site : Site) : List String :=
  repeats Text.foldCase [] site.usableSlugs

/-- The problems of a site that are no repetitions. -/
def plainProblems (site : Site) : List Problem :=
  site.namingProblems ++ site.mainBranchProblems ++ site.domainProblems
    ++ site.branches.flatMap (·.ownProblems site.id)
    ++ reportIf (hasUnnamedHeader site.headers) (.emptyHeaderName site.id)

theorem problems_perm (site : Site) :
    site.problems.Perm (site.plainProblems ++ site.repeatedIds.map (.duplicateBranch site.id)
      ++ site.repeatedSlugs.map (.duplicateSlug site.id)) := by
  rw [List.perm_iff_count]
  intro problem
  have hBranches := (branchProblems_perm site.id [] [] site.branches).count_eq problem
  simp only [problems, plainProblems, repeatedIds, usableIds, repeatedSlugs, usableSlugs,
    List.count_append] at hBranches ⊢
  omega

theorem isDuplicate_of_mem_plainProblems {site : Site} {problem : Problem}
    (hMem : problem ∈ site.plainProblems) : problem.isDuplicate = false := by
  simp only [plainProblems, List.mem_append, List.mem_flatMap] at hMem
  rcases hMem with (((hNaming | hMain) | hDomain) | ⟨branch, _, hOwn⟩) | hHeaders
  · rcases List.mem_append.mp hNaming with hId | hName
    · rcases mem_arm hId with rfl | hReport
      · rfl
      · rw [mem_reportIf hReport]
        rfl
    · rcases mem_arm hName with rfl | hReport
      · rfl
      · rw [mem_reportIf hReport]
        rfl
  · rw [mem_reportIf hMain]
    rfl
  · obtain ⟨domain, _, hReport⟩ := List.mem_flatMap.mp hDomain
    rw [mem_reportIf hReport]
    rfl
  · exact Branch.isDuplicate_of_mem_ownProblems hOwn
  · rw [mem_reportIf hHeaders]
    rfl

theorem count_duplicateSite (site : Site) (id : String) :
    site.problems.count (.duplicateSite id) = 0 := by
  rw [List.count_eq_zero, site.problems_perm.mem_iff]
  simp only [List.mem_append, List.mem_map, not_or]
  refine ⟨⟨fun hPlain => ?_, ?_⟩, ?_⟩
  · exact Bool.noConfusion (isDuplicate_of_mem_plainProblems hPlain)
  · rintro ⟨_, _, hSame⟩
    exact Problem.noConfusion hSame
  · rintro ⟨_, _, hSame⟩
    exact Problem.noConfusion hSame

/-- A usable id that some branches have is reported for all of them but one. -/
theorem count_duplicateBranch (site : Site) (owner id : String) :
    site.problems.count (.duplicateBranch owner id) =
      if owner = site.id ∧ isDirectoryName id = true then (site.branches.map (·.id)).count id - 1
      else 0 := by
  have hPlain : site.plainProblems.count (.duplicateBranch owner id) = 0 :=
    List.count_eq_zero.mpr fun hMem =>
      Bool.noConfusion (isDuplicate_of_mem_plainProblems hMem)
  have hSlugs : (site.repeatedSlugs.map (Problem.duplicateSlug site.id)).count
      (.duplicateBranch owner id) = 0 := by
    simp [List.count_eq_zero]
  rw [site.problems_perm.count_eq, List.count_append, List.count_append, hPlain, hSlugs,
    Nat.zero_add, Nat.add_zero]
  by_cases hOwner : owner = site.id
  · subst hOwner
    have hInjective : Function.Injective (Problem.duplicateBranch site.id) :=
      fun _ _ hSame => (Problem.duplicateBranch.inj hSame).2
    rw [List.count_map_of_injective _ _ hInjective, repeatedIds, count_repeats_names]
    by_cases hName : isDirectoryName id = true
    · rw [usableIds, List.count_filter hName, if_pos ⟨rfl, hName⟩]
    · have hNone : site.usableIds.count id = 0 :=
        List.count_eq_zero.mpr fun hMem => hName (List.mem_filter.mp hMem).2
      rw [hNone, if_neg fun hBoth => hName hBoth.2]
  · rw [if_neg fun hBoth => hOwner hBoth.1, List.count_eq_zero, List.mem_map]
    rintro ⟨_, _, hSame⟩
    exact hOwner (Problem.duplicateBranch.inj hSame).1.symm

/-- The repeated slugs are reported, each with its own spelling. -/
theorem filter_isDuplicateSlug (site : Site) :
    (site.problems.filter (·.isDuplicateSlug)).Perm
      (site.repeatedSlugs.map (.duplicateSlug site.id)) := by
  refine (site.problems_perm.filter _).trans (.of_eq ?_)
  have hPlain : site.plainProblems.filter (·.isDuplicateSlug) = [] := by
    refine List.filter_eq_nil_iff.mpr fun problem hMem hSlug => ?_
    have hNone := isDuplicate_of_mem_plainProblems hMem
    rw [Problem.isDuplicate_of_isDuplicateSlug hSlug] at hNone
    exact Bool.noConfusion hNone
  have hIds : (site.repeatedIds.map (Problem.duplicateBranch site.id)).filter
      (·.isDuplicateSlug) = [] :=
    List.filter_eq_nil_iff.mpr (by simp [Problem.isDuplicateSlug])
  have hSlugs : (site.repeatedSlugs.map (Problem.duplicateSlug site.id)).filter
      (·.isDuplicateSlug) = site.repeatedSlugs.map (.duplicateSlug site.id) :=
    List.filter_eq_self.mpr (by simp [Problem.isDuplicateSlug])
  rw [List.filter_append, List.filter_append, hPlain, hIds, hSlugs]
  rfl

theorem length_repeatedSlugs (site : Site) :
    site.repeatedSlugs.length + (site.usableSlugs.map Text.foldCase).dedup.length =
      site.usableSlugs.length := by
  have hLength := (map_perm_dedup_append_repeats Text.foldCase site.usableSlugs).length_eq
  rw [List.length_append, List.length_map, List.length_map] at hLength
  rw [hLength, Nat.add_comm, repeatedSlugs]

end Site

/-- The walk over the sites by their places. -/
theorem siteProblems_eq_flatMap (earlier : List String) (sites : List Site) :
    siteProblems earlier sites = sites.zipIdx.flatMap fun entry =>
      reportIf (earlier.contains entry.1.id ||
          ((sites.take entry.2).map (·.id)).contains entry.1.id)
        (.duplicateSite entry.1.id) ++ entry.1.problems := by
  induction sites generalizing earlier with
  | nil => rfl
  | cons site rest ih =>
      rw [siteProblems, ih, flatMap_zipIdx_cons]
      simp only [List.take_zero, List.take_succ_cons, List.map_nil, List.map_cons,
        List.contains_nil, List.contains_cons, Bool.or_false, Bool.or_left_comm, Bool.or_assoc]

/-- The order of the problems apart, the walk over the sites finds what each site has by itself and
the repeated ids. -/
theorem siteProblems_perm (earlier : List String) (sites : List Site) :
    (siteProblems earlier sites).Perm (sites.flatMap (·.problems)
      ++ (repeats (fun name => name) earlier (sites.map (·.id))).map .duplicateSite) := by
  induction sites generalizing earlier with
  | nil => exact .refl _
  | cons site rest ih =>
      rw [siteProblems, List.flatMap_cons, List.map_cons, repeats, List.map_append,
        map_repeats_report, List.perm_iff_count]
      intro problem
      have hRest := (ih (site.id :: earlier)).count_eq problem
      simp only [List.count_append] at hRest ⊢
      omega

/-- An id that some sites have is reported for all of them but one. -/
theorem Policy.count_duplicateSite (policy : Policy) (id : String) :
    policy.problems.count (.duplicateSite id) = (policy.sites.map (·.id)).count id - 1 := by
  have hPlatform : policy.platform.problems.count (.duplicateSite id) = 0 := by
    refine List.count_eq_zero.mpr fun hMem => ?_
    rcases mem_arm hMem with hSame | hReport
    · exact Problem.noConfusion hSame
    · exact Problem.noConfusion (mem_reportIf hReport)
  have hSites : (policy.sites.flatMap (·.problems)).count (.duplicateSite id) = 0 := by
    refine List.count_eq_zero.mpr fun hMem => ?_
    obtain ⟨site, _, hOwn⟩ := List.mem_flatMap.mp hMem
    exact List.count_eq_zero.mp (site.count_duplicateSite id) hOwn
  have hInjective : Function.Injective Problem.duplicateSite :=
    fun _ _ hSame => Problem.duplicateSite.inj hSame
  rw [problems, List.count_append, (siteProblems_perm [] policy.sites).count_eq, List.count_append,
    List.count_map_of_injective _ _ hInjective, count_repeats_names, hPlatform, hSites,
    Nat.zero_add, Nat.zero_add]

/-- Every bearer of an id or a slug but the first is reported exactly once. Branches with unusable
ids or slugs are left out there, and slugs are compared ignoring case but reported as they are
spelt. The problems of a site are a function of this site, so no other site hides or adds any. -/
theorem Policy.problems_report_duplicates (policy : Policy) :
    policy.problems = policy.platform.problems ++ policy.sites.zipIdx.flatMap (fun entry =>
      reportIf (((policy.sites.take entry.2).map (·.id)).contains entry.1.id)
        (.duplicateSite entry.1.id) ++ entry.1.problems) ∧
    (∀ id, policy.problems.count (.duplicateSite id) = (policy.sites.map (·.id)).count id - 1) ∧
    ∀ site : Site,
      (∀ owner id, site.problems.count (.duplicateBranch owner id) =
        if owner = site.id ∧ isDirectoryName id = true
        then (site.branches.map (·.id)).count id - 1 else 0) ∧
      site.problems.countP (·.isDuplicateSlug)
        + (site.usableSlugs.map Text.foldCase).dedup.length = site.usableSlugs.length ∧
      (site.problems.filter (·.isDuplicateSlug)).Perm
        (site.usableSlugs.zipIdx.flatMap fun entry =>
          reportIf (((site.usableSlugs.take entry.2).map Text.foldCase).contains
              (Text.foldCase entry.1))
            (.duplicateSlug site.id entry.1)) := by
  refine ⟨?_, policy.count_duplicateSite, fun site => ⟨site.count_duplicateBranch, ?_, ?_⟩⟩
  · rw [problems, siteProblems_eq_flatMap]
    simp only [List.contains_nil, Bool.false_or]
  · rw [List.countP_eq_length_filter, site.filter_isDuplicateSlug.length_eq, List.length_map,
      site.length_repeatedSlugs]
  · refine site.filter_isDuplicateSlug.trans (.of_eq ?_)
    rw [Site.repeatedSlugs, repeats_eq_flatMap, List.map_flatMap]
    simp only [List.contains_nil, Bool.false_or, map_repeats_report]

end TenantRoutes
