import Mathlib.Data.List.Nodup
import TenantRoutes.Proofs.Compiler.PlatformRoutes
import TenantRoutes.Proofs.Policy.WellFormed
import TenantRoutes.Proofs.Text.Pieces

/-! When the identifiers of compiled routes differ. An identifier joins the id of a site and that of
a branch with a hyphen, which both may contain, so the join can be cut at different hyphens.
Distinct pairs of ids collide exactly where this happens. -/
namespace TenantRoutes

/-- What stands between `s` and `c` belongs to the branch of one pair and to the site of the
other. -/
def ShiftsHyphen (s b t c : String) : Prop :=
  ∃ middle, t = s ++ "-" ++ middle ∧ b = middle ++ "-" ++ c

/-- The text between is what `t` has beyond `s` and the hyphen. -/
instance (s b t c : String) : Decidable (ShiftsHyphen s b t c) :=
  let middle := String.ofList (t.toList.drop (s.toList.length + 1))
  decidable_of_iff (t = s ++ "-" ++ middle ∧ b = middle ++ "-" ++ c) <| by
    refine ⟨fun hCut => ⟨middle, hCut⟩, ?_⟩
    rintro ⟨between, rfl, rfl⟩
    have hMiddle : middle = between := by
      rw [← String.toList_inj]
      simp [middle]
    rw [hMiddle]
    exact ⟨rfl, rfl⟩

theorem toList_join (s b : String) : (s ++ "-" ++ b).toList = s.toList ++ '-' :: b.toList := by
  simp

theorem eq_join_iff {t s b : String} :
    t = s ++ "-" ++ b ↔ t.toList = s.toList ++ '-' :: b.toList := by
  rw [← toList_join, String.toList_inj]

theorem join_eq_join_iff {s b t c : String} :
    s ++ "-" ++ b = t ++ "-" ++ c ↔
      (s = t ∧ b = c) ∨ ShiftsHyphen s b t c ∨ ShiftsHyphen t c s b := by
  have hTexts {s b t c : String} : ShiftsHyphen s b t c ↔
      ∃ middle, t.toList = s.toList ++ '-' :: middle ∧ b.toList = middle ++ '-' :: c.toList := by
    constructor
    · rintro ⟨middle, hSite, hBranch⟩
      exact ⟨middle.toList, eq_join_iff.mp hSite, eq_join_iff.mp hBranch⟩
    · rintro ⟨middle, hSite, hBranch⟩
      refine ⟨String.ofList middle, ?_, ?_⟩
      · rw [eq_join_iff, String.toList_ofList, hSite]
      · rw [eq_join_iff, String.toList_ofList, hBranch]
  rw [eq_join_iff, toList_join, Text.append_cons_eq_append_cons_iff, hTexts, hTexts, String.toList_inj,
    String.toList_inj]

theorem not_shiftsHyphen_self (s b c : String) : ¬ ShiftsHyphen s b s c := by
  rintro ⟨middle, hSite, _⟩
  have hLength := congrArg List.length (eq_join_iff.mp hSite)
  simp at hLength

theorem Platform.routeId_eq_iff (platform : Platform) {site other : Site}
    {branch second : Branch} :
    platform.routeId site branch = platform.routeId other second ↔
      (site.id = other.id ∧ branch.id = second.id) ∨
        ShiftsHyphen site.id branch.id other.id second.id ∨
        ShiftsHyphen other.id second.id site.id branch.id := by
  have hJoin (site : Site) (branch : Branch) :
      platform.routeId site branch = platform.idStart ++ (site.id ++ "-" ++ branch.id) := by
    simp only [routeId, String.append_assoc]
  rw [hJoin, hJoin, String.append_right_inj, join_eq_join_iff]

namespace Policy

/-- Neither two branches of a site nor two sites of an accepted policy have one id, so a branch is
found by the two ids of its pair. -/
theorem WellFormed.owned_eq {policy : Policy} (hWell : policy.WellFormed)
    {owned other : Site × Branch} (hOwned : owned ∈ ownedBranches policy.sites)
    (hOther : other ∈ ownedBranches policy.sites) (hSite : owned.1.id = other.1.id)
    (hBranch : owned.2.id = other.2.id) :
    owned = other := by
  rw [mem_ownedBranches] at hOwned hOther
  have hSame : owned.1 = other.1 :=
    List.inj_on_of_nodup_map hWell.siteIds hOwned.1 hOther.1 hSite
  have hIds := (hWell.sites other.1 hOther.1).branchIds
  exact Prod.ext hSame (List.inj_on_of_nodup_map hIds (hSame ▸ hOwned.2) hOther.2 hBranch)

theorem WellFormed.nodup_ownedBranches {policy : Policy} (hWell : policy.WellFormed) :
    (ownedBranches policy.sites).Nodup := by
  rw [ownedBranches, List.nodup_flatMap]
  constructor
  · intro site hSite
    have hBranches := List.Nodup.of_map _ (hWell.sites site hSite).branchIds
    exact hBranches.map fun _ _ hSame => (Prod.mk.inj hSame).2
  · refine (List.Nodup.of_map _ hWell.siteIds).imp ?_
    intro site other hDiffer owned hOwned hOther
    obtain ⟨_, _, rfl⟩ := List.mem_map.mp hOwned
    obtain ⟨_, _, hSame⟩ := List.mem_map.mp hOther
    exact hDiffer (Prod.mk.inj hSame).1.symm

/-- The routes of an accepted policy have distinct identifiers exactly when no site id continues
another one with a hyphen and a text that also stands, with a hyphen after it, before a branch id of
the continued site, where what remains of that branch id is a branch id of the continuing site. -/
theorem routeIds_nodup_iff (policy : Policy) (routes : List Route)
    (hValid : policy.isValid = true) (hRoutes : policy.compile.result = .ok routes) :
    (routes.map (·.id)).Nodup ↔
      ¬ ∃ site ∈ policy.sites, ∃ branch ∈ site.branches,
        ∃ other ∈ policy.sites, ∃ second ∈ other.branches,
          ShiftsHyphen site.id branch.id other.id second.id := by
  have hWell := isValid_iff_wellFormed.mp hValid
  obtain ⟨_, rfl⟩ := (policy.platform.compileSites_eq_ok_iff).mp hRoutes
  rw [List.map_map, List.nodup_map_iff_inj_on hWell.nodup_ownedBranches]
  constructor
  · rintro hInjective ⟨site, hSite, branch, hBranch, other, hOther, second, hSecond, hShift⟩
    have hSame : (site, branch) = (other, second) :=
      hInjective _ (mem_ownedBranches.mpr ⟨hSite, hBranch⟩) _
        (mem_ownedBranches.mpr ⟨hOther, hSecond⟩)
        (congrArg some (policy.platform.routeId_eq_iff.mpr (Or.inr (Or.inl hShift))))
    rw [(Prod.mk.inj hSame).1] at hShift
    exact not_shiftsHyphen_self _ _ _ hShift
  · intro hNoShift owned hOwned other hOther hSame
    have hOwnedIn := mem_ownedBranches.mp hOwned
    have hOtherIn := mem_ownedBranches.mp hOther
    rcases policy.platform.routeId_eq_iff.mp (Option.some.inj hSame) with
      ⟨hSite, hBranch⟩ | hShift | hShift
    · exact hWell.owned_eq hOwned hOther hSite hBranch
    · exact absurd ⟨_, hOwnedIn.1, _, hOwnedIn.2, _, hOtherIn.1, _, hOtherIn.2, hShift⟩ hNoShift
    · exact absurd ⟨_, hOtherIn.1, _, hOtherIn.2, _, hOwnedIn.1, _, hOwnedIn.2, hShift⟩ hNoShift

/-- Two sites with one branch each, where the id of one site continues that of the other. -/
def twoSites (branch : String) : Policy :=
  { sites :=
      [{ id := "a"
         name := "one"
         mainBranch := branch
         branches := [{ id := branch, slug := "prod" }] },
       { id := "a-b"
         name := "two"
         mainBranch := "c"
         branches := [{ id := "c", slug := "prod" }] }] }

/-- A site id that continues another one does no harm as long as no branch id fits. -/
theorem routeIds_nodup_twoSites :
    (twoSites "c").isValid = true ∧
      ∃ routes, (twoSites "c").compile.result = .ok routes ∧ (routes.map (·.id)).Nodup := by
  have hValid : (twoSites "c").isValid = true := by decide
  refine ⟨hValid, _, rfl, ?_⟩
  rw [routeIds_nodup_iff (twoSites "c") _ hValid rfl]
  decide

/-- The branch `b-c` of the site `a` and the branch `c` of the site `a-b` have one identifier. -/
theorem routeIds_collide_twoSites :
    (twoSites "b-c").isValid = true ∧
      ∃ routes, (twoSites "b-c").compile.result = .ok routes ∧ ¬ (routes.map (·.id)).Nodup := by
  refine ⟨by decide, _, rfl, ?_⟩
  decide

end Policy

end TenantRoutes
