import TenantRoutes.Proofs.Compiler.PlatformRoutes
import TenantRoutes.Proofs.Policy.WellFormed

/-! What validation promises the compiler. Names and ids of an accepted policy cannot stop it, since
validation refuses more of them than the compiler does. Passwords are not validated, and an empty
hash is the one thing that can stop the compilation of an accepted policy. -/
namespace TenantRoutes

/-- Directory names are usable path components. The converse fails: two dots inside an id keep it
from being a directory name, but only `..` itself is unusable. -/
theorem not_isUnusableSegment_of_isDirectoryName {id : String} (hId : isDirectoryName id = true) :
    ¬ IsUnusableSegment id := by
  rintro (rfl | rfl | rfl | hSlash | hBackslash)
  · simp [isDirectoryName] at hId
  · simp [isDirectoryName] at hId
  · simp [isDirectoryName, hasDoubleDot] at hId
  · simp [isDirectoryName, hSlash] at hId
  · simp [isDirectoryName, hBackslash] at hId

namespace Site.WellFormed

theorem fault?_eq {site : Site} {branch : Branch} (hSite : site.WellFormed)
    (hBranch : branch ∈ site.branches) :
    site.fault? branch = passwordFault? (site.effectivePassword branch) := by
  have hName : site.name ≠ "" := ne_empty_of_isLabelText hSite.name
  have hSiteId := not_isUnusableSegment_of_isDirectoryName hSite.id
  have hBranchId := not_isUnusableSegment_of_isDirectoryName (hSite.branches branch hBranch).id
  simp only [Site.fault?, hName, hSiteId, hBranchId, if_false, passwordFault?]

end Site.WellFormed

theorem passwordFault?_eq_none_iff {password? : Option Password} :
    passwordFault? password? = none ↔
      ∀ password, password? = some password → password.hash ≠ "" := by
  cases password? with
  | none => simp [passwordFault?]
  | some password =>
      obtain ⟨hash⟩ := password
      simp [passwordFault?]

theorem eq_emptyPassword_of_passwordFault? {password? : Option Password} {fault : CompileError}
    (hFault : passwordFault? password? = some fault) : fault = .emptyPassword := by
  unfold passwordFault? at hFault
  split at hFault
  · exact (Option.some.inj hFault).symm
  · simp at hFault

namespace Policy

theorem compile_result (policy : Policy) :
    policy.compile.result = (compileSites policy.sites).resultWith policy.platform.lookups := rfl

/-- An accepted policy compiles exactly when no branch of it is protected by an empty hash, and
fails with nothing but the failure that reports such a hash. -/
theorem compile_ok_iff_of_isValid (policy : Policy) (hValid : policy.isValid = true) :
    ((∃ routes, policy.compile.result = .ok routes) ↔
      ∀ site ∈ policy.sites, ∀ branch ∈ site.branches, ∀ password,
        site.effectivePassword branch = some password → password.hash ≠ "") ∧
    ∀ error, policy.compile.result = .error error → error = .emptyPassword := by
  have hWell := isValid_iff_wellFormed.mp hValid
  have hFault : ∀ owned ∈ ownedBranches policy.sites,
      owned.1.fault? owned.2 = passwordFault? (owned.1.effectivePassword owned.2) := by
    intro owned hOwned
    obtain ⟨hSite, hBranch⟩ := mem_ownedBranches.mp hOwned
    exact (hWell.sites owned.1 hSite).fault?_eq hBranch
  constructor
  · simp only [compile_result, Platform.compileSites_eq_ok_iff, exists_and_left,
      exists_eq', and_true]
    constructor
    · intro hNone site hSite branch hBranch
      have hOwned : (site, branch) ∈ ownedBranches policy.sites :=
        mem_ownedBranches.mpr ⟨hSite, hBranch⟩
      rw [← passwordFault?_eq_none_iff, ← hFault _ hOwned]
      exact hNone _ hOwned
    · intro hHashes owned hOwned
      obtain ⟨hSite, hBranch⟩ := mem_ownedBranches.mp hOwned
      rw [hFault owned hOwned, passwordFault?_eq_none_iff]
      exact hHashes owned.1 hSite owned.2 hBranch
  · intro error hError
    rw [compile_result, Platform.compileSites_eq_error_iff, List.findSome?_eq_some_iff] at hError
    obtain ⟨before, owned, after, hSplit, hOwned, _⟩ := hError
    rw [hFault owned (by simp [hSplit])] at hOwned
    exact eq_emptyPassword_of_passwordFault? hOwned

/-- One site whose main branch has the given password and whose other branch has none. -/
def withPassword (hash : String) : Policy :=
  { sites :=
      [{ id := "s1"
         name := "blog"
         mainBranch := "b1"
         branches :=
          [{ id := "b1", slug := "prod", password := some { hash } },
           { id := "b2", slug := "next" }] }] }

theorem compile_ok_withPassword :
    (withPassword "hash").isValid = true ∧
      ∃ routes, (withPassword "hash").compile.result = .ok routes := by
  have hValid : (withPassword "hash").isValid = true := by decide
  refine ⟨hValid, (compile_ok_iff_of_isValid _ hValid).1.mpr ?_⟩
  simp [withPassword, Site.effectivePassword]

/-- Validation accepts an empty hash, and the compiler does not. -/
theorem withPassword_empty_accepted_not_compiled :
    (withPassword "").isValid = true ∧
      (withPassword "").compile.result = .error .emptyPassword := by
  refine ⟨by decide, ?_⟩
  rfl

end Policy

end TenantRoutes
