import TenantRoutes.Compiler.Addresses
import TenantRoutes.Proofs.Compiler.Outcome

/-! Resolution of domains without its questions. Comparing domains never fails, so the domains kept
are a function of the comparison alone. The comparison is arbitrary here and need be no
equivalence. -/
namespace TenantRoutes

variable (same : Domain → Domain → Bool)

/-- The domains kept so far, followed by those of a list that repeat no domain kept before them. -/
def keepDistinct (kept : List Domain) : List Domain → List Domain
  | [] => kept
  | domain :: rest =>
    keepDistinct (if kept.any (same · domain) then kept else kept ++ [domain]) rest

/-- Nothing is kept that was not there. -/
theorem mem_of_mem_keepDistinct {kept domains : List Domain} {domain : Domain}
    (hMem : domain ∈ keepDistinct same kept domains) : domain ∈ kept ∨ domain ∈ domains := by
  induction domains generalizing kept with
  | nil => exact Or.inl hMem
  | cons first rest ih =>
      rw [keepDistinct] at hMem
      rcases ih hMem with hKept | hRest
      · split at hKept
        · exact Or.inl hKept
        · simpa [or_assoc] using Or.imp_right Or.inl (List.mem_append.mp hKept)
      · exact Or.inr (List.mem_cons_of_mem _ hRest)

/-- What is kept stays. -/
theorem mem_keepDistinct_of_mem_kept {kept domains : List Domain} {domain : Domain}
    (hKept : domain ∈ kept) : domain ∈ keepDistinct same kept domains := by
  induction domains generalizing kept with
  | nil => exact hKept
  | cons first rest ih =>
      rw [keepDistinct]
      split
      · exact ih hKept
      · exact ih (List.mem_append_left _ hKept)

theorem head_mem_keepDistinct (domain : Domain) (rest : List Domain) :
    domain ∈ keepDistinct same [] (domain :: rest) := by
  change domain ∈ keepDistinct same [domain] rest
  exact mem_keepDistinct_of_mem_kept same (List.mem_singleton_self domain)

theorem isRepeated_resultWith (lookups : Lookups) (domain : Domain) (kept : List Domain) :
    (isRepeated domain kept).resultWith lookups =
      .ok (kept.any (lookups.sameDomain · domain)) := by
  induction kept with
  | nil => rfl
  | cons seen rest ih =>
      simp only [isRepeated, Plan.query, Plan.bind_eq, Plan.ask_bind, Plan.done_bind,
        Plan.resultWith_ask, Lookups.answer, List.any_cons]
      cases hSame : lookups.sameDomain seen domain with
      | true => simp [bind, Except.bind]
      | false => simpa [bind, Except.bind] using ih

theorem keepFirst_resultWith (lookups : Lookups) (kept domains : List Domain) :
    (keepFirst kept domains).resultWith lookups =
      .ok (keepDistinct lookups.sameDomain kept domains) := by
  induction domains generalizing kept with
  | nil => rfl
  | cons domain rest ih =>
      rw [keepFirst, Plan.bind_eq, Plan.resultWith_bind, isRepeated_resultWith, keepDistinct]
      cases hRepeated : kept.any (lookups.sameDomain · domain) with
      | true => exact ih kept
      | false => exact ih (kept ++ [domain])

/-- Resolution fails only where the name on the platform does. -/
theorem Site.resolveDomains_resultWith (lookups : Lookups) (site : Site) :
    site.resolveDomains.resultWith lookups =
      (lookups.mainDomain site).map fun name =>
        keepDistinct lookups.sameDomain [] (site.domains ++ [Domain.onPlatform name]) := by
  simp only [Site.resolveDomains, Plan.query, Plan.emit, Plan.bind_eq, Plan.ask_bind,
    Plan.done_bind, Plan.report_bind, Plan.resultWith_ask, Plan.resultWith_bind,
    keepFirst_resultWith, Lookups.answer]
  cases lookups.mainDomain site <;> rfl

end TenantRoutes
