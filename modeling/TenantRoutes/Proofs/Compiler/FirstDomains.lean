import Mathlib.Data.List.Induction
import TenantRoutes.Proofs.Compiler.PlatformRoutes
import TenantRoutes.Proofs.Text.LetterCase

/-! Which domains resolution keeps. A domain is compared with the domains kept before it and with no
others, so a comparison that is no equivalence may keep a domain that repeats a dropped one. Names
are compared by an equivalence, and there the first domain of each name stays. -/
namespace TenantRoutes

section Comparison

variable {same : Domain → Domain → Bool} {domains : List Domain}

/-- The last domain of a list is looked at when all others have been. -/
theorem keepDistinct_concat (kept domains : List Domain) (domain : Domain) :
    keepDistinct same kept (domains ++ [domain]) =
      if (keepDistinct same kept domains).any (same · domain) then keepDistinct same kept domains
      else keepDistinct same kept domains ++ [domain] := by
  induction domains generalizing kept with
  | nil => rfl
  | cons first rest ih => exact ih _

theorem keepDistinct_ne_nil (hSome : domains ≠ []) : keepDistinct same [] domains ≠ [] := by
  obtain ⟨first, rest, rfl⟩ := List.exists_cons_of_ne_nil hSome
  exact List.ne_nil_of_mem (head_mem_keepDistinct same first rest)

/-- No kept domain repeats one that was kept before it. -/
theorem pairwise_keepDistinct (same : Domain → Domain → Bool) (domains : List Domain) :
    (keepDistinct same [] domains).Pairwise fun earlier later => same earlier later = false := by
  induction domains using List.reverseRecOn with
  | nil => exact List.Pairwise.nil
  | append_singleton front domain ih =>
      rw [keepDistinct_concat]
      split
      case isTrue hRepeated => exact ih
      case isFalse hNew =>
        rw [List.pairwise_append]
        refine ⟨ih, List.pairwise_singleton _ _, ?_⟩
        intro earlier hEarlier later hLater
        obtain rfl := List.mem_singleton.mp hLater
        simp only [List.any_eq_true, not_exists, not_and, Bool.not_eq_true] at hNew
        exact hNew earlier hEarlier

/-- Every domain repeats a kept one, be it itself. -/
theorem exists_same_mem_keepDistinct (hRefl : ∀ domain, same domain domain = true)
    {domain : Domain} (hDomain : domain ∈ domains) :
    ∃ kept ∈ keepDistinct same [] domains, same kept domain = true := by
  induction domains using List.reverseRecOn with
  | nil => simp at hDomain
  | append_singleton front last ih =>
      rw [keepDistinct_concat]
      rw [List.mem_append, List.mem_singleton] at hDomain
      split
      case isTrue hRepeated =>
        rcases hDomain with hFront | rfl
        · exact ih hFront
        · simpa only [List.any_eq_true] using hRepeated
      case isFalse hNew =>
        rcases hDomain with hFront | rfl
        · obtain ⟨kept, hKept, hSame⟩ := ih hFront
          exact ⟨kept, List.mem_append_left _ hKept, hSame⟩
        · exact ⟨domain, List.mem_append_right _ (List.mem_singleton_self _), hRefl domain⟩

/-- Of the domains of a list, each with its place, those are kept that repeat no kept one before
them. -/
def KeepsNew (same : Domain → Domain → Bool) (domains : List Domain)
    (kept : List (Domain × Nat)) : Prop :=
  kept = domains.zipIdx.filter fun entry =>
    ∀ earlier ∈ kept, earlier.2 < entry.2 → same earlier.1 entry.1 = false

theorem lt_length_of_mem_zipIdx {entry : Domain × Nat} (hEntry : entry ∈ domains.zipIdx) :
    entry.2 < domains.length := by
  have hPlace := (List.mem_zipIdx hEntry).2.1
  omega

namespace KeepsNew

variable {kept : List (Domain × Nat)}

theorem mem_iff (hKept : KeepsNew same domains kept) {entry : Domain × Nat} :
    entry ∈ kept ↔ entry ∈ domains.zipIdx ∧
      ∀ earlier ∈ kept, earlier.2 < entry.2 → same earlier.1 entry.1 = false := by
  conv_lhs => rw [hKept]
  rw [List.mem_filter, decide_eq_true_iff]

theorem lt_length (hKept : KeepsNew same domains kept) {entry : Domain × Nat}
    (hEntry : entry ∈ kept) : entry.2 < domains.length :=
  lt_length_of_mem_zipIdx (hKept.mem_iff.mp hEntry).1

/-- A domain behind all others is dropped when it repeats a kept one. -/
theorem concat_of_repeated (hKept : KeepsNew same domains kept) {domain : Domain}
    (hRepeated : ∃ earlier ∈ kept, same earlier.1 domain = true) :
    KeepsNew same (domains ++ [domain]) kept := by
  obtain ⟨earlier, hEarlier, hSame⟩ := hRepeated
  have hDropped : ¬ ∀ earlier ∈ kept, earlier.2 < domains.length →
      same earlier.1 domain = false :=
    fun hNew => Bool.eq_false_iff.mp (hNew earlier hEarlier (hKept.lt_length hEarlier)) hSame
  rw [KeepsNew, List.zipIdx_append, List.filter_append, Nat.zero_add, List.zipIdx_singleton,
    List.filter_singleton, decide_eq_false hDropped, ← hKept]
  simp

/-- Otherwise it stays. Since it stands behind the others, it takes part in no comparison but its
own. -/
theorem concat_of_new (hKept : KeepsNew same domains kept) {domain : Domain}
    (hNew : ∀ earlier ∈ kept, same earlier.1 domain = false) :
    KeepsNew same (domains ++ [domain]) (kept ++ [(domain, domains.length)]) := by
  have hFront : (domains.zipIdx.filter fun entry =>
      ∀ earlier ∈ kept ++ [(domain, domains.length)], earlier.2 < entry.2 →
        same earlier.1 entry.1 = false) = kept := by
    refine (List.filter_congr fun entry hEntry => ?_).trans hKept.symm
    have hBehind : ¬ domains.length < entry.2 := Nat.lt_asymm (lt_length_of_mem_zipIdx hEntry)
    rw [decide_eq_decide, List.forall_mem_append, List.forall_mem_singleton]
    exact and_iff_left fun hBefore => absurd hBefore hBehind
  have hLast : ∀ earlier ∈ kept ++ [(domain, domains.length)], earlier.2 < domains.length →
      same earlier.1 domain = false := by
    rw [List.forall_mem_append, List.forall_mem_singleton]
    exact ⟨fun earlier hEarlier _ => hNew earlier hEarlier,
      fun hBefore => absurd hBefore (Nat.lt_irrefl _)⟩
  rw [KeepsNew, List.zipIdx_append, List.filter_append, Nat.zero_add, List.zipIdx_singleton,
    List.filter_singleton, decide_eq_true hLast, hFront]
  rfl

/-- A comparison that is transitive need not leave out the dropped domains: what a dropped domain
repeats, it was dropped for. -/
theorem eq_filter (hKept : KeepsNew same domains kept)
    (hTrans : ∀ first second third, same first second = true → same second third = true →
      same first third = true) :
    kept = domains.zipIdx.filter fun entry =>
      ∀ earlier ∈ domains.zipIdx, earlier.2 < entry.2 → same earlier.1 entry.1 = false := by
  refine hKept.trans (List.filter_congr fun entry hEntry => ?_)
  rw [decide_eq_decide]
  constructor
  · intro hNew earlier hEarlier hBefore
    by_cases hMem : earlier ∈ kept
    · exact hNew earlier hMem hBefore
    · rw [hKept.mem_iff, and_iff_right hEarlier] at hMem
      push Not at hMem
      obtain ⟨first, hFirst, hFirstBefore, hSame⟩ := hMem
      have hDiffer : same first.1 entry.1 = false :=
        hNew first hFirst (Nat.lt_trans hFirstBefore hBefore)
      refine Bool.eq_false_iff.mpr fun hRepeats => Bool.eq_false_iff.mp hDiffer ?_
      exact hTrans _ _ _ (eq_true_of_ne_false hSame) hRepeats
  · intro hNew earlier hEarlier hBefore
    exact hNew earlier (hKept.mem_iff.mp hEarlier).1 hBefore

end KeepsNew

theorem exists_keepsNew (same : Domain → Domain → Bool) (domains : List Domain) :
    ∃ kept, KeepsNew same domains kept ∧ kept.map Prod.fst = keepDistinct same [] domains := by
  induction domains using List.reverseRecOn with
  | nil => exact ⟨[], rfl, rfl⟩
  | append_singleton front domain ih =>
      obtain ⟨kept, hKept, hDomains⟩ := ih
      rw [keepDistinct_concat, ← hDomains]
      by_cases hRepeated : ∃ earlier ∈ kept, same earlier.1 domain = true
      · refine ⟨kept, hKept.concat_of_repeated hRepeated, ?_⟩
        rw [if_pos (by simpa using hRepeated)]
      · refine ⟨kept ++ [(domain, front.length)], hKept.concat_of_new ?_, ?_⟩
        · simpa using hRepeated
        · rw [if_neg (by simpa using hRepeated), List.map_append]
          rfl

end Comparison

/-- The domains of a list that are the first of their name, each with its place. -/
def firstOfNames (domains : List Domain) : List (Domain × Nat) :=
  domains.zipIdx.filter fun entry =>
    ∀ earlier ∈ domains.zipIdx, earlier.2 < entry.2 →
      Text.eqIgnoringCase earlier.1.name entry.1.name = false

namespace Domain

theorem sameHost_iff {first second : Domain} :
    first.sameHost second = true ↔ Text.foldCase first.name = Text.foldCase second.name :=
  Text.eqIgnoringCase_iff

theorem sameHost_refl (domain : Domain) : domain.sameHost domain = true :=
  sameHost_iff.mpr rfl

theorem sameHost_trans (first second third : Domain) (hFirst : first.sameHost second = true)
    (hSecond : second.sameHost third = true) : first.sameHost third = true :=
  sameHost_iff.mpr ((sameHost_iff.mp hFirst).trans (sameHost_iff.mp hSecond))

end Domain

theorem keepDistinct_sameHost (domains : List Domain) :
    keepDistinct Domain.sameHost [] domains = (firstOfNames domains).map Prod.fst := by
  obtain ⟨kept, hKept, hDomains⟩ := exists_keepsNew Domain.sameHost domains
  rw [← hDomains, hKept.eq_filter Domain.sameHost_trans]
  rfl

/-- A domain is the first of its name in a list when a search for its name ends with it. -/
def Domain.IsFirstOfName (domain : Domain) (domains : List Domain) : Prop :=
  domains.find? (Text.eqIgnoringCase ·.name domain.name) = some domain

instance (domain : Domain) (domains : List Domain) : Decidable (domain.IsFirstOfName domains) :=
  inferInstanceAs (Decidable (_ = _))

theorem mem_keepDistinct_sameHost_iff {domains : List Domain} {domain : Domain} :
    domain ∈ keepDistinct Domain.sameHost [] domains ↔ domain.IsFirstOfName domains := by
  rw [keepDistinct_sameHost, Domain.IsFirstOfName, List.find?_eq_some_iff_getElem]
  simp only [firstOfNames, List.mem_map, List.mem_filter, Prod.exists, exists_and_right,
    exists_eq_right, List.mk_mem_zipIdx_iff_getElem?, decide_eq_true_eq, Prod.forall]
  constructor
  · rintro ⟨place, hPlace, hFirst⟩
    obtain ⟨hLess, rfl⟩ := List.getElem?_eq_some_iff.mp hPlace
    refine ⟨Domain.sameHost_refl _, place, hLess, rfl, fun before hBefore => ?_⟩
    rw [hFirst _ before (List.getElem?_eq_getElem _) hBefore]
    rfl
  · rintro ⟨_, place, hLess, rfl, hFirst⟩
    refine ⟨place, List.getElem?_eq_getElem hLess, fun earlier before hEarlier hBefore => ?_⟩
    obtain ⟨_, rfl⟩ := List.getElem?_eq_some_iff.mp hEarlier
    exact (Bool.not_eq_true' _).mp (hFirst before hBefore)

namespace Site

/-- What a site may be served under: its domains, and behind them its name on the platform. -/
def candidates (site : Site) (name : String) : List Domain :=
  site.domains ++ [Domain.onPlatform name]

theorem candidates_ne_nil (site : Site) (name : String) : site.candidates name ≠ [] :=
  List.append_ne_nil_of_right_ne_nil _ (List.cons_ne_nil _ _)

theorem resolveDomains_of_mainDomain {lookups : Lookups} {site : Site} {name : String}
    (hName : lookups.mainDomain site = .ok name) :
    site.resolveDomains.resultWith lookups =
      .ok (keepDistinct lookups.sameDomain [] (site.candidates name)) := by
  rw [resolveDomains_resultWith, hName]
  rfl

/-- The name on the platform stands behind all domains of the site, so it is the first of its name
unless one of them has it. -/
theorem onPlatform_mem_firstOfNames_iff {site : Site} {name : String} :
    (Domain.onPlatform name, site.domains.length) ∈ firstOfNames (site.candidates name) ↔
      ∀ custom ∈ site.domains, Text.eqIgnoringCase custom.name name = false := by
  have hPlaces : (site.candidates name).zipIdx =
      site.domains.zipIdx ++ [(Domain.onPlatform name, site.domains.length)] := by
    rw [candidates, List.zipIdx_append, Nat.zero_add, List.zipIdx_singleton]
  rw [firstOfNames, List.mem_filter, decide_eq_true_iff, hPlaces, List.forall_mem_append,
    List.forall_mem_singleton]
  constructor
  · rintro ⟨_, hFirst, _⟩ custom hCustom
    obtain ⟨place, hPlace, rfl⟩ := List.getElem_of_mem hCustom
    exact hFirst (site.domains[place], place)
      (List.mk_mem_zipIdx_iff_getElem?.mpr (List.getElem?_eq_getElem hPlace)) hPlace
  · intro hNone
    refine ⟨List.mem_append_right _ (List.mem_singleton_self _), ?_, ?_⟩
    · intro earlier hEarlier _
      exact hNone earlier.1 (List.fst_mem_of_mem_zipIdx hEarlier)
    · intro hBefore
      exact absurd hBefore (Nat.lt_irrefl _)

end Site

theorem Platform.domainsFor_ne_nil (platform : Platform) (site : Site) :
    platform.domainsFor site ≠ [] :=
  keepDistinct_ne_nil (site.candidates_ne_nil _)

/-- Resolution keeps of the candidates of a site, in their order, those that repeat no kept one
before them, whatever repeating means, and always keeps one. On a platform these are the candidates
that are the first of their name. Their names differ, no name is lost, and the entry for the name on
the platform is left out exactly when a domain of the site has that name. -/
theorem resolveDomains_keeps_first :
    (∀ (lookups : Lookups) (site : Site) (name : String), lookups.mainDomain site = .ok name →
      ∃ kept, KeepsNew lookups.sameDomain (site.candidates name) kept ∧ kept ≠ [] ∧
        site.resolveDomains.resultWith lookups = .ok (kept.map Prod.fst)) ∧
    (∀ (platform : Platform) (site : Site) (name : String), platform.mainDomain site = .ok name →
      let kept := firstOfNames (site.candidates name)
      site.resolveDomains.resultWith platform.lookups = .ok (kept.map Prod.fst) ∧
      (kept.map Prod.fst).Pairwise
        (fun domain later => Text.eqIgnoringCase domain.name later.name = false) ∧
      (∀ domain ∈ site.candidates name, ∃ entry ∈ kept,
        Text.eqIgnoringCase entry.1.name domain.name = true) ∧
      ((Domain.onPlatform name, site.domains.length) ∉ kept ↔
        ∃ custom ∈ site.domains, Text.eqIgnoringCase custom.name name = true)) := by
  constructor
  · intro lookups site name hName
    obtain ⟨kept, hKept, hDomains⟩ := exists_keepsNew lookups.sameDomain (site.candidates name)
    refine ⟨kept, hKept, ?_, ?_⟩
    · rintro rfl
      exact keepDistinct_ne_nil (site.candidates_ne_nil name) hDomains.symm
    · rw [Site.resolveDomains_of_mainDomain hName, hDomains]
  · intro platform site name hName kept
    have hKept : keepDistinct Domain.sameHost [] (site.candidates name) = kept.map Prod.fst :=
      keepDistinct_sameHost _
    refine ⟨?_, ?_, ?_, ?_⟩
    · rw [← hKept]
      exact Site.resolveDomains_of_mainDomain hName
    · rw [← hKept]
      exact pairwise_keepDistinct _ _
    · intro domain hDomain
      obtain ⟨first, hFirst, hSame⟩ := exists_same_mem_keepDistinct Domain.sameHost_refl hDomain
      rw [hKept] at hFirst
      obtain ⟨entry, hEntry, rfl⟩ := List.mem_map.mp hFirst
      exact ⟨entry, hEntry, hSame⟩
    · rw [Site.onPlatform_mem_firstOfNames_iff]
      push Not
      simp only [ne_eq, Bool.not_eq_false]

/-- A site with a domain that repeats the first one in other letters and exposes nothing. -/
def repeatingSite : Site :=
  { id := "s1", name := "blog", mainBranch := "b1"
    domains := [{ name := "a.com", exposesBranches := true }, { name := "b.com" },
      { name := "A.com" }] }

theorem repeatingSite_keeps_first :
    Platform.mainDomain {} repeatingSite = .ok "blog.sites.localhost" ∧
      (∃ kept, KeepsNew Domain.sameHost (repeatingSite.candidates "blog.sites.localhost") kept ∧
        repeatingSite.resolveDomains.resultWith (Platform.lookups {}) =
          .ok (kept.map Prod.fst)) ∧
      repeatingSite.resolveDomains.resultWith (Platform.lookups {}) =
        .ok [{ name := "a.com", exposesBranches := true }, { name := "b.com" },
          Domain.onPlatform "blog.sites.localhost"] := by
  have hName : Platform.mainDomain {} repeatingSite = .ok "blog.sites.localhost" := rfl
  obtain ⟨kept, hKept, _, hDomains⟩ :=
    resolveDomains_keeps_first.1 (Platform.lookups {}) repeatingSite _ hName
  refine ⟨hName, ⟨kept, hKept, hDomains⟩, ?_⟩
  rw [(resolveDomains_keeps_first.2 {} repeatingSite _ hName).1]
  exact congrArg Except.ok (by decide)

end TenantRoutes
