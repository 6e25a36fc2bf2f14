import Mathlib.Data.List.Induction
import TenantRoutes.Compiler.Headers
import TenantRoutes.Proofs.Text.ByteOrder
import TenantRoutes.Proofs.Text.LetterCase
import TenantRoutes.Route.Json

/-! Which headers a branch sets. They are built one header at a time in a map that tells spellings
apart, yet names are compared ignoring case: what is left of the headers of a site and its branch is
the last one of each name. Nothing is said of values beyond that they are kept whole. -/
namespace TenantRoutes

open Text (eqIgnoringCase)

/-- A header of a list that no other header of its name follows, in whatever letter case. -/
def IsLastOfName (headers : List Header) (header : Header) : Prop :=
  ∃ before after, headers = before ++ header :: after ∧
    ∀ later ∈ after, eqIgnoringCase later.name header.name = false

namespace IsLastOfName

variable {headers : List Header} {header other last : Header}

theorem concat_iff :
    IsLastOfName (headers ++ [last]) header ↔
      header = last ∨
        IsLastOfName headers header ∧ eqIgnoringCase last.name header.name = false := by
  constructor
  · rintro ⟨before, after, hSplit, hLater⟩
    rcases List.eq_nil_or_concat after with rfl | ⟨front, final, rfl⟩
    · have hLast := (List.append_inj' hSplit rfl).2
      exact Or.inl (List.singleton_inj.mp hLast).symm
    · rw [List.concat_eq_append, ← List.cons_append, ← List.append_assoc] at hSplit
      obtain ⟨rfl, hLast⟩ := List.append_inj' hSplit rfl
      obtain rfl := List.singleton_inj.mp hLast
      rw [List.concat_eq_append, List.forall_mem_append] at hLater
      exact Or.inr ⟨⟨before, front, rfl, hLater.1⟩, hLater.2 _ (List.mem_singleton_self _)⟩
  · rintro (rfl | ⟨⟨before, after, rfl, hLater⟩, hLast⟩)
    · exact ⟨headers, [], rfl, by simp⟩
    · refine ⟨before, after ++ [last], by simp, ?_⟩
      rw [List.forall_mem_append]
      exact ⟨hLater, by simpa using hLast⟩

theorem mem (hHeader : IsLastOfName headers header) : header ∈ headers := by
  obtain ⟨before, after, rfl, _⟩ := hHeader
  simp

/-- Of each name only one header is the last. -/
theorem unique (hHeader : IsLastOfName headers header) (hOther : IsLastOfName headers other)
    (hSame : Text.foldCase header.name = Text.foldCase other.name) : header = other := by
  induction headers using List.reverseRecOn with
  | nil => simpa using hHeader.mem
  | append_singleton headers last ih =>
      rw [concat_iff, Text.eqIgnoringCase_eq_false_iff] at hHeader hOther
      rcases hHeader with rfl | ⟨hHeader, hBefore⟩ <;> rcases hOther with rfl | ⟨hOther, hAfter⟩
      · rfl
      · exact absurd hSame hAfter
      · exact absurd hSame.symm hBefore
      · exact ih hHeader hOther

/-- A name that some header has is that of a last one. -/
theorem exists_of_mem (hMem : header ∈ headers) :
    ∃ last, IsLastOfName headers last ∧ Text.foldCase last.name = Text.foldCase header.name := by
  induction headers using List.reverseRecOn with
  | nil => simp at hMem
  | append_singleton headers final ih =>
      simp only [concat_iff, Text.eqIgnoringCase_eq_false_iff]
      by_cases hFinal : Text.foldCase final.name = Text.foldCase header.name
      · exact ⟨final, Or.inl rfl, hFinal⟩
      · have hEarlier : header ∈ headers := by
          refine (List.mem_append.mp hMem).resolve_right fun hSame => hFinal ?_
          rw [List.mem_singleton.mp hSame]
        obtain ⟨last, hLast, hName⟩ := ih hEarlier
        exact ⟨last, Or.inr ⟨hLast, hName ▸ hFinal⟩, hName⟩

end IsLastOfName

namespace HeaderMap

/-- The entry that a header makes. -/
def entryOf (header : Header) : String × List String :=
  (header.name, [header.value])

variable {map : HeaderMap} {name : String} {values : List String} {entry : String × List String}

theorem mem_insertSorted_iff {entries : List (String × List String)}
    (hSorted : entries.Pairwise fun a b => a.1 < b.1) :
    entry ∈ insertSorted name values entries ↔
      entry = (name, values) ∨ entry ∈ entries ∧ entry.1 ≠ name := by
  induction entries with
  | nil => simp [insertSorted]
  | cons first rest ih =>
      obtain ⟨key, old⟩ := first
      obtain ⟨hFirst, hRest⟩ := List.pairwise_cons.mp hSorted
      rw [insertSorted]
      by_cases hSame : name = key
      · subst hSame
        have hNe : entry ∈ rest → entry.1 ≠ name := fun hEntry hName =>
          String.lt_irrefl name (hName ▸ hFirst entry hEntry)
        rw [if_pos rfl, List.mem_cons, List.mem_cons]
        constructor
        · exact Or.imp_right fun hEntry => ⟨Or.inr hEntry, hNe hEntry⟩
        · rintro (hNew | ⟨rfl | hEntry, hName⟩)
          · exact Or.inl hNew
          · exact absurd rfl hName
          · exact Or.inr hEntry
      · rw [if_neg hSame]
        split
        case isTrue hBefore =>
          have hNe : entry ∈ (key, old) :: rest → entry.1 ≠ name := by
            rintro hEntry rfl
            rcases List.mem_cons.mp hEntry with rfl | hLater
            · exact hSame rfl
            · exact String.lt_asymm hBefore (hFirst entry hLater)
          rw [List.mem_cons]
          exact or_congr_right ⟨fun hEntry => ⟨hEntry, hNe hEntry⟩, And.left⟩
        case isFalse =>
          rw [List.mem_cons, List.mem_cons, ih hRest]
          constructor
          · rintro (rfl | hNew | ⟨hEntry, hName⟩)
            · exact Or.inr ⟨Or.inl rfl, Ne.symm hSame⟩
            · exact Or.inl hNew
            · exact Or.inr ⟨Or.inr hEntry, hName⟩
          · rintro (hNew | ⟨hFirst | hEntry, hName⟩)
            · exact Or.inr (Or.inl hNew)
            · exact Or.inl hFirst
            · exact Or.inr (Or.inr ⟨hEntry, hName⟩)

theorem mem_insert_iff :
    entry ∈ (map.insert name values).entries ↔
      entry = (name, values) ∨ entry ∈ map.entries ∧ entry.1 ≠ name :=
  mem_insertSorted_iff map.sorted

/-- One more header takes the place of all spellings of its name, unless it is for nobody to set. -/
theorem mem_overlay_iff {header : Header} :
    entry ∈ (map.overlay header).entries ↔
      if eqIgnoringCase header.name cacheControl then entry ∈ map.entries
      else entry = entryOf header ∨
        entry ∈ map.entries ∧ eqIgnoringCase entry.1 header.name = false := by
  rw [overlay]
  split
  case isTrue => rfl
  case isFalse =>
    rw [mem_insert_iff, eraseIgnoringCase, List.mem_filter, Bool.not_eq_true',
      Text.eqIgnoringCase_eq_false_iff]
    refine or_congr_right ⟨And.left, fun hEntry => ⟨hEntry, fun hName => ?_⟩⟩
    exact hEntry.2 (congrArg Text.foldCase hName)

/-- What a list of headers leaves in a map: the last header of each name that may be set. -/
theorem mem_foldl_overlay_iff {headers : List Header} :
    entry ∈ (headers.foldl overlay empty).entries ↔
      ∃ header, IsLastOfName headers header ∧
        eqIgnoringCase header.name cacheControl = false ∧ entry = entryOf header := by
  induction headers using List.reverseRecOn with
  | nil =>
      refine iff_of_false (by simp [empty]) ?_
      rintro ⟨header, hLast, _⟩
      simpa using hLast.mem
  | append_singleton headers last ih =>
      rw [List.foldl_append, List.foldl_cons, List.foldl_nil, mem_overlay_iff, ih]
      simp only [IsLastOfName.concat_iff, Text.eqIgnoringCase_eq_false_iff]
      split
      case isTrue hCache =>
        -- The new header is the last of its name, but this is no name to set.
        rw [Text.eqIgnoringCase_iff] at hCache
        refine exists_congr fun header => ?_
        constructor
        · rintro ⟨hLast, hFree, hEntry⟩
          exact ⟨Or.inr ⟨hLast, hCache ▸ hFree.symm⟩, hFree, hEntry⟩
        · rintro ⟨rfl | ⟨hLast, _⟩, hFree, hEntry⟩
          · exact absurd hCache hFree
          · exact ⟨hLast, hFree, hEntry⟩
      case isFalse hFree =>
        rw [Text.eqIgnoringCase_iff] at hFree
        constructor
        · rintro (hNew | ⟨⟨header, hLast, hOther, hEntry⟩, hName⟩)
          · exact ⟨last, Or.inl rfl, hFree, hNew⟩
          · exact ⟨header, Or.inr ⟨hLast, by simpa [hEntry, entryOf] using hName.symm⟩, hOther,
              hEntry⟩
        · rintro ⟨header, rfl | ⟨hLast, hName⟩, hOther, hEntry⟩
          · exact Or.inl hEntry
          · exact Or.inr ⟨⟨header, hLast, hOther, hEntry⟩,
              by simpa [hEntry, entryOf] using hName.symm⟩

end HeaderMap

variable {site : Site} {branch : Branch}

/-- The headers of a branch: that of the cache, and the last of each other name that it or its site
gives. -/
theorem mem_branchHeaders_iff {entry : String × List String} :
    entry ∈ (branchHeaders site branch).entries ↔
      entry = (cacheControl, cacheDirectives) ∨
        ∃ header, IsLastOfName (site.headers ++ branch.headers) header ∧
          eqIgnoringCase header.name cacheControl = false ∧ entry = HeaderMap.entryOf header := by
  rw [branchHeaders, HeaderMap.mem_insert_iff, HeaderMap.mem_foldl_overlay_iff]
  refine or_congr_right ⟨And.left, fun hEntry => ⟨hEntry, ?_⟩⟩
  obtain ⟨header, _, hFree, rfl⟩ := hEntry
  rw [Text.eqIgnoringCase_eq_false_iff] at hFree
  exact fun hName => hFree (congrArg Text.foldCase hName)

/-- No two entries have names that differ in letter case at most. -/
theorem eq_of_mem_branchHeaders {a b : String × List String}
    (hA : a ∈ (branchHeaders site branch).entries) (hB : b ∈ (branchHeaders site branch).entries)
    (hName : Text.foldCase a.1 = Text.foldCase b.1) : a = b := by
  simp only [mem_branchHeaders_iff, Text.eqIgnoringCase_eq_false_iff] at hA hB
  rcases hA with rfl | ⟨first, hFirst, hFree, rfl⟩ <;>
    rcases hB with rfl | ⟨second, hSecond, hOther, rfl⟩
  · rfl
  · exact absurd hName.symm hOther
  · exact absurd hName hFree
  · rw [hFirst.unique hSecond hName]

/-- A map holds what has to be said of caching, and else the last header of each name in a list. The
name is spelled as in that header, and its value is kept whole. -/
structure HeaderMap.HoldsLast (map : HeaderMap) (headers : List Header) : Prop where
  distinct : map.entries.Pairwise fun a b => eqIgnoringCase a.1 b.1 = false
  cache : ∀ entry, entry ∈ map.entries ∧ eqIgnoringCase entry.1 "Cache-Control" = true ↔
    entry = ("Cache-Control", ["public", "max-age=0", "must-revalidate"])
  names : ∀ name, eqIgnoringCase name "Cache-Control" = false →
    ((∃ entry ∈ map.entries, eqIgnoringCase entry.1 name = true) ↔
      ∃ header ∈ headers, eqIgnoringCase header.name name = true)
  values : ∀ name, eqIgnoringCase name "Cache-Control" = false →
    ∀ entry ∈ map.entries, eqIgnoringCase entry.1 name = true →
      ∃ header, IsLastOfName headers header ∧ eqIgnoringCase header.name name = true ∧
        entry = (header.name, [header.value])

theorem branchHeaders_holdsLast :
    (branchHeaders site branch).HoldsLast (site.headers ++ branch.headers) := by
  have hCache : (cacheControl, cacheDirectives) ∈ (branchHeaders site branch).entries :=
    mem_branchHeaders_iff.mpr (Or.inl rfl)
  constructor
  case distinct =>
    refine (branchHeaders site branch).sorted.imp_of_mem fun {a b} hA hB hLt => ?_
    rw [Text.eqIgnoringCase_eq_false_iff]
    intro hName
    rw [eq_of_mem_branchHeaders hA hB hName] at hLt
    exact String.lt_irrefl _ hLt
  case cache =>
    intro entry
    constructor
    · rintro ⟨hEntry, hName⟩
      exact eq_of_mem_branchHeaders hEntry hCache (Text.eqIgnoringCase_iff.mp hName)
    · rintro rfl
      exact ⟨hCache, Text.eqIgnoringCase_iff.mpr rfl⟩
  case names =>
    intro name hFree
    simp only [Text.eqIgnoringCase_iff, Text.eqIgnoringCase_eq_false_iff] at hFree ⊢
    constructor
    · rintro ⟨entry, hEntry, hName⟩
      rcases mem_branchHeaders_iff.mp hEntry with rfl | ⟨header, hLast, _, rfl⟩
      · exact absurd hName.symm hFree
      · exact ⟨header, hLast.mem, hName⟩
    · rintro ⟨header, hHeader, hName⟩
      obtain ⟨last, hLast, hSame⟩ := IsLastOfName.exists_of_mem hHeader
      refine ⟨HeaderMap.entryOf last, mem_branchHeaders_iff.mpr (Or.inr ⟨last, hLast, ?_, rfl⟩),
        hSame.trans hName⟩
      rw [Text.eqIgnoringCase_eq_false_iff, hSame, hName]
      exact hFree
  case values =>
    intro name hFree entry hEntry hName
    rw [Text.eqIgnoringCase_eq_false_iff] at hFree
    rcases mem_branchHeaders_iff.mp hEntry with rfl | ⟨header, hLast, _, rfl⟩
    · exact absurd (Text.eqIgnoringCase_iff.mp hName).symm hFree
    · exact ⟨header, hLast, hName, rfl⟩

/-- The map of a branch is never empty, so it is always written. -/
theorem headersHandler_toJson :
    (headersHandler site branch).toJson =
      .object [("handler", .string "headers"),
        ("response", .object [("set", (branchHeaders site branch).toJson)])] := by
  have hEntry : (cacheControl, cacheDirectives) ∈ (branchHeaders site branch).entries :=
    mem_branchHeaders_iff.mpr (Or.inl rfl)
  have hWritten : (branchHeaders site branch).isEmpty = false :=
    List.isEmpty_eq_false_iff.mpr (List.ne_nil_of_mem hEntry)
  simp only [headersHandler, Handler.toJson, Handler.name, Handler.responseToJson, headersField,
    hWritten, Bool.false_eq_true, if_false]

/-- A branch sets the last header of each name, whatever the letter case, of those of its site
followed by its own, and says itself how responses are cached. In JSON the names are in the order of
their bytes. -/
theorem headersHandler_holds_last (site : Site) (branch : Branch) :
    ∃ map, headersHandler site branch = .headers map ∧
      map.HoldsLast (site.headers ++ branch.headers) ∧
      ∃ fields, (headersHandler site branch).toJson =
          .object [("handler", .string "headers"),
            ("response", .object [("set", .object fields)])] ∧
        fields.map (·.1) = map.entries.map (·.1) ∧
        (fields.map (·.1)).Pairwise fun a b => Text.utf8Bytes a < Text.utf8Bytes b := by
  have hFields : (branchHeaders site branch).toJson =
      .object ((branchHeaders site branch).entries.map fun entry =>
        (entry.1, Json.ofList Json.string entry.2)) := rfl
  refine ⟨branchHeaders site branch, rfl, branchHeaders_holdsLast, _,
    hFields ▸ headersHandler_toJson, by rw [List.map_map]; rfl, ?_⟩
  rw [List.map_map, List.pairwise_map]
  exact (branchHeaders site branch).sorted.imp Text.utf8Bytes_lt

end TenantRoutes
