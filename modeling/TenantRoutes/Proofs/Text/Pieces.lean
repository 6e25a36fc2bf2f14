import Mathlib.Tactic.SplitIfs
import TenantRoutes.Text.Ascii

/-! Splitting a text at a separator. The pieces are those of the standard split, so that its facts
about joining pieces again hold of them. -/
namespace TenantRoutes.Text

theorem pieces_eq_splitOn (separator : Char) (chars : List Char) :
    pieces separator chars = chars.splitOn separator := by
  induction chars with
  | nil => rfl
  | cons c rest ih =>
      rw [pieces, ih, List.splitOn_cons_eq_if_modifyHead]
      by_cases hc : c = separator
      · simp [hc]
      · rw [if_neg hc, if_neg (by simpa using hc)]
        cases hRest : rest.splitOn separator with
        | nil => exact absurd hRest (List.splitOn_ne_nil separator rest)
        | cons piece others => rfl

theorem pieces_ne_nil (separator : Char) (chars : List Char) : pieces separator chars ≠ [] := by
  rw [pieces_eq_splitOn]
  exact List.splitOn_ne_nil separator chars

/-- The pieces joined again are the text. -/
theorem intercalate_pieces (separator : Char) (chars : List Char) :
    [separator].intercalate (pieces separator chars) = chars := by
  rw [pieces_eq_splitOn, List.intercalate_splitOn]

/-- Texts without the separator are found again in their join. -/
theorem pieces_intercalate {separator : Char} {parts : List (List Char)}
    (hParts : ∀ part ∈ parts, separator ∉ part) (hSome : parts ≠ []) :
    pieces separator ([separator].intercalate parts) = parts := by
  rw [pieces_eq_splitOn, List.splitOn_intercalate separator hParts hSome]

theorem pieces_append_cons (separator : Char) (front back : List Char) :
    pieces separator (front ++ separator :: back) =
      pieces separator front ++ pieces separator back := by
  simp only [pieces_eq_splitOn, List.splitOn_append_cons_self]

theorem pieces_of_not_mem {separator : Char} {chars : List Char} (hNone : separator ∉ chars) :
    pieces separator chars = [chars] := by
  rw [pieces_eq_splitOn, List.splitOn_eq_singleton hNone]

theorem mem_of_mem_pieces {separator c : Char} {chars piece : List Char}
    (hPiece : piece ∈ pieces separator chars) (hc : c ∈ piece) : c ∈ chars := by
  induction chars generalizing piece with
  | nil =>
      have hEmpty : piece = [] := by simpa [pieces] using hPiece
      simp [hEmpty] at hc
  | cons first rest ih =>
      rw [pieces] at hPiece
      split_ifs at hPiece with hFirst
      · rcases List.mem_cons.mp hPiece with rfl | hPiece
        · simp at hc
        · exact List.mem_cons_of_mem _ (ih hPiece hc)
      · cases hRest : pieces separator rest with
        | nil => exact absurd hRest (pieces_ne_nil separator rest)
        | cons head others =>
            rw [hRest] at ih hPiece
            rcases List.mem_cons.mp hPiece with rfl | hPiece
            · rcases List.mem_cons.mp hc with rfl | hc
              · exact List.mem_cons_self
              · exact List.mem_cons_of_mem _ (ih List.mem_cons_self hc)
            · exact List.mem_cons_of_mem _ (ih (List.mem_cons_of_mem _ hPiece) hc)

/-- Separators in front of a text only make empty pieces. -/
theorem mem_pieces_dropWhile_iff {separator : Char} {piece chars : List Char}
    (hSome : piece ≠ []) :
    piece ∈ pieces separator (chars.dropWhile (· == separator)) ↔
      piece ∈ pieces separator chars := by
  induction chars with
  | nil => rfl
  | cons c rest ih =>
      by_cases hc : c = separator
      · rw [List.dropWhile_cons_of_pos (by simpa using hc), ih, pieces, if_pos hc, List.mem_cons,
          or_iff_right hSome]
      · rw [List.dropWhile_cons_of_neg (by simpa using hc)]

/-- Two texts joined at a separator that both may contain. Where the cut is not the same, the first
part of one join runs into the second part of the other. -/
theorem append_cons_eq_append_cons_iff {α : Type} {sep : α} {s t b c : List α} :
    s ++ sep :: b = t ++ sep :: c ↔
      (s = t ∧ b = c) ∨ (∃ middle, t = s ++ sep :: middle ∧ b = middle ++ sep :: c) ∨
        ∃ middle, s = t ++ sep :: middle ∧ c = middle ++ sep :: b := by
  constructor
  · intro hSame
    rcases List.append_eq_append_iff.mp hSame with
      ⟨extra, hExtends, hRest⟩ | ⟨extra, hExtends, hRest⟩
    · rcases List.cons_eq_append_iff.mp hRest with ⟨rfl, hTail⟩ | ⟨middle, rfl, hTail⟩
      · rw [List.append_nil] at hExtends
        exact Or.inl ⟨hExtends.symm, (List.cons.inj hTail).2.symm⟩
      · exact Or.inr (Or.inl ⟨middle, hExtends, hTail⟩)
    · rcases List.cons_eq_append_iff.mp hRest with ⟨rfl, hTail⟩ | ⟨middle, rfl, hTail⟩
      · rw [List.append_nil] at hExtends
        exact Or.inl ⟨hExtends, (List.cons.inj hTail).2⟩
      · exact Or.inr (Or.inr ⟨middle, hExtends, hTail⟩)
  · rintro (⟨rfl, rfl⟩ | ⟨middle, rfl, rfl⟩ | ⟨middle, rfl, rfl⟩)
    · rfl
    · rw [List.append_assoc, List.cons_append]
    · rw [List.append_assoc, List.cons_append]

/-- A part without the separator ends at the first one of a join. -/
theorem append_cons_inj_of_not_mem {α : Type} {sep : α} {s t b c : List α} (hs : sep ∉ s)
    (ht : sep ∉ t) : s ++ sep :: b = t ++ sep :: c ↔ s = t ∧ b = c := by
  rw [append_cons_eq_append_cons_iff]
  constructor
  · rintro (hSame | ⟨middle, rfl, _⟩ | ⟨middle, rfl, _⟩)
    · exact hSame
    · simp at ht
    · simp at hs
  · exact Or.inl

end TenantRoutes.Text
